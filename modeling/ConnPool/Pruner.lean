import ConnPool.Fleet

/-!
# Pruners

A pruner looks after one pool: from the moment it is started it ticks at a fixed
interval, and at each tick it evicts the connections of its pool that have idled too
long – or, if the pool has been closed, it ends. Pruners run on a **virtual time** of
their own, which moves only when somebody waits; the clocks of the pools are another
matter.

Virtual time is counted in whole milliseconds, and an interval may be finer than that.
The `k`th tick comes at the first millisecond at which `k` intervals have passed
(`ConnPool.Pruner.tickTime`): every tick is late by less than a millisecond, and the
delays do not add up.

No pruner ticks faster than a minimum allows (`ConnPool.Pruner.fit`).

`ConnPool.Service` is a fleet together with its pruners. To wait is to go from one
moment at which a running pruner ticks to the next (`ConnPool.Service.pass`). Two
pruners never act on each other, so all that matters of their order is the order in
which a pool sees its own ticks and the world its closes.

Whoever starts a pruner holds a handle to it. Stopping the pruner and waiting for its
end both give the handle up; a pruner whose handle is given up by waiting in vain goes
on on its own.
-/

namespace ConnPool

/-- The shortest interval a pruner ticks at. -/
def minPruneInterval : Duration := Duration.ofMillis 10

/-- What a pruner is up to. -/
inductive PrunerPhase where
  /-- It ticks. -/
  | running
  /-- It has found its pool closed and has ended. -/
  | ended
  /-- It has been stopped. -/
  | stopped
  deriving DecidableEq

/-- A pruner of a pool. -/
structure Pruner where
  /-- The pool it looks after. -/
  pool : PoolId
  /-- When it was started, in milliseconds. -/
  start : Nat
  /-- The time from one tick to the next. -/
  interval : Duration
  /-- What it is up to. -/
  phase : PrunerPhase := .running
  /-- Whether its handle is still held. -/
  attached : Bool := true
  deriving DecidableEq

namespace Pruner

/-- The interval at which a pruner ticks that is asked to tick at another. -/
def fit (interval : Duration) : Duration := interval.max minPruneInterval

/-- No pruner ticks faster than pruners may. -/
theorem minPruneInterval_le_fit (interval : Duration) : minPruneInterval ≤ fit interval :=
  Nat.le_max_right _ _

/-- When a pruner ticks for the `k`th time: at the first millisecond at which `k` of its
intervals have passed since its start. -/
def tickTime (p : Pruner) (k : Nat) : Nat := p.start + (p.interval.times k).ceilMillis

/-- How many times a pruner has ticked by a time. -/
def ticksBy (p : Pruner) (t : Nat) : Nat :=
  (Duration.ofMillis (t - p.start)).nanos / p.interval.nanos

/-- The first tick of a pruner after a time. -/
def nextTick (p : Pruner) (t : Nat) : Nat := p.tickTime (p.ticksBy t + 1)

/-- Whether a pruner ticks. -/
def isRunning (p : Pruner) : Bool := p.phase = .running

/-- A tick has come by a time exactly if the ticks that have come by then include it. -/
theorem tickTime_le_iff {p : Pruner} (h : 0 < p.interval.nanos) {k : Nat} (hk : 0 < k)
    {t : Nat} : p.tickTime k ≤ t ↔ k ≤ p.ticksBy t := by
  have hpos : 0 < k * p.interval.nanos := Nat.mul_pos hk h
  rw [ticksBy, Nat.le_div_iff_mul_le h]
  simp only [tickTime, Duration.ceilMillis, Duration.times, Duration.ofMillis]
  generalize k * p.interval.nanos = passed at hpos
  omega

/-- The next tick has not come yet. -/
theorem lt_nextTick {p : Pruner} (h : 0 < p.interval.nanos) (t : Nat) : t < p.nextTick t :=
  Nat.lt_of_not_le fun hc => by
    have := (tickTime_le_iff h (Nat.succ_pos _)).1 hc
    omega

/-- Every tick that has not come yet comes with the next one or after it. -/
theorem nextTick_le {p : Pruner} (h : 0 < p.interval.nanos) {k : Nat} (hk : 0 < k) {t : Nat}
    (ht : t < p.tickTime k) : p.nextTick t ≤ p.tickTime k := by
  have hlate : p.ticksBy t < k :=
    Nat.lt_of_not_le fun hc => Nat.not_le_of_gt ht ((tickTime_le_iff h hk).2 hc)
  have hself : k ≤ p.ticksBy (p.tickTime k) := (tickTime_le_iff h hk).1 (Nat.le_refl _)
  exact (tickTime_le_iff h (Nat.succ_pos _)).2 (by omega)

end Pruner

/-- A fleet with the pruners that look after it. -/
structure Service where
  /-- The pools and their world. -/
  fleet : Fleet := {}
  /-- Every pruner ever started. -/
  pruners : List Pruner := []
  /-- The virtual time, in milliseconds. -/
  now : Nat := 0

namespace Service

/-! ### One tick -/

/-- A pruner of the service. -/
def pruner? (s : Service) (j : Nat) : Option Pruner := s.pruners[j]?

/-- Changes a pruner. -/
def updatePruner (j : Nat) (f : Pruner → Pruner) (s : Service) : Service :=
  { s with pruners := s.pruners.modify j f }

/-- Starts a pruner. -/
def spawn (pool : PoolId) (interval : Duration) (s : Service) : Nat × Service :=
  (s.pruners.length,
    { s with
      pruners := s.pruners ++ [{ pool, start := s.now, interval := Pruner.fit interval }] })

/-- **A tick**: a running pruner ends if its pool is closed, and prunes it otherwise. -/
def tick (j : Nat) (s : Service) : Service :=
  match s.pruner? j with
  | none => s
  | some p =>
    match p.phase with
    | .running =>
      if s.fleet.isClosed p.pool then s.updatePruner j fun p => { p with phase := .ended }
      else { s with fleet := (s.fleet.prune p.pool).2 }
    | _ => s

/-- Whether a pruner has ended by itself. -/
def hasEnded (j : Nat) (s : Service) : Bool :=
  (s.pruner? j).any fun p => p.phase = .ended

/-! ### The passing of time -/

/-- The next moment at which a running pruner ticks. -/
def nextMoment? (s : Service) : Option Nat :=
  ((s.pruners.filter Pruner.isRunning).map fun p => p.nextTick s.now).min?

/-- The running pruners that tick next at a time, in the order in which they were started. -/
def tickingAt (t : Nat) (s : Service) : List Nat :=
  (s.pruners.zipIdx.filter fun e => e.1.isRunning && e.1.nextTick s.now = t).map Prod.snd

/-- Goes to the next moment: the time moves there, and every pruner that is due ticks. -/
def reach (t : Nat) (s : Service) : Service :=
  { (s.tickingAt t).foldl (fun s j => s.tick j) s with now := t }

/-- Goes from moment to moment, up to a time or until a condition is met. Answers whether
it has been met; if not, the time stands at the end. -/
def pass (stop : Service → Bool) (upTo : Nat) (s : Service) : Bool × Service :=
  if stop s then (true, s)
  else
    match s.nextMoment? with
    | none => (false, { s with now := upTo })
    | some t =>
      if _ : s.now < t ∧ t ≤ upTo then pass stop upTo (s.reach t)
      else (false, { s with now := upTo })
termination_by upTo - s.now
decreasing_by
  dsimp only [reach]
  omega

/-- **Lets a span of time pass**. -/
def wait (span : Nat) (s : Service) : Service := (s.pass (fun _ => false) (s.now + span)).2

/-- Waits for the end of a pruner, but no longer than a span of time, and answers whether it
has ended. The time stands where the waiting stopped. -/
def waitFor (j : Nat) (limit : Nat) (s : Service) : Bool × Service :=
  s.pass (hasEnded j) (s.now + limit)

/-! ### Handles -/

/-- Whether the pruner of a handle has ended; nothing if the handle has been given up. -/
def finished? (j : Nat) (s : Service) : Option Bool :=
  ((s.pruner? j).filter Pruner.attached).map fun p => p.phase = .ended

/-- Stops the pruner of a handle, and says whether the handle was still held. -/
def shutdown (j : Nat) (s : Service) : Bool × Service :=
  match s.finished? j with
  | none => (false, s)
  | some done =>
    (true, s.updatePruner j fun p =>
      { p with phase := if done then .ended else .stopped, attached := false })

/-- Waits for the pruner of a handle to end, which gives the handle up. -/
def join (j : Nat) (limit : Nat) (s : Service) : Option Bool × Service :=
  match s.finished? j with
  | none => (none, s)
  | some _ =>
    match (s.updatePruner j fun p => { p with attached := false }).waitFor j limit with
    | (ended, s) => (some ended, s)

end Service

end ConnPool
