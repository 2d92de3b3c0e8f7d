import ConnPool.Driver
import ConnPool.Pool.Basic

/-!
# Closing connections in bulk

A pool closes many connections at once when it evicts those that have idled too long
(`ConnPool.Pool.prune`) and when it is closed itself (`ConnPool.Pool.closeAll`). Both
are best-effort: every connection has its turn, one that fails to close does not keep
the others from theirs, and the failures are reported at the end.

The idle connections come in the order in which they have waited. For those checked
out the table suggests no order; `ConnPool.Pool.closeIn` closes them in any given one
and `ConnPool.Pool.closeAll` by ascending number.
-/

namespace ConnPool

/-! ### Reports -/

/-- A connection that could not be closed cleanly. -/
structure FailedClose (ε : Type) where
  /-- The number of the connection. -/
  id : ConnId
  /-- What went wrong. -/
  error : ε
  deriving DecidableEq

/-- The result of closing a pool. -/
structure ClosingReport (ε : Type) where
  /-- How many connections have been closed cleanly by this call. -/
  closed : Nat
  /-- The connections that failed, in the order of the attempts. -/
  failures : List (FailedClose ε)
  deriving DecidableEq

/-- Whether no close has failed. -/
def ClosingReport.isClean {ε : Type} (r : ClosingReport ε) : Bool := r.failures.isEmpty

/-- The result of evicting idle connections. -/
structure EvictionReport (ε : Type) where
  /-- How many connections have been evicted. -/
  evicted : Nat
  /-- The evicted connections that failed to close, in the order of the attempts. -/
  failures : List (FailedClose ε)
  deriving DecidableEq

/-- The attempts to close some connections: the number of each connection and what
came of it. -/
abbrev CloseAttempts (ε : Type) := List (ConnId × Except ε Bool)

namespace CloseAttempts

variable {ε : Type}

/-- How many attempts closed their connection cleanly. -/
def closed (attempts : CloseAttempts ε) : Nat :=
  attempts.countP fun a => match a.2 with
    | .ok true => true
    | _ => false

/-- The attempts that failed. -/
def failures (attempts : CloseAttempts ε) : List (FailedClose ε) :=
  attempts.filterMap fun a => match a.2 with
    | .ok _ => none
    | .error e => some ⟨a.1, e⟩

end CloseAttempts

variable {W C ε : Type}

/-- Closes the connections of a list that are open, one after the other. -/
def Driver.closeEach (d : Driver W C ε) : List (Handle C) → W → CloseAttempts ε × W
  | [], w => ([], w)
  | h :: rest, w =>
    match d.shut h.conn w with
    | (result, w) =>
      match d.closeEach rest w with
      | (attempts, w) => ((h.id, result) :: attempts, w)

/-! ### Idle eviction -/

namespace Pool

/-- Whether a connection has idled for the timeout at the reading `now`. One without a
stamp has not. -/
def expired (p : Pool C) (now : Instant) (h : Handle C) : Bool :=
  (p.stamps.get? h.id).any fun since => p.config.idleTimeout ≤ now.since since

/-- **Evicts the connections that have idled for the timeout.** A pool that is closed
or does not evict is left alone, and a connection that is checked out is never
touched. -/
def prune (d : Driver W C ε) (p : Pool C) (w : W) : EvictionReport ε × Pool C × W :=
  if p.closed || !p.config.evictsIdle then (⟨0, []⟩, p, w)
  else
    match d.now w with
    | (now, w) =>
      match p.idle.partition (p.expired now) with
      | (expired, kept) =>
        match d.closeEach expired.reverse w with
        | (attempts, w) =>
          (⟨expired.length, attempts.failures⟩,
            { p with idle := kept, stamps := p.stamps.eraseAll (expired.map Handle.id) }, w)

/-! ### Closing the pool -/

/-- Closes the pool, and with it every connection it owns: the idle ones, then those of
a list. The collections stay as they are, for inspection and for late releases. -/
def closeIn (d : Driver W C ε) (order : List (Handle C)) (p : Pool C) (w : W) :
    ClosingReport ε × Pool C × W :=
  match d.closeEach (p.idleHandles ++ order) w with
  | (attempts, w) => (⟨attempts.closed, attempts.failures⟩, { p with closed := true }, w)

/-- **Closes the pool**, its idle connections first and those checked out after them, by
ascending number. -/
def closeAll (d : Driver W C ε) (p : Pool C) (w : W) : ClosingReport ε × Pool C × W :=
  p.closeIn d p.heldHandles w

end Pool

end ConnPool
