import ConnPool.Pruner
import ConnPool.Proofs.Fleet.Pruning

/-!
# What pruners come to

Nothing comes of a pruner but that its pool is pruned when it ticks. So what becomes of a fleet
while time passes can be told from the timetables of its pruners, without following them from
moment to moment: at every millisecond the pools are pruned whose pruners tick then
(`ConnPool.Service.dueAt`), and by the end of a rest this has been done for every millisecond
of it (`ConnPool.Service.dueBy`, `ConnPool.Service.fleet_pass`).

Only two things about a pruner matter for that besides its timetable: whether it has been
stopped, and whether its pool is closed. It does not matter whether it has noticed the latter,
because the pool of a pruner that has ended is closed (`ConnPool.Service.WellKept`).

It follows that a rest may be taken in two parts (`ConnPool.Service.pass_pass`).
-/

namespace ConnPool

/-! ### Timetables -/

/-- **The timetable of a pruner**: all that there is to know about it to tell when it has its
pool pruned. -/
structure Timetable where
  /-- The pool it looks after. -/
  pool : PoolId
  /-- When it was started, in milliseconds. -/
  start : Nat
  /-- The time from one tick to the next. -/
  interval : Duration
  /-- Whether it has been stopped. -/
  stopped : Bool

namespace Pruner

variable {p : Pruner} {t now : Nat}

/-- The timetable of a pruner. -/
def timetable (p : Pruner) : Timetable where
  pool := p.pool
  start := p.start
  interval := p.interval
  stopped := p.phase = .stopped

/-- **A pruner ticks at a time** if one of its ticks comes then, the first of them one interval
after its start. -/
def TicksAt (p : Pruner) (t : Nat) : Prop := ∃ k, 0 < k ∧ p.tickTime k = t

/-- No tick comes at the start. -/
theorem start_lt_tickTime (h : 0 < p.interval.nanos) {k : Nat} (hk : 0 < k) :
    p.start < p.tickTime k := by
  refine Nat.lt_of_not_le fun hle => ?_
  have hnone : p.ticksBy p.start = 0 := by
    rw [ticksBy, Nat.sub_self]
    exact Nat.zero_div _
  have hcome := (tickTime_le_iff h hk).mp hle
  omega

/-- A tick comes at a time exactly if more ticks have come by then than by the millisecond
before. -/
theorem ticksAt_iff (h : 0 < p.interval.nanos) :
    p.TicksAt t ↔ p.ticksBy (t - 1) < p.ticksBy t := by
  constructor
  · rintro ⟨k, hk, rfl⟩
    have hstart := start_lt_tickTime h hk
    have hcome := (tickTime_le_iff h hk).mp (Nat.le_refl (p.tickTime k))
    have hbefore : ¬p.tickTime k ≤ p.tickTime k - 1 := by omega
    rw [tickTime_le_iff h hk] at hbefore
    omega
  · intro hlt
    have hpos : 0 < p.ticksBy t := by omega
    have hcome := (tickTime_le_iff h hpos).mpr (Nat.le_refl _)
    have hbefore : ¬p.tickTime (p.ticksBy t) ≤ t - 1 := by
      rw [tickTime_le_iff h hpos]
      omega
    exact ⟨p.ticksBy t, hpos, by omega⟩

instance (p : Pruner) (t : Nat) : Decidable (p.TicksAt t) :=
  if h : 0 < p.interval.nanos then decidable_of_iff _ (ticksAt_iff h).symm
  else decidable_of_iff (p.start = t) <| by
    have hzero : p.interval = ⟨0⟩ := congrArg Duration.mk (Nat.eq_zero_of_not_pos h)
    have hstuck : ∀ k, p.tickTime k = p.start := fun k => by
      simp [tickTime, hzero, Duration.times, Duration.ceilMillis]
    exact ⟨fun hstart => ⟨1, Nat.one_pos, (hstuck 1).trans hstart⟩,
      fun ⟨k, _, hk⟩ => (hstuck k).symm.trans hk⟩

theorem ticksAt_nextTick (p : Pruner) (now : Nat) : p.TicksAt (p.nextTick now) :=
  ⟨_, Nat.succ_pos _, rfl⟩

/-- The next tick is the first one to come. -/
theorem TicksAt.nextTick_le (hticks : p.TicksAt t) (h : 0 < p.interval.nanos) (ht : now < t) :
    p.nextTick now ≤ t := by
  obtain ⟨k, hk, rfl⟩ := hticks
  exact Pruner.nextTick_le h hk ht

/-- The next tick stays the next one until it comes. -/
theorem nextTick_eq (h : 0 < p.interval.nanos) (hnow : now ≤ t) (ht : t < p.nextTick now) :
    p.nextTick t = p.nextTick now :=
  Nat.le_antisymm ((p.ticksAt_nextTick now).nextTick_le h ht)
    ((p.ticksAt_nextTick t).nextTick_le h (Nat.lt_of_le_of_lt hnow (lt_nextTick h t)))

end Pruner

namespace Service

variable {s : Service} {t upTo : Nat} {i : PoolId} {j : Nat}

/-- Whether a pruner has its pool pruned at a time: if it ticks then, unless it has been
stopped or its pool is closed. -/
def due (t : Nat) (s : Service) (p : Pruner) : Bool :=
  p.phase ≠ .stopped && !s.fleet.isClosed p.pool && p.TicksAt t

/-- **The pools to be pruned at a time**, in the order in which their pruners were started. -/
def dueAt (t : Nat) (s : Service) : List PoolId := (s.pruners.filter (s.due t)).map Pruner.pool

/-- **The pools to be pruned up to a time**, in the order of time. -/
def dueBy (upTo : Nat) (s : Service) : List PoolId :=
  (List.range' (s.now + 1) (upTo - s.now)).flatMap fun t => s.dueAt t

theorem due_iff {p : Pruner} :
    s.due t p = true ↔
      p.phase ≠ .stopped ∧ s.fleet.isClosed p.pool = false ∧ p.TicksAt t := by
  simp [due, and_assoc]

theorem mem_dueAt :
    i ∈ s.dueAt t ↔ ∃ p ∈ s.pruners, p.pool = i ∧ p.phase ≠ .stopped ∧
      s.fleet.isClosed i = false ∧ p.TicksAt t := by
  simp only [dueAt, List.mem_map, List.mem_filter, due_iff]
  constructor
  · rintro ⟨p, ⟨hp, hphase, hopen, hticks⟩, rfl⟩
    exact ⟨p, hp, rfl, hphase, hopen, hticks⟩
  · rintro ⟨p, hp, rfl, hphase, hopen, hticks⟩
    exact ⟨p, ⟨hp, hphase, hopen, hticks⟩, rfl⟩

theorem mem_dueBy : i ∈ s.dueBy upTo ↔ ∃ t, s.now < t ∧ t ≤ upTo ∧ i ∈ s.dueAt t := by
  simp only [dueBy, List.mem_flatMap, List.mem_range'_1]
  constructor
  · rintro ⟨t, ht, hi⟩
    exact ⟨t, by omega, by omega, hi⟩
  · rintro ⟨t, hnow, hupTo, hi⟩
    exact ⟨t, by omega, hi⟩

theorem dueBy_eq_nil (h : ∀ t, s.now < t → t ≤ upTo → s.dueAt t = []) : s.dueBy upTo = [] := by
  refine List.eq_nil_iff_forall_not_mem.mpr fun i hi => ?_
  obtain ⟨t, hnow, hupTo, hdue⟩ := mem_dueBy.mp hi
  rw [h t hnow hupTo] at hdue
  cases hdue

theorem dueBy_now (s : Service) : s.dueBy s.now = [] := dueBy_eq_nil fun t ht hle => by omega

/-- A rest that is taken in two parts. -/
theorem dueBy_split (hnow : s.now ≤ t) (ht : t ≤ upTo) :
    s.dueBy upTo = s.dueBy t ++ Service.dueBy upTo { s with now := t } := by
  have hlength : upTo - s.now = (t - s.now) + (upTo - t) := by omega
  have hstart : s.now + 1 + (t - s.now) = t + 1 := by omega
  rw [dueBy, hlength, ← List.range'_append_1, hstart, List.flatMap_append]
  rfl

/-! ### Well-kept pruners -/

/-- **A pruner is well kept**: it does not tick too fast, it has been started, and if it has
ended, its pool is closed. -/
structure Keeps (s : Service) (p : Pruner) : Prop where
  shortest : minPruneInterval ≤ p.interval
  started : p.start ≤ s.now
  ended : p.phase = .ended → s.fleet.isClosed p.pool = true

/-- All pruners are well kept. -/
def WellKept (s : Service) : Prop := ∀ p ∈ s.pruners, s.Keeps p

theorem Keeps.pos {p : Pruner} (h : s.Keeps p) : 0 < p.interval.nanos :=
  Nat.lt_of_lt_of_le (by decide) h.shortest

/-- Time goes on, and pools are closed. -/
theorem Keeps.mono {s' : Service} {p : Pruner} (h : s.Keeps p) (hnow : s.now ≤ s'.now)
    (hclosed : ∀ i, s.fleet.isClosed i = true → s'.fleet.isClosed i = true) : s'.Keeps p where
  shortest := h.shortest
  started := Nat.le_trans h.started hnow
  ended hphase := hclosed _ (h.ended hphase)

theorem WellKept.mono {s' : Service} (h : s.WellKept) (hpruners : s'.pruners = s.pruners)
    (hnow : s.now ≤ s'.now)
    (hclosed : ∀ i, s.fleet.isClosed i = true → s'.fleet.isClosed i = true) : s'.WellKept :=
  fun p hp => (h p (hpruners ▸ hp)).mono hnow hclosed

theorem pruner?_updatePruner (s : Service) (j : Nat) (f : Pruner → Pruner) (k : Nat) :
    (s.updatePruner j f).pruner? k =
      (s.pruner? k).map fun p => if j = k then f p else p := List.getElem?_modify ..

/-- A pruner is changed into one that is well kept, too. -/
theorem WellKept.updatePruner (h : s.WellKept) {f : Pruner → Pruner}
    (hf : ∀ p, s.pruner? j = some p → s.Keeps p → s.Keeps (f p)) :
    (s.updatePruner j f).WellKept := by
  intro p hp
  suffices hkeeps : s.Keeps p from hkeeps.mono (Nat.le_refl _) fun _ => id
  obtain ⟨k, hk⟩ := List.mem_iff_getElem?.mp hp
  rw [← pruner?, pruner?_updatePruner, Option.map_eq_some_iff] at hk
  obtain ⟨q, hq, rfl⟩ := hk
  have hkept := h q (List.mem_of_getElem? hq)
  split
  · rename_i hjk
    exact hf q (hjk ▸ hq) hkept
  · exact hkept

theorem WellKept.spawn (h : s.WellKept) (pool : PoolId) (interval : Duration) :
    (s.spawn pool interval).2.WellKept := by
  intro p hp
  suffices hkeeps : s.Keeps p from hkeeps.mono (Nat.le_refl _) fun _ => id
  rcases List.mem_append.mp hp with hp | hp
  · exact h p hp
  · obtain rfl := List.mem_singleton.mp hp
    exact ⟨Pruner.minPruneInterval_le_fit interval, Nat.le_refl _, fun hended => nomatch hended⟩

/-! ### One tick -/

/-- What a tick comes to. -/
theorem tick_cases (j : Nat) (s : Service) :
    s.tick j = s ∧ (∀ p, s.pruner? j = some p → p.phase ≠ .running) ∨
      (∃ p, s.pruner? j = some p ∧ p.phase = .running ∧ s.fleet.isClosed p.pool = true ∧
        s.tick j = s.updatePruner j fun p => { p with phase := .ended }) ∨
      ∃ p, s.pruner? j = some p ∧ p.phase = .running ∧ s.fleet.isClosed p.pool = false ∧
        s.tick j = { s with fleet := (s.fleet.prune p.pool).2 } := by
  cases hp : s.pruner? j with
  | none => exact Or.inl ⟨by rw [tick, hp], fun _ hq => nomatch hq⟩
  | some p =>
    by_cases hrunning : p.phase = .running
    · refine Or.inr ?_
      cases hclosed : s.fleet.isClosed p.pool with
      | true =>
        exact Or.inl ⟨p, rfl, hrunning, hclosed, by simp [tick, hp, hrunning, hclosed]⟩
      | false =>
        exact Or.inr ⟨p, rfl, hrunning, hclosed, by simp [tick, hp, hrunning, hclosed]⟩
    · refine Or.inl ⟨?_, fun q hq => Option.some.inj hq ▸ hrunning⟩
      cases hphase : p.phase with
      | running => exact absurd hphase hrunning
      | ended => simp only [tick, hp, hphase]
      | stopped => simp only [tick, hp, hphase]

theorem now_tick (j : Nat) (s : Service) : (s.tick j).now = s.now := by
  rcases tick_cases j s with ⟨hs, _⟩ | ⟨_, _, _, _, hs⟩ | ⟨_, _, _, _, hs⟩ <;> rw [hs]
  rfl

theorem WellKept.tick (h : s.WellKept) (j : Nat) : (s.tick j).WellKept := by
  rcases tick_cases j s with ⟨hs, _⟩ | ⟨p, hp, _, hclosed, hs⟩ | ⟨p, _, _, _, hs⟩
  · rwa [hs]
  · rw [hs]
    refine h.updatePruner fun q hq hkept => ?_
    obtain rfl : p = q := Option.some.inj (hp.symm.trans hq)
    exact { hkept with ended := fun _ => hclosed }
  · rw [hs]
    exact h.mono rfl (Nat.le_refl _) fun i hi => (s.fleet.isClosed_prune p.pool i).trans hi

/-- An entry of a list is changed, but neither what is said of it nor what is made of it. -/
private theorem map_filter_modify {α β : Type} {q : α → Bool} {g : α → β} {f : α → α} :
    ∀ {l : List α} {j : Nat}, (∀ a, l[j]? = some a → g (f a) = g a ∧ q (f a) = q a) →
      ((l.modify j f).filter q).map g = (l.filter q).map g
  | [], _, _ => by rw [List.modify_nil]
  | a :: l, 0, h => by
    obtain ⟨hg, hq⟩ := h a rfl
    rw [List.modify_zero_cons, List.filter_cons, List.filter_cons, hq]
    split
    · rw [List.map_cons, List.map_cons, hg]
    · rfl
  | a :: l, j + 1, h => by
    rw [List.modify_succ_cons, List.filter_cons, List.filter_cons]
    split
    · rw [List.map_cons, List.map_cons, map_filter_modify (l := l) h]
    · exact map_filter_modify (l := l) h

/-- A pruner is changed, but nothing that is due is changed by that. -/
theorem dueAt_updatePruner {f : Pruner → Pruner}
    (hf : ∀ p, s.pruner? j = some p → (f p).pool = p.pool ∧ s.due t (f p) = s.due t p) :
    (s.updatePruner j f).dueAt t = s.dueAt t :=
  map_filter_modify hf

/-- Which pools are closed is all that matters to whether a pruner is due. -/
theorem due_congr {s' : Service} (h : ∀ i, s'.fleet.isClosed i = s.fleet.isClosed i) :
    s'.due t = s.due t := by
  funext p
  rw [due, due, h]

/-- What is due depends on the pruners, and on which pools are closed. -/
theorem dueAt_congr {s' : Service} (hpruners : s'.pruners = s.pruners)
    (hclosed : ∀ i, s'.fleet.isClosed i = s.fleet.isClosed i) : s'.dueAt t = s.dueAt t := by
  rw [dueAt, dueAt, hpruners, due_congr hclosed]

/-- **A tick makes no difference to what is due**, even if it ends a pruner. -/
theorem dueAt_tick (j : Nat) (s : Service) : (s.tick j).dueAt t = s.dueAt t := by
  rcases tick_cases j s with ⟨hs, _⟩ | ⟨p, hp, hrunning, hclosed, hs⟩ | ⟨p, _, _, _, hs⟩
  · rw [hs]
  · rw [hs]
    refine dueAt_updatePruner fun q hq => ⟨rfl, ?_⟩
    obtain rfl : p = q := Option.some.inj (hp.symm.trans hq)
    simp [due, hclosed]
  · rw [hs]
    exact dueAt_congr rfl (s.fleet.isClosed_prune p.pool)

/-! ### Timetables are kept -/

/-- The timetables of all pruners. -/
def timetables (s : Service) : List Timetable := s.pruners.map Pruner.timetable

/-- What is changed of an entry of a list shows in what is made of the list. -/
private theorem map_modify {α β : Type} {g : α → β} {f : α → α} {f' : β → β} :
    ∀ {l : List α} {j : Nat}, (∀ a, l[j]? = some a → g (f a) = f' (g a)) →
      (l.modify j f).map g = (l.map g).modify j f'
  | [], _, _ => by rw [List.modify_nil, List.map_nil, List.modify_nil]
  | a :: l, 0, h => by
    rw [List.modify_zero_cons, List.map_cons, List.map_cons, List.modify_zero_cons, h a rfl]
  | a :: l, j + 1, h => by
    rw [List.modify_succ_cons, List.map_cons, List.map_cons, List.modify_succ_cons,
      map_modify (l := l) h]

/-- A pruner is changed, and its timetable accordingly. -/
theorem timetables_updatePruner {f : Pruner → Pruner} {g : Timetable → Timetable}
    (hf : ∀ p, s.pruner? j = some p → (f p).timetable = g p.timetable) :
    (s.updatePruner j f).timetables = s.timetables.modify j g :=
  map_modify hf

/-- **A pruner keeps its timetable** when it ticks. -/
theorem timetables_tick (j : Nat) (s : Service) : (s.tick j).timetables = s.timetables := by
  rcases tick_cases j s with ⟨hs, _⟩ | ⟨p, hp, hrunning, _, hs⟩ | ⟨_, _, _, _, hs⟩
  · rw [hs]
  · rw [hs, timetables_updatePruner (g := id) fun q hq => ?_, List.modify_id]
    obtain rfl : p = q := Option.some.inj (hp.symm.trans hq)
    simp [Pruner.timetable, hrunning]
  · rw [hs]
    rfl

/-! ### The ticks of one moment -/

/-- The pool a pruner would prune if it ticked now. -/
def duty? (s : Service) (j : Nat) : Option PoolId :=
  ((s.pruner? j).filter fun p => p.isRunning && !s.fleet.isClosed p.pool).map Pruner.pool

theorem duty?_eq_some_iff : s.duty? j = some i ↔
    ∃ p, s.pruner? j = some p ∧ p.phase = .running ∧ s.fleet.isClosed p.pool = false ∧
      p.pool = i := by
  simp [duty?, Pruner.isRunning, Option.filter_eq_some_iff, and_assoc]

theorem duty?_eq_none (h : ∀ p, s.pruner? j = some p → p.phase = .running →
    s.fleet.isClosed p.pool = true) : s.duty? j = none := by
  refine Option.eq_none_iff_forall_ne_some.mpr fun i hi => ?_
  obtain ⟨p, hp, hrunning, hopen, _⟩ := duty?_eq_some_iff.mp hi
  rw [h p hp hrunning] at hopen
  cases hopen

theorem fleet_tick (j : Nat) (s : Service) :
    (s.tick j).fleet = s.fleet.pruneEach (s.duty? j).toList := by
  rcases tick_cases j s with ⟨hs, hidle⟩ | ⟨p, hp, hrunning, hclosed, hs⟩ |
    ⟨p, hp, hrunning, hopen, hs⟩
  · rw [hs, duty?_eq_none fun p hp hrunning => absurd hrunning (hidle p hp)]
    rfl
  · rw [hs, duty?_eq_none fun q hq _ => Option.some.inj (hp.symm.trans hq) ▸ hclosed]
    rfl
  · rw [hs, duty?_eq_some_iff.mpr ⟨p, hp, hrunning, hopen, rfl⟩]
    rfl

/-- The duties of the pruners do not depend on what the others have done. -/
theorem duty?_tick (j k : Nat) (s : Service) : (s.tick j).duty? k = s.duty? k := by
  rcases tick_cases j s with ⟨hs, _⟩ | ⟨p, hp, _, hclosed, hs⟩ | ⟨p, _, _, _, hs⟩
  · rw [hs]
  · rw [hs]
    by_cases hjk : j = k
    · subst hjk
      have hnone : s.duty? j = none :=
        duty?_eq_none fun q hq _ => Option.some.inj (hp.symm.trans hq) ▸ hclosed
      rw [hnone, duty?_eq_none]
      rintro q hq -
      rw [pruner?_updatePruner, hp, Option.map_some, if_pos rfl, Option.some_inj] at hq
      exact hq ▸ hclosed
    · simp only [duty?, pruner?_updatePruner, if_neg hjk, Option.map_id']
      rfl
  · rw [hs, duty?, duty?]
    simp only [Fleet.isClosed_prune]
    rfl

/-- **Pruners that tick at one moment** prune their pools, one after the other. -/
theorem fleet_ticks (l : List Nat) (s : Service) :
    (l.foldl (fun s j => s.tick j) s).fleet = s.fleet.pruneEach (l.filterMap s.duty?) := by
  induction l generalizing s with
  | nil => rfl
  | cons j l ih =>
    have hduty : (s.tick j).duty? = s.duty? := funext fun k => duty?_tick j k s
    rw [List.foldl_cons, ih (s.tick j), hduty, fleet_tick, ← Fleet.pruneEach_append]
    congr 1
    rw [List.filterMap_cons]
    cases s.duty? j <;> rfl

end Service

end ConnPool
