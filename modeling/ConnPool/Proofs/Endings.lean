import ConnPool.Proofs.Waiting

/-!
# Pruners while time passes

While time passes, a pruner does nothing but tick, and a tick either ends it or prunes its pool.
No pool is opened or closed meanwhile, so which of the two it is has been settled before. What
becomes of a pruner can therefore be told without following it from moment to moment: it has ended
as soon as it has ticked, if its pool is closed (`ConnPool.Service.WellKept.pruner?_pass`), and it
has pruned its pool at each of its ticks otherwise (`ConnPool.Service.WellKept.mem_prunesIn`).

To say the latter, the prunes are recorded as they are made, each with the time and the pruner
(`ConnPool.Service.prunesIn`). Whoever waits for a pruner to end gets as far as to its next tick if
its pool is closed, and to the end of the rest if it is open
(`ConnPool.Service.WellKept.pass_hasEnded`).
-/

namespace ConnPool

namespace Pruner

variable {p q : Pruner}

/-- When a pruner ticks depends on when it has been started and at which interval. -/
theorem tickTime_congr (hstart : q.start = p.start) (hinterval : q.interval = p.interval) :
    q.tickTime = p.tickTime := by
  funext k
  rw [tickTime, tickTime, hstart, hinterval]

theorem nextTick_congr (hstart : q.start = p.start) (hinterval : q.interval = p.interval) :
    q.nextTick = p.nextTick := by
  funext t
  rw [nextTick, nextTick, tickTime_congr hstart hinterval, ticksBy, ticksBy, hstart, hinterval]

/-- A later tick does not come earlier. -/
theorem tickTime_mono (p : Pruner) {k l : Nat} (hkl : k ≤ l) : p.tickTime k ≤ p.tickTime l :=
  Nat.add_le_add_left (Nat.div_le_div_right
    (Nat.add_le_add_right (Nat.mul_le_mul_right p.interval.nanos hkl) 999999)) p.start

end Pruner

namespace Service

variable {s : Service} {t u upTo : Nat} {i : PoolId} {j k : Nat} {p : Pruner}
  {stop : Service → Bool}

/-! ### What a tick makes of a pruner -/

/-- A pruner that has ticked: it has ended, if its pool is closed. -/
def ticked (s : Service) (p : Pruner) : Pruner :=
  if p.phase = .running ∧ s.fleet.isClosed p.pool = true then { p with phase := .ended } else p

theorem ticked_of_open (hopen : s.fleet.isClosed p.pool = false) : s.ticked p = p :=
  if_neg fun h => Bool.eq_false_iff.mp hopen h.2

theorem ticked_of_not_running (hphase : p.phase ≠ .running) : s.ticked p = p :=
  if_neg fun h => hphase h.1

theorem ticked_ticked (s : Service) (p : Pruner) : s.ticked (s.ticked p) = s.ticked p := by
  unfold ticked
  split <;> simp

/-- Which pools are closed is all that matters. -/
theorem ticked_congr {s' : Service} (h : ∀ i, s'.fleet.isClosed i = s.fleet.isClosed i) :
    s'.ticked = s.ticked := by
  funext p
  rw [ticked, ticked, h]

theorem isClosed_tick (j : Nat) (s : Service) (i : PoolId) :
    (s.tick j).fleet.isClosed i = s.fleet.isClosed i := by
  rcases tick_cases j s with ⟨hs, _⟩ | ⟨_, _, _, _, hs⟩ | ⟨p, _, _, _, hs⟩ <;> rw [hs]
  · rfl
  · exact s.fleet.isClosed_prune p.pool i

/-- **A tick concerns the pruner that ticks.** -/
theorem pruner?_tick (j k : Nat) (s : Service) :
    (s.tick j).pruner? k = (s.pruner? k).map fun p => if j = k then s.ticked p else p := by
  have hsame : (∀ p, s.pruner? j = some p → s.ticked p = p) →
      s.pruner? k = (s.pruner? k).map fun p => if j = k then s.ticked p else p := by
    intro h
    cases hp : s.pruner? k with
    | none => rfl
    | some p =>
      rw [Option.map_some]
      split
      · rename_i hjk
        rw [h p (hjk ▸ hp)]
      · rfl
  rcases tick_cases j s with ⟨hs, hidle⟩ | ⟨p, hp, hrunning, hclosed, hs⟩ |
    ⟨p, hp, _, hopen, hs⟩
  · rw [hs]
    exact hsame fun p hp => ticked_of_not_running (hidle p hp)
  · rw [hs, pruner?_updatePruner]
    refine Option.map_congr fun q hq => ?_
    by_cases hjk : j = k
    · obtain rfl : p = q := Option.some.inj (hp.symm.trans (hjk ▸ hq))
      rw [if_pos hjk, if_pos hjk, ticked, if_pos ⟨hrunning, hclosed⟩]
    · rw [if_neg hjk, if_neg hjk]
  · rw [hs]
    refine hsame fun q hq => ?_
    obtain rfl : p = q := Option.some.inj (hp.symm.trans hq)
    exact ticked_of_open hopen

theorem isClosed_ticks (l : List Nat) (s : Service) (i : PoolId) :
    (l.foldl (fun s j => s.tick j) s).fleet.isClosed i = s.fleet.isClosed i :=
  ticks_invariant (P := fun s' => s'.fleet.isClosed i = s.fleet.isClosed i)
    (fun s' j hs' => (isClosed_tick j s' i).trans hs') l rfl

theorem pruner?_ticks (l : List Nat) (k : Nat) (s : Service) :
    (l.foldl (fun s j => s.tick j) s).pruner? k =
      (s.pruner? k).map fun p => if k ∈ l then s.ticked p else p := by
  induction l generalizing s with
  | nil => simp
  | cons j l ih =>
    rw [List.foldl_cons, ih, pruner?_tick, Option.map_map, ticked_congr (isClosed_tick j s)]
    refine Option.map_congr fun p _ => ?_
    by_cases hjk : j = k
    · -- it does not matter how often it ticks
      subst hjk
      simp [ticked_ticked]
    · simp [hjk, Ne.symm hjk]

/-! ### From moment to moment -/

theorem mem_tickingAt : j ∈ s.tickingAt t ↔
    ∃ p, s.pruner? j = some p ∧ p.phase = .running ∧ p.nextTick s.now = t := by
  simp [tickingAt, pruner?, Pruner.isRunning, List.mem_zipIdx_iff_getElem?]

/-- **A pruner at a later time**: it has ended, if it has ticked by then and its pool is closed. -/
def endedBy (s : Service) (t : Nat) (p : Pruner) : Pruner :=
  if p.nextTick s.now ≤ t then s.ticked p else p

theorem endedBy_of_open (hopen : s.fleet.isClosed p.pool = false) : s.endedBy t p = p := by
  rw [endedBy, ticked_of_open hopen, ite_self]

theorem endedBy_of_lt (hlt : t < p.nextTick s.now) : s.endedBy t p = p :=
  if_neg (Nat.not_le.mpr hlt)

theorem endedBy_of_not_running (hphase : p.phase ≠ .running) : s.endedBy t p = p := by
  rw [endedBy, ticked_of_not_running hphase, ite_self]

/-- It has ended only if it ran before. -/
theorem phase_endedBy : (s.endedBy t p).phase =
    if p.phase = .running ∧ s.fleet.isClosed p.pool = true ∧ p.nextTick s.now ≤ t then .ended
    else p.phase := by
  unfold endedBy ticked
  split <;> split <;> simp_all

/-- Nothing but its phase changes. -/
theorem endedBy_eq (s : Service) (t : Nat) (p : Pruner) :
    s.endedBy t p = { p with phase := (s.endedBy t p).phase } := by
  unfold endedBy ticked
  split
  · split <;> rfl
  · rfl

theorem pool_endedBy (s : Service) (t : Nat) (p : Pruner) : (s.endedBy t p).pool = p.pool := by
  rw [endedBy_eq]

theorem isClosed_reach (t : Nat) (s : Service) (i : PoolId) :
    (s.reach t).fleet.isClosed i = s.fleet.isClosed i := isClosed_ticks _ s i

/-- By the next moment the pruners have ticked that tick then. -/
theorem pruner?_reach (ht : s.nextMoment? = some t) (k : Nat) :
    (s.reach t).pruner? k = (s.pruner? k).map (s.endedBy t) := by
  refine (pruner?_ticks (s.tickingAt t) k s).trans (Option.map_congr fun p hp => ?_)
  by_cases hrunning : p.phase = .running
  · have hle : t ≤ p.nextTick s.now := le_nextTick ht (List.mem_of_getElem? hp) hrunning
    have hticking : k ∈ s.tickingAt t ↔ p.nextTick s.now ≤ t := by
      rw [mem_tickingAt]
      constructor
      · rintro ⟨q, hq, _, hnext⟩
        obtain rfl : p = q := Option.some.inj (hp.symm.trans hq)
        exact Nat.le_of_eq hnext
      · exact fun hge => ⟨p, hp, hrunning, Nat.le_antisymm hge hle⟩
    simp only [hticking, endedBy]
  · rw [endedBy_of_not_running hrunning, ticked_of_not_running hrunning, ite_self]

/-- What becomes of a pruner in two parts. -/
theorem WellKept.endedBy_reach (h : s.WellKept) (hnow : s.now ≤ t) (htu : t ≤ u)
    (hp : s.pruner? k = some p) : (s.reach t).endedBy u (s.endedBy t p) = s.endedBy u p := by
  have hticked : (s.reach t).ticked = s.ticked := ticked_congr (isClosed_reach t s)
  by_cases hle : p.nextTick s.now ≤ t
  · rw [endedBy, endedBy, if_pos hle, hticked, ticked_ticked, ite_self, endedBy,
      if_pos (Nat.le_trans hle htu)]
  · have hlt := Nat.lt_of_not_le hle
    have hsame : p.nextTick t = p.nextTick s.now :=
      Pruner.nextTick_eq (h p (List.mem_of_getElem? hp)).pos hnow hlt
    rw [endedBy_of_lt hlt, endedBy, endedBy, hticked]
    show (if p.nextTick t ≤ u then _ else _) = _
    rw [hsame]

theorem isClosed_pass (stop : Service → Bool) (upTo : Nat) (s : Service) (i : PoolId) :
    (s.pass stop upTo).2.fleet.isClosed i = s.fleet.isClosed i := by
  fun_induction Service.pass stop upTo s with
  | case1 s _ => rfl
  | case2 s _ _ => rfl
  | case3 s _ t _ _ ih => exact ih.trans (isClosed_reach t s i)
  | case4 s _ t _ _ => rfl

theorem map_endedBy (h : ∀ p, s.pruner? k = some p → s.endedBy t p = p) :
    (s.pruner? k).map (s.endedBy t) = s.pruner? k := by
  cases hp : s.pruner? k with
  | none => rfl
  | some p => rw [Option.map_some, h p hp]

/-- **Time passes for a pruner**: it has ended if it has ticked and its pool is closed. -/
theorem WellKept.pruner?_pass (h : s.WellKept) (stop : Service → Bool) (hnow : s.now ≤ upTo)
    (k : Nat) : (s.pass stop upTo).2.pruner? k =
      (s.pruner? k).map (s.endedBy (s.pass stop upTo).2.now) := by
  fun_induction Service.pass stop upTo s with
  | case1 s _ =>
    show s.pruner? k = (s.pruner? k).map (s.endedBy s.now)
    refine (map_endedBy fun p hp => ?_).symm
    exact endedBy_of_lt (Pruner.lt_nextTick (h p (List.mem_of_getElem? hp)).pos s.now)
  | case2 s _ hnone =>
    show s.pruner? k = (s.pruner? k).map (s.endedBy upTo)
    refine (map_endedBy fun p hp => ?_).symm
    exact endedBy_of_not_running (nextMoment?_eq_none hnone (List.mem_of_getElem? hp))
  | case3 s _ t ht hbetween ih =>
    have hfrom := Nat.le_of_lt hbetween.1
    have hend : t ≤ ((s.reach t).pass stop upTo).2.now :=
      (now_pass (s := s.reach t) hbetween.2).1
    rw [ih (h.reach hfrom) hbetween.2, pruner?_reach ht, Option.map_map]
    refine Option.map_congr fun p hp => ?_
    rw [Function.comp_apply, h.endedBy_reach hfrom hend hp]
  | case4 s _ t ht hlate =>
    have hend : upTo < t := Nat.lt_of_not_le fun hle => hlate ⟨h.lt_nextMoment ht, hle⟩
    show s.pruner? k = (s.pruner? k).map (s.endedBy upTo)
    refine (map_endedBy fun p hp => ?_).symm
    by_cases hrunning : p.phase = .running
    · exact endedBy_of_lt
        (Nat.lt_of_lt_of_le hend (le_nextTick ht (List.mem_of_getElem? hp) hrunning))
    · exact endedBy_of_not_running hrunning

/-! ### Waiting for the end of a pruner -/

theorem hasEnded_iff : s.hasEnded j = true ↔ ∃ p, s.pruner? j = some p ∧ p.phase = .ended := by
  simp [hasEnded, Option.any_eq_true]

/-- Nobody waits for what has happened. -/
theorem pass_of_stop (hstop : stop s = true) : s.pass stop upTo = (true, s) := by
  rw [Service.pass, if_pos hstop]

/-- **Whoever waits for a running pruner to end** gets as far as to its next tick, if its pool is
closed. Otherwise the time is up before it ends. -/
theorem WellKept.pass_hasEnded (h : s.WellKept) (hp : s.pruner? j = some p)
    (hrunning : p.phase = .running) (hnow : s.now ≤ upTo) :
    ((s.pass (hasEnded j) upTo).1 = true ∧ s.fleet.isClosed p.pool = true ∧
        p.nextTick s.now ≤ upTo ∧ (s.pass (hasEnded j) upTo).2.now = p.nextTick s.now) ∨
      ((s.pass (hasEnded j) upTo).1 = false ∧
        (s.fleet.isClosed p.pool = true → upTo < p.nextTick s.now) ∧
        (s.pass (hasEnded j) upTo).2.now = upTo) := by
  have hmem := fun {s : Service} (hp : s.pruner? j = some p) => List.mem_of_getElem? hp
  fun_induction Service.pass (hasEnded j) upTo s with
  | case1 s hstop =>
    obtain ⟨q, hq, hended⟩ := hasEnded_iff.mp hstop
    obtain rfl : p = q := Option.some.inj (hp.symm.trans hq)
    cases hrunning.symm.trans hended
  | case2 s _ hnone => exact absurd hrunning (nextMoment?_eq_none hnone (hmem hp))
  | case3 s _ t ht hbetween ih =>
    have hfrom := Nat.le_of_lt hbetween.1
    have hfirst : t ≤ p.nextTick s.now := le_nextTick ht (hmem hp) hrunning
    have hreach : (s.reach t).pruner? j = some (s.endedBy t p) := by
      rw [pruner?_reach ht, hp, Option.map_some]
    by_cases hends : s.fleet.isClosed p.pool = true ∧ p.nextTick s.now ≤ t
    · -- it ends at this moment
      have hstop : (s.reach t).hasEnded j = true :=
        hasEnded_iff.mpr ⟨_, hreach, by rw [phase_endedBy, if_pos ⟨hrunning, hends⟩]⟩
      rw [pass_of_stop hstop]
      exact Or.inl ⟨rfl, hends.1, Nat.le_trans hends.2 hbetween.2, Nat.le_antisymm hfirst hends.2⟩
    · -- it goes on, and if its pool is closed, its next tick is still to come
      have hsame : s.endedBy t p = p := by
        rcases not_and_or.mp hends with hopen | hlater
        · exact endedBy_of_open (Bool.eq_false_iff.mpr hopen)
        · exact endedBy_of_lt (Nat.lt_of_not_le hlater)
      have hnext : s.fleet.isClosed p.pool = true → p.nextTick t = p.nextTick s.now :=
        fun hclosed => Pruner.nextTick_eq (h p (hmem hp)).pos hfrom
          (Nat.lt_of_not_le fun hle => hends ⟨hclosed, hle⟩)
      rcases ih (h.reach hfrom) (hreach.trans (congrArg some hsame)) hbetween.2 with
        ⟨hanswer, hclosed, hle, hend⟩ | ⟨hanswer, hlate, hend⟩
      · rw [isClosed_reach t s] at hclosed
        exact Or.inl ⟨hanswer, hclosed, hnext hclosed ▸ hle, hend.trans (hnext hclosed)⟩
      · refine Or.inr ⟨hanswer, fun hclosed => ?_, hend⟩
        exact hnext hclosed ▸ hlate ((isClosed_reach t s p.pool).trans hclosed)
  | case4 s _ t ht hlate =>
    have hend : upTo < t := Nat.lt_of_not_le fun hle => hlate ⟨h.lt_nextMoment ht, hle⟩
    exact Or.inr ⟨rfl, fun _ => Nat.lt_of_lt_of_le hend (le_nextTick ht (hmem hp) hrunning), rfl⟩

/-! ### A record of the prunes -/

/-- The pruners that prune their pools at a moment, in the order in which they were started. -/
def pruningAt (t : Nat) (s : Service) : List Nat :=
  (s.tickingAt t).filter fun j => (s.duty? j).isSome

/-- **The prunes while time passes**, each with its time and with the pruner that has made it. -/
def prunesIn (stop : Service → Bool) (upTo : Nat) (s : Service) : List (Nat × Nat) :=
  if stop s then []
  else
    match s.nextMoment? with
    | none => []
    | some t =>
      if _ : s.now < t ∧ t ≤ upTo then
        (s.pruningAt t).map (Prod.mk t) ++ prunesIn stop upTo (s.reach t)
      else []
termination_by upTo - s.now
decreasing_by
  dsimp only [reach]
  omega

/-- The pool a pruner looks after. -/
def poolOf? (s : Service) (j : Nat) : Option PoolId := (s.pruner? j).map Pruner.pool

theorem poolOf?_reach (ht : s.nextMoment? = some t) : (s.reach t).poolOf? = s.poolOf? := by
  funext j
  rw [poolOf?, pruner?_reach ht, Option.map_map, poolOf?]
  refine Option.map_congr fun p _ => ?_
  rw [Function.comp_apply, pool_endedBy]

/-- What is recorded of a moment is what is done. -/
theorem filterMap_pruningAt (t : Nat) (s : Service) :
    (s.pruningAt t).filterMap s.poolOf? = (s.tickingAt t).filterMap s.duty? := by
  rw [pruningAt, List.filterMap_filter]
  refine List.filterMap_congr fun j _ => ?_
  cases hp : s.pruner? j with
  | none => simp [duty?, hp]
  | some p =>
    by_cases hduty : (p.isRunning && !s.fleet.isClosed p.pool) = true
    · simp [duty?, poolOf?, hp, Option.filter_some, hduty]
    · simp [duty?, hp, Option.filter_some, hduty]

/-- **The record is complete**: these prunes are all that is done to the fleet. -/
theorem fleet_prunesIn (stop : Service → Bool) (upTo : Nat) (s : Service) :
    (s.pass stop upTo).2.fleet =
      s.fleet.pruneEach ((s.prunesIn stop upTo).filterMap fun e => s.poolOf? e.2) := by
  fun_induction Service.pass stop upTo s with
  | case1 s hstop =>
    rw [prunesIn, if_pos hstop]
    rfl
  | case2 s hstop hnone =>
    rw [prunesIn, if_neg hstop, hnone]
    rfl
  | case3 s hstop t ht hbetween ih =>
    have hfirst : (s.reach t).fleet = s.fleet.pruneEach ((s.pruningAt t).filterMap s.poolOf?) := by
      rw [filterMap_pruningAt]
      exact fleet_ticks (s.tickingAt t) s
    rw [prunesIn, if_neg hstop]
    simp only [ht, dif_pos hbetween, List.filterMap_append, List.filterMap_map]
    rw [ih, hfirst, poolOf?_reach ht, ← Fleet.pruneEach_append]
    rfl
  | case4 s hstop t ht hlate =>
    rw [prunesIn, if_neg hstop]
    simp only [ht, dif_neg hlate]
    rfl

theorem mem_pruningAt : j ∈ s.pruningAt t ↔ ∃ p, s.pruner? j = some p ∧ p.phase = .running ∧
    s.fleet.isClosed p.pool = false ∧ p.nextTick s.now = t := by
  rw [pruningAt, List.mem_filter, mem_tickingAt, Option.isSome_iff_exists]
  simp only [duty?_eq_some_iff]
  constructor
  · rintro ⟨⟨p, hp, hrunning, hnext⟩, _, q, hq, _, hopen, _⟩
    obtain rfl : p = q := Option.some.inj (hp.symm.trans hq)
    exact ⟨p, hp, hrunning, hopen, hnext⟩
  · rintro ⟨p, hp, hrunning, hopen, hnext⟩
    exact ⟨⟨p, hp, hrunning, hnext⟩, p.pool, p, hp, hrunning, hopen, rfl⟩

/-- Whatever has become of a pruner, it is due when it was. -/
theorem due_reach (t u : Nat) (s : Service) (p : Pruner) :
    (s.reach t).due u (s.endedBy t p) = s.due u p := by
  rw [due_congr (isClosed_reach t s)]
  cases hclosed : s.fleet.isClosed p.pool with
  | true =>
    have hnot : ∀ q : Pruner, q.pool = p.pool → s.due u q = false := fun q hq =>
      Bool.eq_false_iff.mpr fun hdue => by
        rw [due_iff, hq, hclosed] at hdue
        cases hdue.2.1
    rw [hnot p rfl, hnot _ (pool_endedBy s t p)]
  | false => rw [endedBy_of_open hclosed]

/-- **A pruner prunes its pool when it is due**, as long as time passes, and at no other time. -/
theorem WellKept.mem_prunesIn (h : s.WellKept) (hnow : s.now ≤ upTo) :
    (t, j) ∈ s.prunesIn stop upTo ↔ s.now < t ∧ t ≤ (s.pass stop upTo).2.now ∧
      ∃ p, s.pruner? j = some p ∧ s.due t p = true := by
  -- a pruner that is due is running, and it does not tick before that
  have hdue : ∀ {s : Service}, s.WellKept → ∀ {p}, s.pruner? j = some p → s.due t p = true →
      s.now < t → p.phase = .running ∧ p.nextTick s.now ≤ t := fun h _ hp hdue hlt =>
    ⟨h.running_of_due (List.mem_of_getElem? hp) hdue,
      (due_iff.mp hdue).2.2.nextTick_le (h _ (List.mem_of_getElem? hp)).pos hlt⟩
  fun_induction Service.pass stop upTo s with
  | case1 s hstop =>
    rw [prunesIn, if_pos hstop]
    refine iff_of_false List.not_mem_nil ?_
    rintro ⟨hlt, hle, _⟩
    exact Nat.not_le_of_gt hlt hle
  | case2 s hstop hnone =>
    rw [prunesIn, if_neg hstop, hnone]
    refine iff_of_false List.not_mem_nil ?_
    rintro ⟨hlt, _, p, hp, hpdue⟩
    exact nextMoment?_eq_none hnone (List.mem_of_getElem? hp) (hdue h hp hpdue hlt).1
  | case3 s hstop m hm hbetween ih =>
    have hend : m ≤ ((s.reach m).pass stop upTo).2.now :=
      (now_pass (s := s.reach m) hbetween.2).1
    have hnext : ∀ {p}, s.pruner? j = some p → (s.due m p = true ↔ _) := fun hp =>
      h.due_nextMoment hm (List.mem_of_getElem? hp)
    rw [prunesIn, if_neg hstop]
    simp only [hm, dif_pos hbetween, List.mem_append, List.mem_map, Prod.mk.injEq,
      ih (h.reach (Nat.le_of_lt hbetween.1)) hbetween.2, pruner?_reach hm,
      Option.map_eq_some_iff]
    constructor
    · rintro (⟨_, hj, rfl, rfl⟩ | ⟨hlt, hle, _, ⟨p, hp, rfl⟩, hpdue⟩)
      · obtain ⟨p, hp, hp'⟩ := mem_pruningAt.mp hj
        exact ⟨hbetween.1, hend, p, hp, (hnext hp).mpr hp'⟩
      · exact ⟨Nat.lt_trans hbetween.1 hlt, hle, p, hp, due_reach m t s p ▸ hpdue⟩
    · rintro ⟨hlt, hle, p, hp, hpdue⟩
      obtain ⟨hrunning, htick⟩ := hdue h hp hpdue hlt
      have hfirst := Nat.le_trans (le_nextTick hm (List.mem_of_getElem? hp) hrunning) htick
      rcases Nat.eq_or_lt_of_le hfirst with rfl | hlater
      · exact Or.inl ⟨j, mem_pruningAt.mpr ⟨p, hp, (hnext hp).mp hpdue⟩, rfl, rfl⟩
      · exact Or.inr ⟨hlater, hle, _, ⟨p, hp, rfl⟩, (due_reach m t s p).trans hpdue⟩
  | case4 s hstop m hm hlate =>
    rw [prunesIn, if_neg hstop]
    simp only [hm, dif_neg hlate]
    refine iff_of_false List.not_mem_nil ?_
    rintro ⟨hlt, hle, p, hp, hpdue⟩
    obtain ⟨hrunning, htick⟩ := hdue h hp hpdue hlt
    refine hlate ⟨h.lt_nextMoment hm, ?_⟩
    exact Nat.le_trans (le_nextTick hm (List.mem_of_getElem? hp) hrunning) (Nat.le_trans htick hle)

/-! ### Handles -/

/-- What a handle tells. -/
theorem finished?_eq (hp : s.pruner? j = some p) :
    s.finished? j = if p.attached then some (decide (p.phase = .ended)) else none := by
  rw [finished?, hp, Option.filter_some]
  split <;> rfl

/-- **A pruner is stopped** through its handle, if the handle is held and it has not ended. -/
theorem pruner?_shutdown (hp : s.pruner? j = some p) (k : Nat) :
    (s.shutdown k).2.pruner? j = some (if k = j ∧ p.attached = true then
      { p with phase := if p.phase = .ended then .ended else .stopped, attached := false }
      else p) := by
  rw [shutdown]
  by_cases hkj : k = j
  · subst hkj
    rw [finished?_eq hp]
    cases hattached : p.attached with
    | false => simp [hp]
    | true => simp [pruner?_updatePruner, hp]
  · rw [if_neg fun h => hkj h.1]
    cases s.finished? k with
    | none => exact hp
    | some done =>
      show (s.updatePruner k _).pruner? j = _
      rw [pruner?_updatePruner, hp, Option.map_some, if_neg hkj]

/-- **Whoever waits for a pruner to end** gives its handle up. That is all that waiting does to the
pruners but for letting time pass. -/
theorem WellKept.pruner?_join (h : s.WellKept) (hp : s.pruner? j = some p) (k limit : Nat) :
    (s.join k limit).2.pruner? j = some (s.endedBy (s.join k limit).2.now
      (if k = j then { p with attached := false } else p)) := by
  rw [Service.join]
  cases hdone : s.finished? k with
  | none =>
    have hsame : (if k = j then { p with attached := false } else p) = p := by
      split
      · rename_i hkj
        rw [hkj, finished?_eq hp] at hdone
        cases hattached : p.attached with
        | false => rw [← hattached]
        | true => simp [hattached] at hdone
      · rfl
    show s.pruner? j = some (s.endedBy s.now _)
    rw [hsame, endedBy_of_lt (Pruner.lt_nextTick (h p (List.mem_of_getElem? hp)).pos s.now), hp]
  | some _ =>
    have hpass := (h.detach k).pruner?_pass (hasEnded k) (Nat.le_add_right _ limit) j
    rw [pruner?_updatePruner, hp, Option.map_some, Option.map_some] at hpass
    exact hpass

theorem join_eq (hp : s.pruner? j = some p) (hheld : p.attached = true) (limit : Nat) :
    s.join j limit =
      (some ((s.updatePruner j fun p => { p with attached := false }).pass (hasEnded j)
          (s.now + limit)).1,
        ((s.updatePruner j fun p => { p with attached := false }).pass (hasEnded j)
          (s.now + limit)).2) := by
  rw [join, finished?_eq hp, if_pos hheld]
  rfl

theorem pruner?_detach (hp : s.pruner? j = some p) :
    (s.updatePruner j fun p => { p with attached := false }).pruner? j =
      some { p with attached := false } := by
  rw [pruner?_updatePruner, hp, Option.map_some, if_pos rfl]

/-- A pruner that has ended need not be waited for. -/
theorem join_of_ended (hp : s.pruner? j = some p) (hheld : p.attached = true)
    (hphase : p.phase = .ended) (limit : Nat) :
    (s.join j limit).1 = some true ∧ (s.join j limit).2.now = s.now := by
  rw [join_eq hp hheld, pass_of_stop (hasEnded_iff.mpr ⟨_, pruner?_detach hp, hphase⟩)]
  exact ⟨rfl, rfl⟩

/-- **A running pruner is waited for** until it ends at its next tick, if its pool is closed, and
in vain otherwise. -/
theorem WellKept.join_of_running (h : s.WellKept) (hp : s.pruner? j = some p)
    (hheld : p.attached = true) (hphase : p.phase = .running) (limit : Nat) :
    ((s.join j limit).1 = some true ∧ s.fleet.isClosed p.pool = true ∧
        p.nextTick s.now ≤ s.now + limit ∧ (s.join j limit).2.now = p.nextTick s.now) ∨
      ((s.join j limit).1 = some false ∧
        (s.fleet.isClosed p.pool = true → s.now + limit < p.nextTick s.now) ∧
        (s.join j limit).2.now = s.now + limit) := by
  have hpass := (h.detach j).pass_hasEnded (pruner?_detach hp) hphase (Nat.le_add_right _ limit)
  rw [Pruner.nextTick_congr (q := { p with attached := false }) (p := p) rfl rfl] at hpass
  rw [join_eq hp hheld]
  refine hpass.imp (fun h => ⟨congrArg some h.1, h.2⟩) fun h => ⟨congrArg some h.1, h.2⟩

/-- The prunes while somebody waits for a pruner to end. -/
def prunesInJoin (k limit : Nat) (s : Service) : List (Nat × Nat) :=
  match s.finished? k with
  | none => []
  | some _ =>
    (s.updatePruner k fun p => { p with attached := false }).prunesIn (hasEnded k)
      (s.now + limit)

theorem fleet_prunesInJoin (k limit : Nat) (s : Service) :
    (s.join k limit).2.fleet =
      s.fleet.pruneEach ((s.prunesInJoin k limit).filterMap fun e => s.poolOf? e.2) := by
  rw [join, prunesInJoin]
  cases s.finished? k with
  | none => rfl
  | some _ =>
    have hpools : (s.updatePruner k fun p => { p with attached := false }).poolOf? = s.poolOf? := by
      funext j
      rw [poolOf?, poolOf?, pruner?_updatePruner, Option.map_map]
      refine Option.map_congr fun p _ => ?_
      rw [Function.comp_apply]
      split <;> rfl
    have hfleet := fleet_prunesIn (hasEnded k) (s.now + limit)
      (s.updatePruner k fun p => { p with attached := false })
    rw [hpools] at hfleet
    exact hfleet

theorem WellKept.mem_prunesInJoin (h : s.WellKept) (k limit : Nat) :
    (t, j) ∈ s.prunesInJoin k limit ↔ s.now < t ∧ t ≤ (s.join k limit).2.now ∧
      ∃ p, s.pruner? j = some p ∧ s.due t p = true := by
  rw [Service.join, prunesInJoin]
  cases s.finished? k with
  | none =>
    refine iff_of_false List.not_mem_nil ?_
    rintro ⟨hlt, hle, _⟩
    exact Nat.not_le_of_gt hlt hle
  | some _ =>
    have hdue : ∀ p : Pruner, s.due t (if k = j then { p with attached := false } else p) =
        s.due t p := fun p => by split <;> rfl
    refine ((h.detach k).mem_prunesIn (Nat.le_add_right _ limit)).trans
      (and_congr_right fun _ => and_congr_right fun _ => ?_)
    rw [due_congr fun _ => rfl, pruner?_updatePruner]
    constructor
    · rintro ⟨_, hp, hpdue⟩
      obtain ⟨p, hp', rfl⟩ := Option.map_eq_some_iff.mp hp
      exact ⟨p, hp', hdue p ▸ hpdue⟩
    · rintro ⟨p, hp, hpdue⟩
      exact ⟨_, Option.map_eq_some_iff.mpr ⟨p, hp, rfl⟩, (hdue p).trans hpdue⟩

end Service

end ConnPool
