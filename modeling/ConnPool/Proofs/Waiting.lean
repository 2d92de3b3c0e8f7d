import Mathlib.Data.List.Basic
import ConnPool.Proofs.Pruner

/-!
# Letting time pass

Time passes from one moment at which a pruner ticks to the next, and ends when it is up or when
what is waited for has happened. However it ends: by then the pools have been pruned that were
due in the meantime, in the order in which they were due, and nothing else has happened to the
fleet (`ConnPool.Service.fleet_pass`). The induction goes from moment to moment. What it rests
on is that nobody is due between two moments (`ConnPool.Service.WellKept.dueAt_eq_nil`), and
that the pruners that tick at a moment do what is due then
(`ConnPool.Service.WellKept.filterMap_duty?`).

So two rests come to the same as one that is as long as both
(`ConnPool.Service.WellKept.wait_wait`).
-/

namespace ConnPool

namespace Service

variable {s : Service} {t u upTo : Nat} {i : PoolId} {j : Nat} {stop : Service → Bool}

/-! ### The next moment -/

theorem nextMoment?_eq_none (h : s.nextMoment? = none) {p : Pruner} (hp : p ∈ s.pruners) :
    p.phase ≠ .running := by
  rw [nextMoment?, List.min?_eq_none_iff, List.map_eq_nil_iff, List.filter_eq_nil_iff] at h
  simpa [Pruner.isRunning] using h p hp

/-- No running pruner ticks before the next moment. -/
theorem le_nextTick (h : s.nextMoment? = some t) {p : Pruner} (hp : p ∈ s.pruners)
    (hrunning : p.phase = .running) : t ≤ p.nextTick s.now := by
  rw [nextMoment?, List.min?_eq_some_iff] at h
  refine h.2 _ (List.mem_map_of_mem (List.mem_filter.mpr ⟨hp, ?_⟩))
  rw [Pruner.isRunning, hrunning]
  rfl

/-- At the next moment some running pruner ticks. -/
theorem exists_nextTick (h : s.nextMoment? = some t) :
    ∃ p ∈ s.pruners, p.phase = .running ∧ p.nextTick s.now = t := by
  rw [nextMoment?, List.min?_eq_some_iff, List.mem_map] at h
  obtain ⟨⟨p, hp, ht⟩, _⟩ := h
  obtain ⟨hmem, hrunning⟩ := List.mem_filter.mp hp
  exact ⟨p, hmem, of_decide_eq_true hrunning, ht⟩

theorem WellKept.lt_nextMoment (h : s.WellKept) (ht : s.nextMoment? = some t) : s.now < t := by
  obtain ⟨p, hp, _, rfl⟩ := exists_nextTick ht
  exact Pruner.lt_nextTick (h p hp).pos s.now

/-- Only running pruners are ever due, because the pools of those that have ended are closed. -/
theorem WellKept.running_of_due (h : s.WellKept) {p : Pruner} (hp : p ∈ s.pruners)
    (hdue : s.due t p = true) : p.phase = .running := by
  obtain ⟨hstopped, hopen, _⟩ := due_iff.mp hdue
  cases hphase : p.phase with
  | running => rfl
  | ended => exact absurd ((h p hp).ended hphase) (Bool.eq_false_iff.mp hopen)
  | stopped => exact absurd hphase hstopped

/-- **Nobody is due before the next moment.** -/
theorem WellKept.dueAt_eq_nil (h : s.WellKept) (hu : s.now < u)
    (hbefore : ∀ p ∈ s.pruners, p.phase = .running → u < p.nextTick s.now) : s.dueAt u = [] := by
  rw [dueAt, List.map_eq_nil_iff, List.filter_eq_nil_iff]
  intro p hp hdue
  have hlt := hbefore p hp (h.running_of_due hp hdue)
  have hle := (due_iff.mp hdue).2.2.nextTick_le (h p hp).pos hu
  exact Nat.lt_irrefl _ (Nat.lt_of_lt_of_le hlt hle)

/-- Who is due at the next moment. -/
theorem WellKept.due_nextMoment (h : s.WellKept) (ht : s.nextMoment? = some t) {p : Pruner}
    (hp : p ∈ s.pruners) :
    s.due t p = true ↔
      p.phase = .running ∧ s.fleet.isClosed p.pool = false ∧ p.nextTick s.now = t := by
  constructor
  · intro hdue
    have hrunning := h.running_of_due hp hdue
    obtain ⟨_, hopen, hticks⟩ := due_iff.mp hdue
    exact ⟨hrunning, hopen, Nat.le_antisymm (hticks.nextTick_le (h p hp).pos (h.lt_nextMoment ht))
      (le_nextTick ht hp hrunning)⟩
  · rintro ⟨hrunning, hopen, rfl⟩
    exact due_iff.mpr ⟨by rw [hrunning]; exact nofun, hopen, p.ticksAt_nextTick s.now⟩

/-- **At a moment the pruners do what is due.** -/
theorem WellKept.filterMap_duty? (h : s.WellKept) (ht : s.nextMoment? = some t) :
    (s.tickingAt t).filterMap s.duty? = s.dueAt t := by
  have hpruners : s.pruners = s.pruners.zipIdx.map Prod.fst := (List.zipIdx_map_fst 0 _).symm
  rw [tickingAt, List.filterMap_map, List.filterMap_filter, dueAt]
  conv_rhs => rw [hpruners]
  rw [List.filter_map, List.map_map, ← List.filterMap_eq_map, List.filterMap_filter]
  refine List.filterMap_congr fun e he => ?_
  obtain ⟨p, k⟩ := e
  have hp : s.pruner? k = some p := List.mem_zipIdx_iff_getElem?.mp he
  have hdue := h.due_nextMoment ht (List.mem_of_getElem? hp)
  by_cases hd : s.due t p = true
  · obtain ⟨hrunning, hopen, hnext⟩ := hdue.mp hd
    simp [hd, hp, hrunning, hopen, hnext, duty?, Pruner.isRunning]
  · by_cases hticks : p.phase = .running ∧ p.nextTick s.now = t
    · have hclosed : s.fleet.isClosed p.pool = true := by
        refine Bool.of_not_eq_false fun hopen => hd (hdue.mpr ⟨hticks.1, hopen, hticks.2⟩)
      simp [hd, hp, hclosed, duty?]
    · simp [hd, hticks, Pruner.isRunning]

/-! ### Reaching a moment -/

/-- What every tick keeps is kept by any number of them. -/
theorem ticks_invariant {P : Service → Prop} (hP : ∀ s j, P s → P (s.tick j)) (l : List Nat)
    (hs : P s) : P (l.foldl (fun s j => s.tick j) s) := by
  induction l generalizing s with
  | nil => exact hs
  | cons j l ih => exact ih (hP s j hs)

theorem WellKept.reach (h : s.WellKept) (ht : s.now ≤ t) : (s.reach t).WellKept := by
  obtain ⟨hkept, hnow⟩ : ((s.tickingAt t).foldl (fun s j => s.tick j) s).WellKept ∧
      ((s.tickingAt t).foldl (fun s j => s.tick j) s).now = s.now :=
    ticks_invariant (P := fun s' => s'.WellKept ∧ s'.now = s.now)
      (fun s' j hs' => ⟨hs'.1.tick j, (now_tick j s').trans hs'.2⟩) _ ⟨h, rfl⟩
  exact hkept.mono rfl (hnow ▸ ht) fun _ => id

theorem dueAt_reach (t u : Nat) (s : Service) : (s.reach t).dueAt u = s.dueAt u :=
  ticks_invariant (P := fun s' => s'.dueAt u = s.dueAt u)
    (fun s' j hs' => (dueAt_tick j s').trans hs') (s.tickingAt t) rfl

theorem dueBy_reach (t upTo : Nat) (s : Service) :
    (s.reach t).dueBy upTo = Service.dueBy upTo { s with now := t } := by
  simp only [dueBy, dueAt_reach]
  rfl

theorem timetables_reach (t : Nat) (s : Service) : (s.reach t).timetables = s.timetables :=
  ticks_invariant (P := fun s' => s'.timetables = s.timetables)
    (fun s' j hs' => (timetables_tick j s').trans hs') (s.tickingAt t) rfl

theorem WellKept.fleet_reach (h : s.WellKept) (ht : s.nextMoment? = some t) :
    (s.reach t).fleet = s.fleet.pruneEach (s.dueAt t) := by
  rw [← h.filterMap_duty? ht]
  exact fleet_ticks _ s

/-! ### From moment to moment -/

/-- Time goes on, but not beyond its end. -/
theorem now_pass (hnow : s.now ≤ upTo) :
    s.now ≤ (s.pass stop upTo).2.now ∧ (s.pass stop upTo).2.now ≤ upTo := by
  fun_induction pass stop upTo s with
  | case1 s _ => exact ⟨Nat.le_refl _, hnow⟩
  | case2 s _ _ => exact ⟨hnow, Nat.le_refl _⟩
  | case3 s _ t _ hbetween ih =>
    obtain ⟨hfrom, hto⟩ := ih hbetween.2
    exact ⟨Nat.le_trans (Nat.le_of_lt hbetween.1) hfrom, hto⟩
  | case4 s _ t _ _ => exact ⟨hnow, Nat.le_refl _⟩

/-- Time that nothing stops goes on to its end. -/
theorem now_pass_never (upTo : Nat) (s : Service) :
    (s.pass (fun _ => false) upTo).2.now = upTo := by
  fun_induction pass (fun _ => false) upTo s with
  | case1 s hstop => cases hstop
  | case2 s _ _ => rfl
  | case3 s _ t _ _ ih => exact ih
  | case4 s _ t _ _ => rfl

theorem WellKept.pass (h : s.WellKept) (hnow : s.now ≤ upTo) :
    (s.pass stop upTo).2.WellKept := by
  fun_induction Service.pass stop upTo s with
  | case1 s _ => exact h
  | case2 s _ _ => exact h.mono rfl hnow fun _ => id
  | case3 s _ t _ hbetween ih => exact ih (h.reach (Nat.le_of_lt hbetween.1)) hbetween.2
  | case4 s _ t _ _ => exact h.mono rfl hnow fun _ => id

theorem timetables_pass (stop : Service → Bool) (upTo : Nat) (s : Service) :
    (s.pass stop upTo).2.timetables = s.timetables := by
  fun_induction Service.pass stop upTo s with
  | case1 s _ => rfl
  | case2 s _ _ => rfl
  | case3 s _ t _ _ ih => exact ih.trans (timetables_reach t s)
  | case4 s _ t _ _ => rfl

/-- What is due up to the next moment. -/
theorem WellKept.dueBy_nextMoment (h : s.WellKept) (ht : s.nextMoment? = some t)
    (hupTo : t ≤ upTo) :
    s.dueBy upTo = s.dueAt t ++ Service.dueBy upTo { s with now := t } := by
  have hlt := h.lt_nextMoment ht
  have hbefore : s.dueBy (t - 1) = [] := dueBy_eq_nil fun u hu hle =>
    h.dueAt_eq_nil hu fun p hp hrunning =>
      Nat.lt_of_lt_of_le (by omega) (le_nextTick ht hp hrunning)
  have hsingle : Service.dueBy t { s with now := t - 1 } = s.dueAt t := by
    have hone : t - (t - 1) = 1 := by omega
    have hnext : t - 1 + 1 = t := by omega
    rw [dueBy, hone, hnext]
    exact List.append_nil _
  rw [dueBy_split (Nat.le_of_lt hlt) hupTo, dueBy_split (t := t - 1) (by omega) (by omega),
    hbefore, hsingle, List.nil_append]

/-- **Time passes** by pruning the pools that are due, in the order in which they are. -/
theorem WellKept.fleet_pass (h : s.WellKept) (stop : Service → Bool) (hnow : s.now ≤ upTo) :
    (s.pass stop upTo).2.fleet = s.fleet.pruneEach (s.dueBy (s.pass stop upTo).2.now) := by
  fun_induction Service.pass stop upTo s with
  | case1 s _ =>
    rw [dueBy_now]
    rfl
  | case2 s _ hnone =>
    rw [dueBy_eq_nil fun u hu _ => h.dueAt_eq_nil hu fun p hp hrunning =>
      absurd hrunning (nextMoment?_eq_none hnone hp)]
    rfl
  | case3 s _ t ht hbetween ih =>
    have hkept := h.reach (Nat.le_of_lt hbetween.1)
    have hend : t ≤ ((s.reach t).pass stop upTo).2.now :=
      (now_pass (s := s.reach t) hbetween.2).1
    rw [ih hkept hbetween.2, h.fleet_reach ht, dueBy_reach, ← Fleet.pruneEach_append,
      ← h.dueBy_nextMoment ht hend]
  | case4 s _ t ht hlate =>
    have hend : upTo < t := Nat.lt_of_not_le fun hle => hlate ⟨h.lt_nextMoment ht, hle⟩
    rw [dueBy_eq_nil fun u hu hle => h.dueAt_eq_nil hu fun p hp hrunning =>
      Nat.lt_of_lt_of_le (Nat.lt_of_le_of_lt hle hend) (le_nextTick ht hp hrunning)]
    rfl

/-! ### Rests in two parts -/

/-- Nobody notices that it has become later, as long as the next moment has not come. -/
theorem WellKept.nextTick_later (h : s.WellKept) (hu : s.now ≤ u)
    (hearly : ∀ m, s.nextMoment? = some m → u < m) {p : Pruner} (hp : p ∈ s.pruners)
    (hrunning : p.phase = .running) : p.nextTick u = p.nextTick s.now := by
  cases hm : s.nextMoment? with
  | none => exact absurd hrunning (nextMoment?_eq_none hm hp)
  | some m =>
    exact Pruner.nextTick_eq (h p hp).pos hu
      (Nat.lt_of_lt_of_le (hearly m hm) (le_nextTick hm hp hrunning))

theorem WellKept.nextMoment?_later (h : s.WellKept) (hu : s.now ≤ u)
    (hearly : ∀ m, s.nextMoment? = some m → u < m) :
    Service.nextMoment? { s with now := u } = s.nextMoment? := by
  refine congrArg List.min? (List.map_congr_left fun p hp => ?_)
  obtain ⟨hmem, hrunning⟩ := List.mem_filter.mp hp
  exact h.nextTick_later hu hearly hmem (of_decide_eq_true hrunning)

theorem tick_later (j u : Nat) (s : Service) :
    Service.tick j { s with now := u } = { s.tick j with now := u } := by
  simp only [Service.tick, pruner?]
  cases s.pruners[j]? with
  | none => rfl
  | some p =>
    cases hphase : p.phase <;> cases hclosed : s.fleet.isClosed p.pool <;>
      simp [hphase, hclosed, updatePruner]

theorem WellKept.reach_later (h : s.WellKept) (hu : s.now ≤ u)
    (hearly : ∀ m, s.nextMoment? = some m → u < m) (t : Nat) :
    Service.reach t { s with now := u } = s.reach t := by
  have hticking : Service.tickingAt t { s with now := u } = s.tickingAt t := by
    refine congrArg (List.map Prod.snd) (List.filter_congr fun e he => ?_)
    have hmem : e.1 ∈ s.pruners := List.mem_of_getElem? (List.mem_zipIdx_iff_getElem?.mp he)
    by_cases hrunning : e.1.phase = .running
    · show (_ && decide (e.1.nextTick u = t)) = _
      rw [h.nextTick_later hu hearly hmem hrunning]
    · simp [Pruner.isRunning, hrunning]
  have hticks : ∀ (l : List Nat) (s : Service),
      l.foldl (fun s j => s.tick j) { s with now := u } =
        { l.foldl (fun s j => s.tick j) s with now := u } := by
    intro l
    induction l with
    | nil => exact fun _ => rfl
    | cons j l ih =>
      intro s
      rw [List.foldl_cons, List.foldl_cons, tick_later, ih]
  rw [Service.reach, Service.reach, hticking, hticks]

theorem pass_never_of_moment (ht : s.nextMoment? = some t) (hnow : s.now < t) (hle : t ≤ upTo) :
    s.pass (fun _ => false) upTo = (s.reach t).pass (fun _ => false) upTo := by
  conv_lhs => rw [Service.pass]
  simp only [ht, hnow, hle, and_self, dite_true, Bool.false_eq_true, if_false]

theorem pass_never_of_late (hlate : ∀ m, s.nextMoment? = some m → upTo < m) :
    s.pass (fun _ => false) upTo = (false, { s with now := upTo }) := by
  rw [Service.pass]
  cases hm : s.nextMoment? with
  | none => rfl
  | some m =>
    have hnot : ¬(s.now < m ∧ m ≤ upTo) := fun hc => Nat.not_le_of_gt (hlate m hm) hc.2
    simp only [hnot, dite_false, Bool.false_eq_true, if_false]

/-- To begin later changes nothing, as long as the next moment has not come. -/
theorem WellKept.pass_later (h : s.WellKept) (hu : s.now ≤ u)
    (hearly : ∀ m, s.nextMoment? = some m → u < m) :
    Service.pass (fun _ => false) upTo { s with now := u } = s.pass (fun _ => false) upTo := by
  have hmoment := h.nextMoment?_later hu hearly
  cases hm : s.nextMoment? with
  | none =>
    rw [hm] at hmoment
    rw [pass_never_of_late (by rw [hmoment]; exact nofun),
      pass_never_of_late (by rw [hm]; exact nofun)]
  | some m =>
    rw [hm] at hmoment
    by_cases hmle : m ≤ upTo
    · rw [pass_never_of_moment hmoment (hearly m hm) hmle,
        pass_never_of_moment hm (h.lt_nextMoment hm) hmle, h.reach_later hu hearly]
    · have hlate : ∀ k, some m = some k → upTo < k := fun k hk =>
        Option.some.inj hk ▸ Nat.lt_of_not_le hmle
      rw [pass_never_of_late (hmoment ▸ hlate), pass_never_of_late (hm ▸ hlate)]

/-- **Time that passes in two parts** passes as it does in one. -/
theorem WellKept.pass_pass (h : s.WellKept) (hnow : s.now ≤ t) (ht : t ≤ upTo) :
    (s.pass (fun _ => false) t).2.pass (fun _ => false) upTo = s.pass (fun _ => false) upTo := by
  fun_induction Service.pass (fun _ => false) t s with
  | case1 s hstop => cases hstop
  | case2 s _ hnone => exact h.pass_later hnow (by rw [hnone]; exact nofun)
  | case3 s _ m hm hbetween ih =>
    rw [ih (h.reach (Nat.le_of_lt hbetween.1)) hbetween.2,
      ← pass_never_of_moment hm hbetween.1 (Nat.le_trans hbetween.2 ht)]
  | case4 s _ m hm hlate =>
    refine h.pass_later hnow fun k hk => ?_
    obtain rfl : m = k := Option.some.inj (hm.symm.trans hk)
    exact Nat.lt_of_not_le fun hle => hlate ⟨h.lt_nextMoment hm, hle⟩

/-! ### Waiting -/

theorem now_wait (span : Nat) (s : Service) : (s.wait span).now = s.now + span :=
  now_pass_never _ s

theorem WellKept.wait (h : s.WellKept) (span : Nat) : (s.wait span).WellKept :=
  h.pass (Nat.le_add_right s.now span)

/-- **Waiting prunes the pools that are due** until the rest is over. -/
theorem WellKept.fleet_wait (h : s.WellKept) (span : Nat) :
    (s.wait span).fleet = s.fleet.pruneEach (s.dueBy (s.now + span)) := by
  have hpass := h.fleet_pass (fun _ => false) (Nat.le_add_right s.now span)
  rwa [now_pass_never] at hpass

/-- **Two waits are one.** -/
theorem WellKept.wait_wait (h : s.WellKept) (a b : Nat) :
    (s.wait a).wait b = s.wait (a + b) := by
  have hend : (s.wait a).now + b = s.now + (a + b) := by rw [now_wait, Nat.add_assoc]
  have hle : s.now + a ≤ s.now + (a + b) := Nat.add_le_add_left (Nat.le_add_right a b) s.now
  rw [Service.wait, hend, Service.wait, h.pass_pass (Nat.le_add_right _ _) hle, Service.wait]

/-! ### Handles -/

/-- A handle that is held tells whether its pruner has ended. -/
theorem ended_of_finished? {done : Bool} {p : Pruner} (hdone : s.finished? j = some done)
    (hp : s.pruner? j = some p) : decide (p.phase = .ended) = done := by
  rw [finished?, hp, Option.map_eq_some_iff] at hdone
  obtain ⟨q, hq, rfl⟩ := hdone
  obtain rfl : p = q := Option.some.inj (Option.filter_eq_some_iff.mp hq).1
  rfl

/-- To stop a pruner leaves the others as they are. -/
theorem WellKept.shutdown (h : s.WellKept) (j : Nat) : (s.shutdown j).2.WellKept := by
  rw [Service.shutdown]
  cases hdone : s.finished? j with
  | none => exact h
  | some done =>
    refine h.updatePruner fun p hp hkeeps => { hkeeps with ended := fun hphase => ?_ }
    -- it has only ended if it had ended by itself before
    have hended : p.phase = .ended := by
      by_contra hnot
      rw [← ended_of_finished? hdone hp] at hphase
      simp [hnot] at hphase
    exact hkeeps.ended hended

theorem now_shutdown (j : Nat) (s : Service) : (s.shutdown j).2.now = s.now := by
  rw [Service.shutdown]
  cases s.finished? j <;> rfl

/-- To give up the handle of a pruner leaves the pruner as it is. -/
theorem WellKept.detach (h : s.WellKept) (j : Nat) :
    (s.updatePruner j fun p => { p with attached := false }).WellKept :=
  h.updatePruner fun _ _ hkeeps => { hkeeps with }

theorem dueBy_detach (j upTo : Nat) (s : Service) :
    (s.updatePruner j fun p => { p with attached := false }).dueBy upTo = s.dueBy upTo :=
  congrArg (List.flatMap · _) (funext fun _ => dueAt_updatePruner fun _ _ => ⟨rfl, rfl⟩)

/-- **A pruner is stopped** through its handle, if the handle is held and the pruner has not
ended by itself. -/
theorem timetables_shutdown (j : Nat) (s : Service) :
    (s.shutdown j).2.timetables =
      if s.finished? j = some false then
        s.timetables.modify j fun e => { e with stopped := true }
      else s.timetables := by
  rw [Service.shutdown]
  cases hdone : s.finished? j with
  | none => rfl
  | some done =>
    have hphase := fun p hp => ended_of_finished? (p := p) hdone hp
    cases done with
    | true =>
      refine (timetables_updatePruner (g := id) fun p hp => ?_).trans (List.modify_id ..)
      simp [Pruner.timetable, of_decide_eq_true (hphase p hp)]
    | false => exact timetables_updatePruner fun _ _ => rfl

theorem timetables_join (j limit : Nat) (s : Service) :
    (s.join j limit).2.timetables = s.timetables := by
  rw [Service.join]
  cases s.finished? j with
  | none => rfl
  | some _ =>
    have hsame := timetables_updatePruner (s := s) (j := j)
      (f := fun p => { p with attached := false }) (g := id) fun _ _ => rfl
    exact (timetables_pass _ _ _).trans (hsame.trans (List.modify_id ..))

theorem WellKept.join (h : s.WellKept) (j limit : Nat) : (s.join j limit).2.WellKept := by
  rw [Service.join]
  cases s.finished? j with
  | none => exact h
  | some _ => exact (h.detach j).pass (Nat.le_add_right _ limit)

/-- **Waiting for the end of a pruner** prunes the pools that are due meanwhile. -/
theorem WellKept.fleet_join (h : s.WellKept) (j limit : Nat) :
    (s.join j limit).2.fleet = s.fleet.pruneEach (s.dueBy (s.join j limit).2.now) := by
  rw [Service.join]
  cases s.finished? j with
  | none =>
    rw [dueBy_now]
    rfl
  | some _ =>
    have hpass := (h.detach j).fleet_pass (hasEnded j) (Nat.le_add_right _ limit)
    rw [dueBy_detach] at hpass
    exact hpass

end Service

end ConnPool
