import ConnPool.Proofs.Session.ClosedPools

/-!
# What a step makes of a pruner

A step of a script makes little of a pruner. It can give its handle up, and it can stop it. And if
time passes in the step, then the pruner has ended by the end of it, if its pool was closed at the
beginning and one of its ticks has come (`ConnPool.Session.becomes_play`).

While time passes in a step, the pruners prune. These prunes are recorded
(`ConnPool.Session.prunes`), and the record can be told from the beginning of the step
(`ConnPool.Session.mem_prunesBy`).
-/

namespace ConnPool

/-- **A step that gives the handle of a pruner up.** -/
inductive Step.GivesUp (j : Nat) : Step → Prop
  | shutdown : GivesUp j (.pruner j .shutdown)
  | join (limit : Nat) : GivesUp j (.pruner j (.join limit))

namespace Session

variable {s : Session} {i : PoolId} {j t : Nat} {p p' : Pruner} {step : Step}
  {past rest script : List Step} {interval : Duration} {tick : Nat → Nat}

/-! ### What a step makes of a pruner -/

/-- **What a step makes of a pruner.** -/
structure Becomes (s : Session) (step : Step) (j : Nat) (p p' : Pruner) : Prop where
  present : (s.play step).2.service.pruner? j = some p'
  pool_eq : p'.pool = p.pool
  tickTime_eq : p'.tickTime = p.tickTime
  attached : p'.attached = true ↔ p.attached = true ∧ ¬step.GivesUp j
  stopped : p'.phase = .stopped ↔
    p.phase = .stopped ∨ (p.phase = .running ∧ p.attached = true ∧ step = .pruner j .shutdown)
  ended : p'.phase = .ended ↔ p.phase = .ended ∨ (p.phase = .running ∧
    s.fleet.isClosed p.pool = true ∧ p.nextTick s.service.now ≤ (s.play step).2.service.now)

/-- A pruner does not end in a step that is over at once. -/
theorem not_ends_at_once (hpos : 0 < p.interval.nanos)
    (hnow : (s.play step).2.service.now = s.service.now) :
    ¬(p.phase = .running ∧ s.fleet.isClosed p.pool = true ∧
      p.nextTick s.service.now ≤ (s.play step).2.service.now) := by
  rintro ⟨_, _, hle⟩
  rw [hnow] at hle
  exact Nat.not_le_of_gt (Pruner.lt_nextTick hpos s.service.now) hle

/-- The step is over at once, and the pruner is as it was. If the step gives its handle up, this
has been done before. -/
theorem becomes_self (hpos : 0 < p.interval.nanos)
    (hpresent : (s.play step).2.service.pruner? j = some p)
    (hnow : (s.play step).2.service.now = s.service.now)
    (hkept : p.attached = true → ¬step.GivesUp j) : Becomes s step j p p where
  present := hpresent
  pool_eq := rfl
  tickTime_eq := rfl
  attached := (and_iff_left_of_imp hkept).symm
  stopped := by
    refine (or_iff_left ?_).symm
    rintro ⟨_, hattached, rfl⟩
    exact hkept hattached .shutdown
  ended := (or_iff_left (not_ends_at_once hpos hnow)).symm

/-- The pruner is stopped, unless it has ended. -/
theorem becomes_stopped (hpos : 0 < p.interval.nanos) (hattached : p.attached = true)
    (hpresent : (s.play (.pruner j .shutdown)).2.service.pruner? j =
      some { p with phase := if p.phase = .ended then .ended else .stopped, attached := false })
    (hnow : (s.play (.pruner j .shutdown)).2.service.now = s.service.now) :
    Becomes s (.pruner j .shutdown) j p
      { p with phase := if p.phase = .ended then .ended else .stopped, attached := false } where
  present := hpresent
  pool_eq := rfl
  tickTime_eq := Pruner.tickTime_congr rfl rfl
  attached := iff_of_false nofun fun h => h.2 .shutdown
  stopped := by
    show (if p.phase = .ended then PrunerPhase.ended else .stopped) = .stopped ↔ _
    cases hphase : p.phase <;> simp [hattached]
  ended := by
    rw [or_iff_left (not_ends_at_once hpos hnow)]
    show (if p.phase = .ended then PrunerPhase.ended else .stopped) = .ended ↔ _
    cases hphase : p.phase <;> simp

/-- Time passes in the step, and the handle is given up or not. -/
theorem becomes_passed {q : Pruner} {phase : PrunerPhase}
    (hq : q = { p with attached := q.attached })
    (hpresent : (s.play step).2.service.pruner? j = some { q with phase })
    (hphase : phase = if q.phase = .running ∧ s.fleet.isClosed q.pool = true ∧
      q.nextTick s.service.now ≤ (s.play step).2.service.now then .ended else q.phase)
    (hattached : q.attached = true ↔ p.attached = true ∧ ¬step.GivesUp j)
    (hstep : step ≠ .pruner j .shutdown) : Becomes s step j p { q with phase } := by
  have hpool : q.pool = p.pool := by rw [hq]
  have hstart : q.start = p.start := by rw [hq]
  have hinterval : q.interval = p.interval := by rw [hq]
  have hbefore : q.phase = p.phase := by rw [hq]
  rw [hbefore, hpool, Pruner.nextTick_congr hstart hinterval] at hphase
  exact {
    present := hpresent
    pool_eq := hpool
    tickTime_eq := Pruner.tickTime_congr (q := { q with phase }) hstart hinterval
    attached := hattached
    stopped := by
      show phase = .stopped ↔ _
      rw [or_iff_left fun h => hstep h.2.2, hphase]
      split
      · rename_i h
        rw [h.1]
        exact iff_of_false nofun nofun
      · exact Iff.rfl
    ended := by
      show phase = .ended ↔ _
      rw [hphase]
      split
      · rename_i h
        exact iff_of_true rfl (Or.inr h)
      · rename_i h
        exact (or_iff_left h).symm }

/-- **What a step makes of a pruner.** -/
theorem becomes_play (h : s.service.WellKept) (hp : s.service.pruner? j = some p) (step : Step) :
    ∃ p', Becomes s step j p p' := by
  have hpos := (h p (List.mem_of_getElem? hp)).pos
  cases hstep : step.drivesPruners with
  | false =>
    have hsame : (s.play step).2 = (s.play step).2.manned s.service.pruners s.service.now :=
      congrArg Prod.snd (play_manned s.service.pruners s.service.now hstep s)
    refine ⟨p, becomes_self hpos ?_ (congrArg (fun s => s.service.now) hsame) fun _ => ?_⟩
    · rw [hsame]
      exact hp
    · rintro (_ | _) <;> cases hstep
  | true =>
    cases step with
    | spawnPruner i interval =>
      refine ⟨p, becomes_self hpos ?_ rfl fun _ => nofun⟩
      obtain ⟨hlt, _⟩ := List.getElem?_eq_some_iff.mp hp
      exact (List.getElem?_append_left hlt).trans hp
    | pruner k step =>
      cases step with
      | finished => exact ⟨p, becomes_self hpos hp rfl fun _ => nofun⟩
      | shutdown =>
        have hservice : (s.play (.pruner k .shutdown)).2.service = (s.service.shutdown k).2 := rfl
        have hpruner := Service.pruner?_shutdown hp k
        have hnow := s.service.now_shutdown k
        rw [← hservice] at hpruner hnow
        by_cases hkj : k = j ∧ p.attached = true
        · rw [if_pos hkj] at hpruner
          obtain ⟨rfl, hattached⟩ := hkj
          exact ⟨_, becomes_stopped hpos hattached hpruner hnow⟩
        · rw [if_neg hkj] at hpruner
          refine ⟨p, becomes_self hpos hpruner hnow fun hattached => ?_⟩
          rintro ⟨_⟩
          exact hkj ⟨rfl, hattached⟩
      | join limit =>
        have hservice : (s.play (.pruner k (.join limit))).2.service =
          (s.service.join k limit).2 := rfl
        have hpruner := h.pruner?_join hp k limit
        rw [← hservice, Service.endedBy_eq] at hpruner
        refine ⟨_, becomes_passed ?_ hpruner Service.phase_endedBy ?_ nofun⟩
        · split <;> rfl
        · split
          · rename_i hkj
            exact iff_of_false nofun fun hheld => hheld.2 (hkj ▸ .join limit)
          · rename_i hkj
            refine (and_iff_left ?_).symm
            rintro ⟨_⟩
            exact hkj rfl
    | wait k span =>
      have hservice : (s.play (.wait k span)).2.service = s.service.wait span := rfl
      have hpass : (s.service.wait span).pruner? j = _ :=
        h.pruner?_pass (fun _ => false) (Nat.le_add_right _ span) j
      rw [hp, Option.map_some, Service.endedBy_eq] at hpass
      refine ⟨_, becomes_passed rfl (hservice ▸ hpass) ?_ (and_iff_left nofun).symm nofun⟩
      rw [hservice]
      exact Service.phase_endedBy
    | _ => cases hstep

/-! ### A record of the prunes -/

/-- The prunes of a step, each with its time and with the pruner that has made it. -/
def prunesBy (step : Step) (s : Session) : List (Nat × Nat) :=
  match step with
  | .pruner k (.join limit) => s.service.prunesInJoin k limit
  | .wait _ span => s.service.prunesIn (fun _ => false) (s.service.now + span)
  | _ => []

/-- **The prunes of a script.** -/
def prunes : List Step → Session → List (Nat × Nat)
  | [], _ => []
  | step :: rest, s => s.prunesBy step ++ prunes rest (s.play step).2

/-- **A step that has to do with pruners** does nothing to the fleet but to make these prunes. -/
theorem fleet_prunesBy {step : Step} (hstep : step.drivesPruners = true) (s : Session) :
    (s.play step).2.fleet =
      s.fleet.pruneEach ((s.prunesBy step).filterMap fun e => s.service.poolOf? e.2) := by
  cases step with
  | spawnPruner i interval => rfl
  | pruner k step =>
    cases step with
    | finished => rfl
    | shutdown => exact s.service.fleet_shutdown k
    | join limit => exact s.service.fleet_prunesInJoin k limit
  | wait k span => exact Service.fleet_prunesIn _ _ s.service
  | _ => cases hstep

/-- **A pruner prunes its pool in a step** when it is due, and at no other time. -/
theorem mem_prunesBy (h : s.service.WellKept) (step : Step) :
    (t, j) ∈ s.prunesBy step ↔ s.service.now < t ∧ t ≤ (s.play step).2.service.now ∧
      ∃ p, s.service.pruner? j = some p ∧ s.service.due t p = true := by
  have hidle : (s.play step).2.service.now = s.service.now → s.prunesBy step = [] →
      ((t, j) ∈ s.prunesBy step ↔ s.service.now < t ∧ t ≤ (s.play step).2.service.now ∧
        ∃ p, s.service.pruner? j = some p ∧ s.service.due t p = true) := by
    intro hnow hnone
    rw [hnow, hnone]
    refine iff_of_false List.not_mem_nil ?_
    rintro ⟨hlt, hle, _⟩
    exact Nat.not_le_of_gt hlt hle
  cases hstep : step.drivesPruners with
  | false =>
    refine hidle ?_ ?_
    · have hsame := play_manned s.service.pruners s.service.now hstep s
      exact congrArg (fun outcome => outcome.2.service.now) hsame
    · cases step with
      | pruner k step => cases hstep
      | wait k span => cases hstep
      | _ => rfl
  | true =>
    cases step with
    | spawnPruner i interval => exact hidle rfl rfl
    | pruner k step =>
      cases step with
      | finished => exact hidle rfl rfl
      | shutdown => exact hidle (s.service.now_shutdown k) rfl
      | join limit => exact h.mem_prunesInJoin k limit
    | wait k span => exact h.mem_prunesIn (Nat.le_add_right _ span)
    | _ => cases hstep

theorem prunes_concat (script : List Step) (step : Step) (s : Session) :
    prunes (script ++ [step]) s = prunes script s ++ (playAll script s).2.prunesBy step := by
  induction script generalizing s with
  | nil => exact List.append_nil _
  | cons first script ih =>
    rw [List.cons_append, prunes, ih, prunes, List.append_assoc]
    rfl

/-! ### What lasts -/

/-- A pruner that is there stays there. -/
theorem lasting_present (j : Nat) : Lasting fun s => ∃ p, s.service.pruner? j = some p :=
  fun past step ⟨_, hp⟩ => by
    obtain ⟨p', hp'⟩ := becomes_play (wellKept_after past) hp step
    rw [after_concat]
    exact ⟨p', hp'.present⟩

/-- A pruner that has ended stays ended. -/
theorem lasting_hasEnded (j : Nat) : Lasting fun s => s.service.hasEnded j = true :=
  fun past step hended => by
    obtain ⟨p, hp, hphase⟩ := Service.hasEnded_iff.mp hended
    obtain ⟨p', hp'⟩ := becomes_play (wellKept_after past) hp step
    rw [after_concat]
    exact Service.hasEnded_iff.mpr ⟨p', hp'.present, hp'.ended.mpr (Or.inl hphase)⟩

/-- **A pruner has been stopped.** -/
def IsStopped (j : Nat) (s : Session) : Prop :=
  ∃ p, s.service.pruner? j = some p ∧ p.phase = .stopped

/-- A pruner that has been stopped stays stopped. -/
theorem lasting_isStopped (j : Nat) : Lasting (IsStopped j) :=
  fun past step ⟨_, hp, hphase⟩ => by
    obtain ⟨p', hp'⟩ := becomes_play (wellKept_after past) hp step
    rw [after_concat]
    exact ⟨p', hp'.present, hp'.stopped.mpr (Or.inl hphase)⟩

/-- **A pruner was stopped before a moment.** -/
abbrev StoppedBefore (script : List Step) (t : Nat) (j : Nat) : Prop :=
  Before (IsStopped j) script t

/-- Only a pruner that has been started prunes. -/
theorem present_of_mem_prunes (h : (t, j) ∈ prunes script {}) :
    ∃ p, (after script).service.pruner? j = some p := by
  induction script using List.reverseRecOn with
  | nil => cases h
  | append_singleton script step ih =>
    refine lasting_present j script step ?_
    rw [prunes_concat, List.mem_append] at h
    rcases h with h | h
    · exact ih h
    · obtain ⟨_, _, p, hp, _⟩ := (mem_prunesBy (wellKept_after script) step).mp h
      exact ⟨p, hp⟩

end Session

end ConnPool
