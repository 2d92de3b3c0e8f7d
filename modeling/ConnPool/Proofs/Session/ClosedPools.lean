import ConnPool.Proofs.Endings
import ConnPool.Proofs.Registry.TearingDown
import ConnPool.Proofs.Session.Pruners

/-!
# When a script closes a pool

A script closes a pool by asking it to close, by removing its dsn from the registry, or by tearing
the registry down (`ConnPool.Session.Closes`). No other step closes one, whatever else it does and
however long it lasts (`ConnPool.Session.isClosed_play`), and no step opens one again.

So it can be said of each moment of a script whether a pool was closed by then. What counts is
what has been done *before* that moment (`ConnPool.Session.Before`): when a moment comes, the
pruners that are due tick first, and only then may the script take its next step.
-/

namespace ConnPool

namespace Session

variable {s : Session} {i : PoolId} {step : Step} {past script : List Step} {t : Nat}
  {P : Session → Prop}

/-! ### Which steps close a pool -/

/-- **A step that closes a pool.** -/
inductive Closes (s : Session) (i : PoolId) : Step → Prop
  /-- The pool is asked to close. -/
  | ask (name : Option String) : Closes s i (.pool i (.request .closeAll name))
  /-- The dsn that it is registered for is removed. -/
  | remove {dsn : String} (hget : s.registry.get? dsn = some i) :
      Closes s i (.registry (.remove dsn))
  /-- The registry is torn down that knows it. -/
  | tearDown {dsn : String} (hget : s.registry.get? dsn = some i) :
      Closes s i (.registry .closeAll)

/-- A step that closes no pool, and leaves it as it was. -/
private theorem isClosed_iff_of_spared {f : Fleet} (hsame : f.isClosed i = s.fleet.isClosed i)
    (hnot : ¬s.Closes i step) : f.isClosed i = true ↔
      s.fleet.isClosed i = true ∨ (s.Closes i step ∧ i < s.fleet.members.length) := by
  rw [hsame, or_iff_left fun h => hnot h.1]

/-- What a request of a script does to the fleet. -/
theorem fleet_request (j : PoolId) (r : Request String) (name : Option String) (s : Session) :
    (s.request j r name).2.fleet =
      (r.resolve s.handle?).elim s.fleet fun r => (s.fleet.serve j r).2 := by
  rw [request]
  cases r.resolve s.handle? with
  | none => rfl
  | some r =>
    rcases hserve : s.fleet.serve j r with ⟨_ | response, f⟩
    · cases hm : s.fleet.member? j with
      | none =>
        have hsame := Fleet.serve_of_absent hm r
        rw [hserve] at hsame
        simp only [hserve, Option.elim_some, hsame]
      | some m =>
        rw [Fleet.serve, Fleet.act, hm] at hserve
        cases hserve
    · simp only [hserve, fleet_respond, Option.elim_some]
      rfl

/-- A request is resolved to one of the same kind. -/
theorem resolve_eq_closeAll {r : Request String} {f : String → Option (Handle SimId)}
    {r' : Request (Handle SimId)} (hr : r.resolve f = some r') :
    r' = .closeAll ↔ r = .closeAll := by
  cases r with
  | release h key force =>
    obtain ⟨_, _, rfl⟩ := Option.map_eq_some_iff.mp hr
    exact iff_of_false nofun nofun
  | acquire key => exact Option.some.inj hr ▸ iff_of_false nofun nofun
  | prune => exact Option.some.inj hr ▸ iff_of_false nofun nofun
  | closeAll => exact Option.some.inj hr ▸ iff_of_true rfl rfl

theorem isClosed_request (j : PoolId) (r : Request String) (name : Option String) (s : Session)
    (i : PoolId) : (s.request j r name).2.fleet.isClosed i = true ↔
      s.fleet.isClosed i = true ∨ (i = j ∧ r = .closeAll ∧ i < s.fleet.members.length) := by
  rw [fleet_request]
  cases hr : r.resolve s.handle? with
  | none =>
    refine (or_iff_left ?_).symm
    rintro ⟨_, rfl, _⟩
    cases hr
  | some r' => rw [Option.elim_some, Fleet.isClosed_serve, resolve_eq_closeAll hr]

theorem isClosed_playPool (j : PoolId) (step : PoolStep) (s : Session) (i : PoolId) :
    (s.playPool j step).2.2.fleet.isClosed i = true ↔
      s.fleet.isClosed i = true ∨ (s.Closes i (.pool j step) ∧ i < s.fleet.members.length) := by
  have hshare : ∀ m expected sharing, (s.share j m expected sharing).2.2.fleet.isClosed i =
      s.fleet.isClosed i := by
    intro m expected sharing
    rw [share]
    split
    · exact s.fleet.isClosed_share j sharing i
    · rfl
  rw [playPool]
  cases hm : s.fleet.member? j with
  | none =>
    refine (or_iff_left ?_).symm
    rintro ⟨⟨_⟩, hlt⟩
    exact Nat.not_lt.mpr (List.getElem?_eq_none_iff.mp hm) hlt
  | some m =>
    cases step with
    | request r name =>
      refine (s.isClosed_request j r name i).trans (or_congr_right ⟨?_, ?_⟩)
      · rintro ⟨rfl, rfl, hlt⟩
        exact ⟨.ask name, hlt⟩
      · rintro ⟨⟨_⟩, hlt⟩
        exact ⟨rfl, rfl, hlt⟩
    | unwrap => exact isClosed_iff_of_spared (hshare m .oneThread .exclusive) (by rintro ⟨⟩)
    | wrap sharing => exact isClosed_iff_of_spared (hshare m .exclusive sharing) (by rintro ⟨⟩)
    | _ => exact isClosed_iff_of_spared rfl (by rintro ⟨⟩)

theorem isClosed_playRegistry (step : RegistryStep) (s : Session) (i : PoolId) :
    (s.playRegistry step).2.2.fleet.isClosed i = true ↔
      s.fleet.isClosed i = true ∨ (s.Closes i (.registry step) ∧ i < s.fleet.members.length) := by
  cases step with
  | provide dsn config b =>
    exact isClosed_iff_of_spared (s.registry.isClosed_provide s.fleet dsn config (fun _ => b) i)
      (by rintro ⟨⟩)
  | get dsn =>
    refine isClosed_iff_of_spared ?_ (by rintro ⟨⟩)
    rw [playRegistry]
    cases s.registry.get? dsn <;> rfl
  | remove dsn =>
    have hsame : (s.playRegistry (.remove dsn)).2.2.fleet =
        (s.registry.remove dsn s.fleet).2.2 := by
      rw [playRegistry]
      rcases s.registry.remove dsn s.fleet with ⟨_ | report, r, f⟩ <;> rfl
    rw [hsame, Registry.isClosed_remove]
    refine or_congr_right (and_congr_left fun _ => ⟨.remove, ?_⟩)
    rintro ⟨_⟩
    assumption
  | closeAll =>
    refine (Registry.isClosed_closeEach_iff s.registry.registrations s.fleet i).trans
      (or_congr_right (and_congr_left fun _ => ?_))
    rw [List.mem_map]
    constructor
    · rintro ⟨⟨dsn, _⟩, hmem, rfl⟩
      exact .tearDown (Registry.mem_registrations.mp hmem)
    · rintro (_ | _ | hget)
      exact ⟨_, Registry.mem_registrations.mpr hget, rfl⟩
  | dsns => exact isClosed_iff_of_spared rfl (by rintro ⟨⟩)
  | «show» => exact isClosed_iff_of_spared rfl (by rintro ⟨⟩)

/-- Pruners close no pool. -/
theorem isClosed_playPruner (j : Nat) (step : PrunerStep) (s : Service) (i : PoolId) :
    (playPruner j step s).2.fleet.isClosed i = s.fleet.isClosed i := by
  cases step with
  | finished => rfl
  | shutdown => exact congrArg (·.isClosed i) (s.fleet_shutdown j)
  | join limit =>
    show (s.join j limit).2.fleet.isClosed i = _
    rw [Service.join]
    cases s.finished? j with
    | none => rfl
    | some _ =>
      exact Service.isClosed_pass _ _ (s.updatePruner j fun p => { p with attached := false }) i

theorem isClosed_perform (step : Step) (s : Session) (i : PoolId) :
    (s.perform step).2.2.fleet.isClosed i = true ↔
      s.fleet.isClosed i = true ∨ (s.Closes i step ∧ i < s.fleet.members.length) := by
  cases step with
  | build sharing config b clock =>
    have hbuild := s.fleet.isClosed_build sharing config b clock i
    refine isClosed_iff_of_spared ?_ (by rintro ⟨⟩)
    rcases hresult : s.fleet.build sharing config b clock with ⟨_ | _, f⟩ <;>
      rw [hresult] at hbuild <;> simp only [perform, hresult]
    · exact hbuild
    · exact hbuild
  | pool j step => exact isClosed_playPool j step s i
  | conn name step =>
    refine isClosed_iff_of_spared ?_ (by rintro ⟨⟩)
    rw [perform]
    cases s.names.get? name <;> rfl
  | compare name other =>
    refine isClosed_iff_of_spared ?_ (by rintro ⟨⟩)
    rw [perform]
    split <;> rfl
  | backend b step =>
    refine isClosed_iff_of_spared ?_ (by rintro ⟨⟩)
    show (s.playBackend b step).2.fleet.isClosed i = _
    cases step with
    | connect name =>
      rw [playBackend]
      rcases s.world.connect b with ⟨_ | c, w⟩
      · rfl
      · exact congrArg (·.isClosed i) (fleet_bind (s.withWorld w) name (.bare c))
    | _ => rfl
  | advance span => exact isClosed_iff_of_spared rfl (by rintro ⟨⟩)
  | registry step => exact isClosed_playRegistry step s i
  | spawnPruner j interval => exact isClosed_iff_of_spared rfl (by rintro ⟨⟩)
  | pruner j step =>
    exact isClosed_iff_of_spared (isClosed_playPruner j step s.service i) (by rintro ⟨⟩)
  | wait j span =>
    exact isClosed_iff_of_spared (Service.isClosed_pass _ _ s.service i) (by rintro ⟨⟩)

/-- **After a step a pool is closed** if it was closed before, or if this is a step that closes
it. -/
theorem isClosed_play (step : Step) (s : Session) (i : PoolId) :
    (s.play step).2.fleet.isClosed i = true ↔
      s.fleet.isClosed i = true ∨ (s.Closes i step ∧ i < s.fleet.members.length) := by
  show (s.take step).2.2.fleet.isClosed i = true ↔ _
  rw [take]
  cases hmentioned : mentioned step with
  | none => exact isClosed_perform step s i
  | some b =>
    refine (isClosed_perform step (s.withWorld (s.world.mention b)) i).trans ?_
    -- a step that closes a pool mentions no backend
    have hspared : ∀ s, ¬Closes s i step := by
      rintro _ (_ | _ | _) <;> cases hmentioned
    rw [or_iff_left fun h => hspared _ h.1, or_iff_left fun h => hspared _ h.1]
    rfl

/-! ### Before a moment -/

/-- Time goes on. -/
theorem now_play (step : Step) (s : Session) : s.service.now ≤ (s.play step).2.service.now := by
  cases hstep : step.drivesPruners with
  | true =>
    cases step with
    | spawnPruner i interval => exact Nat.le_refl _
    | pruner j step =>
      cases step with
      | finished => exact Nat.le_refl _
      | shutdown => exact Nat.le_of_eq (s.service.now_shutdown j).symm
      | join limit =>
        show s.service.now ≤ (s.service.join j limit).2.now
        rw [Service.join]
        cases s.service.finished? j with
        | none => exact Nat.le_refl _
        | some _ =>
          have hle : s.service.now ≤ s.service.now + limit := Nat.le_add_right _ _
          exact (Service.now_pass (s := s.service.updatePruner j _) hle).1
    | wait i span =>
      exact Nat.le_trans (Nat.le_add_right _ _) (Nat.le_of_eq (s.service.now_wait span).symm)
    | _ => cases hstep
  | false =>
    have hsame := play_manned s.service.pruners s.service.now hstep s
    exact Nat.le_of_eq (congrArg (fun outcome => outcome.2.service.now) hsame).symm

/-- **What stays so in every step** of a script. -/
def Lasting (P : Session → Prop) : Prop := ∀ past step, P (after past) → P (after (past ++ [step]))

theorem Lasting.of_past (hP : Lasting P) (h : past <+: script) (hpast : P (after past)) :
    P (after script) := by
  obtain ⟨rest, rfl⟩ := h
  induction rest generalizing past with
  | nil => rwa [List.append_nil]
  | cons step rest ih =>
    rw [List.append_cons]
    exact ih (hP past step hpast)

theorem lasting_le_now (t : Nat) : Lasting fun s => t ≤ s.service.now := fun past step hle => by
  rw [after_concat]
  exact Nat.le_trans hle (now_play step (after past))

theorem now_le_of_past (h : past <+: script) :
    (after past).service.now ≤ (after script).service.now :=
  (lasting_le_now _).of_past h (Nat.le_refl _)

/-- **Something was so before a moment of a script**: there is a part of the script that leads to
it, and the moment had not come by the end of that part. -/
def Before (P : Session → Prop) (script : List Step) (t : Nat) : Prop :=
  ∃ past, past <+: script ∧ (after past).service.now < t ∧ P (after past)

/-- What is still to be done comes too late for what has been before. -/
theorem before_concat (hle : t ≤ (after (script ++ [step])).service.now) :
    Before P (script ++ [step]) t ↔ Before P script t := by
  constructor
  · rintro ⟨past, hpast, hlt, hP⟩
    rcases List.prefix_concat_iff.mp hpast with rfl | hpast
    · exact absurd hlt (Nat.not_lt.mpr hle)
    · exact ⟨past, hpast, hlt, hP⟩
  · rintro ⟨past, hpast, hlt, hP⟩
    exact ⟨past, hpast.trans (List.prefix_append _ _), hlt, hP⟩

/-- **What has been so before a moment that is to come** is what is so now. -/
theorem Lasting.before_iff (hP : Lasting P) (hlt : (after script).service.now < t) :
    Before P script t ↔ P (after script) :=
  ⟨fun ⟨_, hpast, _, h⟩ => hP.of_past hpast h, fun h => ⟨script, List.prefix_rfl, hlt, h⟩⟩

/-- What was so before a moment was so before every later one. -/
theorem Before.mono {u : Nat} (h : Before P script t) (htu : t ≤ u) : Before P script u :=
  h.imp fun _ h => ⟨h.1, Nat.lt_of_lt_of_le h.2.1 htu, h.2.2⟩

/-- What was so in a part of a script was so in the script. -/
theorem Before.of_past (h : Before P past t) (hpast : past <+: script) : Before P script t :=
  h.imp fun _ h => ⟨h.1.trans hpast, h.2⟩

/-! ### Pools that have been closed -/

/-- No pool is opened again. -/
theorem lasting_isClosed (i : PoolId) : Lasting fun s => s.fleet.isClosed i = true :=
  fun past step hclosed => by
    rw [after_concat]
    exact (isClosed_play step (after past) i).mpr (Or.inl hclosed)

/-- **A pool was closed before a moment.** -/
abbrev ClosedBefore (script : List Step) (t : Nat) (i : PoolId) : Prop :=
  Before (fun s => s.fleet.isClosed i = true) script t

/-- A pool is closed if one of the steps of the script has closed it. -/
theorem isClosed_after_iff (script : List Step) (i : PoolId) :
    (after script).fleet.isClosed i = true ↔ ∃ past step, past ++ [step] <+: script ∧
      (after past).Closes i step ∧ i < (after past).fleet.members.length := by
  constructor
  · intro hclosed
    induction script using List.reverseRecOn with
    | nil => cases hclosed
    | append_singleton script step ih =>
      rw [after_concat, isClosed_play] at hclosed
      rcases hclosed with hclosed | hcloses
      · obtain ⟨past, step', hpast, h⟩ := ih hclosed
        exact ⟨past, step', hpast.trans (List.prefix_append _ _), h⟩
      · exact ⟨script, step, List.prefix_rfl, hcloses⟩
  · rintro ⟨past, step, hpast, hcloses⟩
    refine (lasting_isClosed i).of_past hpast ?_
    rw [after_concat, isClosed_play]
    exact Or.inr hcloses

/-- **A pool was closed before a moment** if one of the steps before it has closed it. -/
theorem closedBefore_iff : ClosedBefore script t i ↔ ∃ past step, past ++ [step] <+: script ∧
    (after (past ++ [step])).service.now < t ∧ (after past).Closes i step ∧
      i < (after past).fleet.members.length := by
  constructor
  · rintro ⟨before, hbefore, hlt, hclosed⟩
    obtain ⟨past, step, hpast, hcloses⟩ := (isClosed_after_iff before i).mp hclosed
    exact ⟨past, step, hpast.trans hbefore,
      Nat.lt_of_le_of_lt (now_le_of_past hpast) hlt, hcloses⟩
  · rintro ⟨past, step, hpast, hlt, hcloses⟩
    refine ⟨past ++ [step], hpast, hlt, ?_⟩
    rw [after_concat]
    exact (isClosed_play step (after past) i).mpr (Or.inr hcloses)

end Session

end ConnPool
