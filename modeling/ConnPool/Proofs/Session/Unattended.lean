import ConnPool.Proofs.Session.Changes
import ConnPool.Proofs.Waiting

/-!
# Sessions without pruners

Only three kinds of steps have to do with pruners: those that start one, those that use the
handle of one, and those that wait. No other step notices what pruners there are or what time
it is, nor does it change any of that (`ConnPool.Session.play_manned`).

So the pruners can be dispensed with, if somebody prunes in their place. For a step that has to
do with pruners, that somebody prunes the pools that are due while the step lasts
(`ConnPool.Session.byHand`). Step by step, the session without pruners then is the same as the
one with them, but for the pruners (`ConnPool.Session.playAll_byHand`).
-/

namespace ConnPool

open Relation (ReflTransGen)

/-- Whether a step has to do with pruners: it starts one, uses the handle of one, or waits. -/
def Step.drivesPruners : Step → Bool
  | .spawnPruner _ _ => true
  | .pruner _ _ => true
  | .wait _ _ => true
  | _ => false

/-- The step that prunes a pool. -/
def Step.prune (i : PoolId) : Step := .pool i (.request .prune none)

namespace Session

variable {s : Session} {pruners : List Pruner} {now : Nat}

/-! ### Other pruners -/

/-- The session with other pruners, at another time. -/
def manned (pruners : List Pruner) (now : Nat) (s : Session) : Session :=
  { s with service := { fleet := s.fleet, pruners, now } }

/-- **The session without its pruners.** -/
def unattended (s : Session) : Session := s.manned [] 0

@[simp] theorem fleet_manned (s : Session) : (s.manned pruners now).fleet = s.fleet := rfl

@[simp] theorem world_manned (s : Session) : (s.manned pruners now).world = s.world := rfl

@[simp] theorem names_manned (s : Session) : (s.manned pruners now).names = s.names := rfl

@[simp] theorem registry_manned (s : Session) : (s.manned pruners now).registry = s.registry := rfl

@[simp] theorem handle?_manned (s : Session) :
    (s.manned pruners now).handle? = s.handle? := rfl

theorem bind_manned (s : Session) (name : Option String) (b : Binding) :
    (s.manned pruners now).bind name b = (s.bind name b).manned pruners now := by
  cases name <;> rfl

theorem respond_manned (i : PoolId) (name : Option String) (s : Session)
    (response : Response SimId Fault) :
    (s.manned pruners now).respond i name response =
      ((s.respond i name response).1, (s.respond i name response).2.manned pruners now) := by
  cases response with
  | acquired result =>
    cases result with
    | ok h => exact Prod.ext rfl (bind_manned s name _)
    | error _ => rfl
  | released result => cases result <;> rfl
  | pruned _ => rfl
  | closed _ => rfl

theorem request_manned (i : PoolId) (r : Request String) (name : Option String) (s : Session) :
    (s.manned pruners now).request i r name =
      ((s.request i r name).1, (s.request i r name).2.manned pruners now) := by
  rw [request, request, handle?_manned, fleet_manned]
  cases r.resolve s.handle? with
  | none => rfl
  | some r =>
    dsimp only
    rcases s.fleet.serve i r with ⟨_ | response, f⟩
    · rfl
    · exact respond_manned i name (s.withFleet f) response

theorem playPool_manned (i : PoolId) (step : PoolStep) (s : Session) :
    (s.manned pruners now).playPool i step =
      ((s.playPool i step).1, (s.playPool i step).2.1,
        (s.playPool i step).2.2.manned pruners now) := by
  rw [playPool, playPool, fleet_manned]
  cases s.fleet.member? i with
  | none => rfl
  | some m =>
    cases step with
    | request r name =>
      dsimp only
      rw [request_manned]
    | unwrap =>
      dsimp only [share]
      split <;> rfl
    | wrap sharing =>
      dsimp only [share]
      split <;> rfl
    | _ => rfl

theorem playBackend_manned (b : Nat) (step : BackendStep) (s : Session) :
    (s.manned pruners now).playBackend b step =
      ((s.playBackend b step).1, (s.playBackend b step).2.manned pruners now) := by
  cases step with
  | connect name =>
    rw [playBackend, playBackend, world_manned]
    rcases s.world.connect b with ⟨e | c, w⟩
    · rfl
    · exact Prod.ext rfl (bind_manned (s.withWorld w) name _)
  | _ => rfl

theorem playRegistry_manned (step : RegistryStep) (s : Session) :
    (s.manned pruners now).playRegistry step =
      ((s.playRegistry step).1, (s.playRegistry step).2.1,
        (s.playRegistry step).2.2.manned pruners now) := by
  cases step with
  | get dsn =>
    rw [playRegistry, playRegistry, registry_manned]
    cases s.registry.get? dsn <;> rfl
  | remove dsn =>
    rw [playRegistry, playRegistry, registry_manned, fleet_manned]
    rcases s.registry.remove dsn s.fleet with ⟨_ | report, registry, f⟩ <;> rfl
  | _ => rfl

/-- **A step that has nothing to do with pruners** does the same whatever pruners there are,
and leaves them as they are. -/
theorem perform_manned (pruners : List Pruner) (now : Nat) {step : Step}
    (hstep : step.drivesPruners = false) (s : Session) :
    (s.manned pruners now).perform step =
      ((s.perform step).1, (s.perform step).2.1,
        (s.perform step).2.2.manned pruners now) := by
  cases step with
  | build sharing config b clock =>
    rw [perform, perform, fleet_manned]
    rcases s.fleet.build sharing config b clock with ⟨e | i, f⟩ <;> rfl
  | pool i step => exact playPool_manned i step s
  | conn name step =>
    rw [perform, perform, names_manned]
    cases s.names.get? name <;> rfl
  | compare name other =>
    rw [perform, perform, handle?_manned]
    cases s.handle? name <;> cases s.handle? other <;> rfl
  | backend b step =>
    rw [perform, perform, playBackend_manned]
  | advance span => rfl
  | registry step => exact playRegistry_manned step s
  | spawnPruner i interval => cases hstep
  | pruner j step => cases hstep
  | wait i span => cases hstep

theorem play_manned (pruners : List Pruner) (now : Nat) {step : Step}
    (hstep : step.drivesPruners = false) (s : Session) :
    (s.manned pruners now).play step =
      ((s.play step).1, (s.play step).2.manned pruners now) := by
  have htake : (s.manned pruners now).take step =
      ((s.take step).1, (s.take step).2.1, (s.take step).2.2.manned pruners now) := by
    rw [take, take]
    cases mentioned step with
    | none => exact perform_manned pruners now hstep s
    | some b => exact perform_manned pruners now hstep (s.withWorld (s.world.mention b))
  rw [play, play, htake]
  rfl

/-! ### Pruning by hand -/

/-- To prune a pool by a step is to prune it. -/
theorem play_prune (i : PoolId) (s : Session) :
    (s.play (.prune i)).2 = s.withFleet (s.fleet.prune i).2 := by
  show (s.playPool i (.request .prune none)).2.2 = _
  rw [playPool]
  cases hm : s.fleet.member? i with
  | none =>
    rw [Fleet.prune_of_absent hm]
    rfl
  | some m =>
    rw [Fleet.prune_eq_serve]
    dsimp only
    rw [request, Request.resolve]
    dsimp only
    rw [Fleet.serve, Fleet.act, hm]
    rfl

theorem playAll_prune (l : List PoolId) (s : Session) :
    (playAll (l.map .prune) s).2 = s.withFleet (s.fleet.pruneEach l) := by
  induction l generalizing s with
  | nil => rfl
  | cons i l ih =>
    show (playAll (l.map .prune) (s.play (.prune i)).2).2 = _
    rw [ih, play_prune]
    rfl

/-- **What has to be done by hand** in place of a step, if there are no pruners: for a step
that has to do with pruners, to prune the pools that are due while it lasts. -/
def byHand (step : Step) (s : Session) : List Step :=
  if step.drivesPruners then (s.service.dueBy (s.play step).2.service.now).map .prune else [step]

theorem fleet_playPruner {s : Service} (h : s.WellKept) (j : Nat) (step : PrunerStep) :
    (playPruner j step s).2.fleet =
      s.fleet.pruneEach (s.dueBy (playPruner j step s).2.now) := by
  cases step with
  | finished =>
    show s.fleet = s.fleet.pruneEach (s.dueBy s.now)
    rw [Service.dueBy_now, Fleet.pruneEach_nil]
  | shutdown =>
    show (s.shutdown j).2.fleet = s.fleet.pruneEach (s.dueBy (s.shutdown j).2.now)
    rw [Service.now_shutdown, Service.dueBy_now, Service.fleet_shutdown, Fleet.pruneEach_nil]
  | join limit => exact h.fleet_join j limit

/-- **A step that has to do with pruners** does nothing to the session, but for the pruners,
than to prune the pools that are due. -/
theorem unattended_play {step : Step} (hstep : step.drivesPruners = true)
    (h : s.service.WellKept) :
    (s.play step).2.unattended = s.unattended.withFleet
      (s.fleet.pruneEach (s.service.dueBy (s.play step).2.service.now)) := by
  suffices hfleet : (s.play step).2 = { s with service := (s.play step).2.service } ∧
      (s.play step).2.fleet =
        s.fleet.pruneEach (s.service.dueBy (s.play step).2.service.now) by
    rw [← hfleet.2]
    conv_lhs => rw [hfleet.1]
    rfl
  cases step with
  | spawnPruner i interval =>
    refine ⟨rfl, ?_⟩
    show s.fleet = s.fleet.pruneEach (s.service.dueBy s.service.now)
    rw [Service.dueBy_now, Fleet.pruneEach_nil]
  | pruner j step => exact ⟨rfl, fleet_playPruner h j step⟩
  | wait i span =>
    refine ⟨rfl, ?_⟩
    show (s.service.wait span).fleet =
      s.fleet.pruneEach (s.service.dueBy (s.service.wait span).now)
    rw [h.fleet_wait, Service.now_wait]
    rfl
  | _ => cases hstep

/-- **A step by hand** is the step, but for the pruners. -/
theorem playAll_byHand (h : s.service.WellKept) (step : Step) :
    (playAll (s.byHand step) s.unattended).2 = (s.play step).2.unattended := by
  rw [byHand]
  cases hstep : step.drivesPruners with
  | true => rw [if_pos rfl, playAll_prune, unattended_play hstep h]; rfl
  | false => exact congrArg Prod.snd (play_manned [] 0 hstep s)

/-! ### Scripts -/

theorem wellKept_play (h : s.service.WellKept) (step : Step) :
    (s.play step).2.service.WellKept := by
  cases hstep : step.drivesPruners with
  | true =>
    cases step with
    | spawnPruner i interval => exact h.spawn i interval
    | pruner j step =>
      cases step with
      | finished => exact h
      | shutdown => exact h.shutdown j
      | join limit => exact h.join j limit
    | wait i span => exact h.wait span
    | _ => cases hstep
  | false =>
    have hsame : (s.play step).2 = (s.play step).2.manned s.service.pruners s.service.now :=
      congrArg Prod.snd (play_manned s.service.pruners s.service.now hstep s)
    have hchanges : Fleet.Changes (World.Event fun _ _ => True) s.fleet (s.play step).2.fleet :=
      changes_take (fun _ _ _ => trivial) (fun _ _ _ _ => trivial) s
    rw [hsame]
    exact h.mono rfl (Nat.le_refl _) fun _ => Fleet.isClosed_of_changes hchanges

theorem wellKept_after (script : List Step) : (after script).service.WellKept := by
  suffices h : ∀ script (s : Session), s.service.WellKept →
      (playAll script s).2.service.WellKept from h script {} fun _ hp => nomatch hp
  intro script
  induction script with
  | nil => exact fun _ h => h
  | cons step script ih => exact fun s h => ih _ (wellKept_play h step)

/-- **The script of a session without pruners** that does by hand what the pruners do. -/
def unpruned : List Step → Session → List Step
  | [], _ => []
  | step :: rest, s => s.byHand step ++ unpruned rest (s.play step).2

theorem playAll_unpruned (script : List Step) (h : s.service.WellKept) :
    (playAll (unpruned script s) s.unattended).2 = (playAll script s).2.unattended := by
  induction script generalizing s with
  | nil => rfl
  | cons step script ih =>
    rw [unpruned, playAll_append, playAll_byHand h, ih (wellKept_play h step)]
    rfl

theorem unpruned_append (past : List Step) (step : Step) (s : Session) :
    unpruned (past ++ [step]) s = unpruned past s ++ (playAll past s).2.byHand step := by
  induction past generalizing s with
  | nil => exact List.append_nil _
  | cons first past ih =>
    rw [List.cons_append, unpruned, ih, unpruned, List.append_assoc]
    rfl

end Session

end ConnPool
