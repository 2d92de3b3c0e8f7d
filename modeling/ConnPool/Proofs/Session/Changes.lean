import ConnPool.Session.Play
import ConnPool.Proofs.Registry

/-!
# What a script does to the fleet

However a script goes about it – through a pool, the registry, a pruner or a connection of its
own –, all it does to the pools and their world are changes of a fleet, and all that happens
in the world are events (`ConnPool.Session.changes_playAll`). Pools and recycle checks ask
before they close a connection. A step that closes one directly does not, so a script may
take such a step only where every close is allowed.

Of the world that is all there is to know in the end: it has gone from where it began to
where it is by events (`ConnPool.Session.events_playAll`).
-/

namespace ConnPool

open Relation (ReflTransGen)
open Fleet (Changes)

/-! ### Pruners -/

namespace Service

variable {env : World → World → Prop}

theorem changes_tick (j : Nat) (s : Service) : Changes env s.fleet (s.tick j).fleet := by
  rw [tick]
  cases s.pruner? j with
  | none => exact .refl
  | some p =>
    cases hphase : p.phase with
    | running =>
      simp only [hphase]
      split
      · exact .refl
      · exact Fleet.changes_prune s.fleet p.pool
    | ended => simp only [hphase, ReflTransGen.refl]
    | stopped => simp only [hphase, ReflTransGen.refl]

theorem changes_reach (t : Nat) (s : Service) : Changes env s.fleet (s.reach t).fleet := by
  show Changes env s.fleet ((s.tickingAt t).foldl (fun s j => s.tick j) s).fleet
  induction s.tickingAt t generalizing s with
  | nil => exact .refl
  | cons j l ih => exact (changes_tick j s).trans (ih (s.tick j))

/-- **Time passes** by the ticks of pruners. -/
theorem changes_pass (stop : Service → Bool) (upTo : Nat) (s : Service) :
    Changes env s.fleet (s.pass stop upTo).2.fleet := by
  fun_induction pass stop upTo s with
  | case1 s _ => exact .refl
  | case2 s _ _ => exact .refl
  | case3 s _ t _ _ ih => exact (changes_reach t s).trans ih
  | case4 s _ t _ _ => exact .refl

theorem changes_wait (span : Nat) (s : Service) : Changes env s.fleet (s.wait span).fleet :=
  changes_pass (fun _ => false) (s.now + span) s

theorem fleet_shutdown (j : Nat) (s : Service) : (s.shutdown j).2.fleet = s.fleet := by
  rw [shutdown]
  cases s.finished? j <;> rfl

theorem changes_join (j limit : Nat) (s : Service) :
    Changes env s.fleet (s.join j limit).2.fleet := by
  rw [join]
  cases s.finished? j with
  | none => exact .refl
  | some _ => exact changes_pass _ _ (s.updatePruner j fun p => { p with attached := false })

end Service

namespace Session

/-! ### The parts of a session -/

theorem fleet_bind (s : Session) (name : Option String) (b : Binding) :
    (s.bind name b).fleet = s.fleet := by
  cases name <;> rfl

theorem fleet_respond (s : Session) (i : PoolId) (name : Option String)
    (response : Response SimId Fault) : (s.respond i name response).2.fleet = s.fleet := by
  cases response with
  | acquired result =>
    cases result with
    | ok h => exact fleet_bind s name _
    | error _ => rfl
  | released result => cases result <;> rfl
  | pruned _ => rfl
  | closed _ => rfl

/-! ### Steps -/

variable {env : World → World → Prop} {allowed : SimId → World → Prop}

theorem changes_request (i : PoolId) (r : Request String) (name : Option String) (s : Session) :
    Changes env s.fleet (s.request i r name).2.fleet := by
  rw [request]
  cases r.resolve s.handle? with
  | none => exact .refl
  | some r =>
    have hstep : Fleet.Change env s.fleet (s.fleet.serve i r).2 := .serve i r s.fleet
    rcases hserve : s.fleet.serve i r with ⟨_ | response, f⟩
    · simp only [hserve, ReflTransGen.refl]
    · rw [hserve] at hstep
      simp only [hserve, fleet_respond]
      exact .single hstep

theorem changes_playPool (i : PoolId) (step : PoolStep) (s : Session) :
    Changes env s.fleet (s.playPool i step).2.2.fleet := by
  have hshare : ∀ m expected sharing,
      Changes env s.fleet (s.share i m expected sharing).2.2.fleet := by
    intro m expected sharing
    rw [share]
    split
    · exact .single (.share i sharing s.fleet)
    · exact .refl
  rw [playPool]
  cases s.fleet.member? i with
  | none => exact .refl
  | some m =>
    cases step with
    | request r name => exact changes_request i r name s
    | unwrap => exact hshare m .oneThread .exclusive
    | wrap sharing => exact hshare m .exclusive sharing
    | _ => exact .refl

/-- **All that a step on a connection does are events.** It closes the connection unasked only
if it is a close. -/
theorem events_playConn (hopen : ∀ c w, w.isClosed c = false → allowed c w) (c : SimId)
    {step : ConnStep} (hclose : step = .close → ∀ c w, allowed c w) (w : World) :
    ReflTransGen (World.Event allowed) w (playConn c step w).2 := by
  have hadjust : ∀ {f : SimConn → SimConn}, SimConn.Keeps f →
      ReflTransGen (World.Event allowed) w (w.updateConn c f) := fun hf => .single (.adjust c hf w)
  cases step with
  | setStatus status =>
    refine hadjust ?_
    exact ⟨fun _ => rfl, fun _ => rfl, fun _ => rfl, fun _ => id⟩
  | sever =>
    refine hadjust ?_
    exact ⟨fun _ => rfl, fun _ => rfl, fun _ => rfl, fun _ _ => rfl⟩
  | comply onClose onRollback =>
    refine hadjust ?_
    exact ⟨fun _ => rfl, fun _ => rfl, fun _ => rfl, fun _ => id⟩
  | close => exact .single (.close (hclose rfl c w))
  | rollback => exact .single (.rollback c w)
  | recycle => exact (World.driver_follows hopen 0 .manual).recycle rfl
  | inspect => exact .refl

theorem changes_playBackend (b : Nat) (step : BackendStep) (s : Session) :
    Changes (World.Event allowed) s.fleet (s.playBackend b step).2.fleet := by
  have hinstruct : ∀ {f : Backend → Backend}, Backend.Keeps f →
      Changes (World.Event allowed) s.fleet { s.fleet with world := s.world.updateBackend b f } :=
    fun hf => .single (.drift s.fleet (.instruct b hf s.world))
  cases step with
  | connect name =>
    have hstep : World.Event allowed s.world (s.world.connect b).2 := .connect b s.world
    rcases hconnect : s.world.connect b with ⟨e | c, w⟩ <;> rw [hconnect] at hstep
    · simp only [playBackend, hconnect]
      exact .single (.drift s.fleet hstep)
    · simp only [playBackend, hconnect, fleet_bind]
      exact .single (.drift s.fleet hstep)
  | _ =>
    refine hinstruct ?_
    constructor <;> exact fun _ => rfl

theorem changes_playRegistry (step : RegistryStep) (s : Session) :
    Changes env s.fleet (s.playRegistry step).2.2.fleet := by
  cases step with
  | provide dsn config b => exact Registry.changes_provide s.registry s.fleet dsn config fun _ => b
  | get dsn =>
    rw [playRegistry]
    cases s.registry.get? dsn <;> exact .refl
  | remove dsn =>
    have hstep : Changes env s.fleet (s.registry.remove dsn s.fleet).2.2 :=
      Registry.changes_remove s.registry s.fleet dsn
    rw [playRegistry]
    rcases hremove : s.registry.remove dsn s.fleet with ⟨_ | report, r, f⟩ <;>
      rw [hremove] at hstep
    · exact hstep
    · exact hstep
  | closeAll => exact Registry.changes_closeAll s.registry s.fleet
  | dsns => exact .refl
  | «show» => exact .refl

theorem changes_playPruner (j : Nat) (step : PrunerStep) (s : Service) :
    Changes env s.fleet (playPruner j step s).2.fleet := by
  cases step with
  | finished => exact .refl
  | shutdown =>
    have hsame : (playPruner j .shutdown s).2.fleet = s.fleet := s.fleet_shutdown j
    rw [hsame]
  | join limit => exact s.changes_join j limit

/-- **A step changes the fleet**, by changes and events alone. -/
theorem changes_perform (hopen : ∀ c w, w.isClosed c = false → allowed c w) {step : Step}
    (hclose : ∀ name, step = .conn name .close → ∀ c w, allowed c w) (s : Session) :
    Changes (World.Event allowed) s.fleet (s.perform step).2.2.fleet := by
  cases step with
  | build sharing config b clock =>
    rcases hbuild : s.fleet.build sharing config b clock with ⟨e | i, f⟩ <;>
      simp only [perform, hbuild]
    · exact Fleet.changes_build hbuild
    · exact Fleet.changes_build hbuild
  | pool i step => exact changes_playPool i step s
  | conn name step =>
    rw [perform]
    cases s.names.get? name with
    | none => exact .refl
    | some b =>
      refine Fleet.changes_of_drift (events_playConn hopen b.conn ?_ s.world)
      rintro rfl
      exact hclose name rfl
  | compare name other =>
    rw [perform]
    split <;> exact .refl
  | backend b step => exact changes_playBackend b step s
  | advance span => exact .single (.drift s.fleet (.advance span s.world))
  | registry step => exact changes_playRegistry step s
  | spawnPruner i interval => exact .refl
  | pruner j step => exact changes_playPruner j step s.service
  | wait i span => exact s.service.changes_wait span

theorem changes_take (hopen : ∀ c w, w.isClosed c = false → allowed c w) {step : Step}
    (hclose : ∀ name, step = .conn name .close → ∀ c w, allowed c w) (s : Session) :
    Changes (World.Event allowed) s.fleet (s.take step).2.2.fleet := by
  rw [take]
  cases mentioned step with
  | none => exact changes_perform hopen hclose s
  | some b =>
    have hmention : Changes (World.Event allowed) s.fleet
        { s.fleet with world := s.world.mention b } := .single (.drift s.fleet (.mention b s.world))
    exact hmention.trans (changes_perform hopen hclose (s.withWorld (s.world.mention b)))

/-! ### Scripts -/

theorem playAll_append (past rest : List Step) (s : Session) :
    (playAll (past ++ rest) s).2 = (playAll rest (playAll past s).2).2 := by
  induction past generalizing s with
  | nil => rfl
  | cons step past ih => exact ih (s.play step).2

/-- The session after a script. -/
def after (script : List Step) : Session := (playAll script {}).2

theorem after_append (past rest : List Step) :
    after (past ++ rest) = (playAll rest (after past)).2 := playAll_append past rest {}

/-- **All that a script does to the fleet are changes**, and all that happens in the world
meanwhile are events. -/
theorem changes_playAll (hopen : ∀ c w, w.isClosed c = false → allowed c w) {script : List Step}
    (hclose : ∀ name, .conn name .close ∈ script → ∀ c w, allowed c w) (s : Session) :
    Changes (World.Event allowed) s.fleet (playAll script s).2.fleet := by
  induction script generalizing s with
  | nil => exact .refl
  | cons step script ih =>
    have hstep : Changes (World.Event allowed) s.fleet (s.play step).2.fleet :=
      changes_take hopen (fun name heq => hclose name (heq ▸ List.mem_cons_self)) s
    exact hstep.trans (ih (fun name hmem => hclose name (List.mem_cons_of_mem step hmem)) _)

/-- **A script leads the world from event to event.** -/
theorem events_playAll (hopen : ∀ c w, w.isClosed c = false → allowed c w) {script : List Step}
    (hclose : ∀ name, .conn name .close ∈ script → ∀ c w, allowed c w) (s : Session) :
    ReflTransGen (World.Event allowed) s.world (playAll script s).2.world :=
  Fleet.changes_world (World.driver_follows hopen) (fun _ _ => .single)
    (changes_playAll hopen hclose s)

end Session

end ConnPool
