import ConnPool.Proofs.Fleet.Operations
import ConnPool.Proofs.Session.PrunerSteps

/-!
# The acts of a script

What a step of a script is to do with the pools and their world can be told before it is taken, as
a list of operations (`ConnPool.Session.operations`), and the operations can be told as acts. So
every script has its acts (`ConnPool.Session.acts`): each attempt to open a connection, each close
and each rollback, whoever makes it – a pool that is built, asked, pruned or closed, a recycle
check, or the script itself –, in the order in which they are made.

The world after a script is what its acts make of the world before it
(`ConnPool.Session.world_playAll`). So what is true after any acts is true after every script, and
at every point on the way as well, between any two acts of a step.
-/

namespace ConnPool

namespace Session

open World (Act)
open Fleet (Operation)

variable {s : Session} {step : Step} {script : List Step}

/-! ### Operations -/

/-- What a request of the script has a pool do. -/
def requestOperations (i : PoolId) (r : Request String) (s : Session) : List Operation :=
  ((r.resolve s.handle?).map fun r => .serve i r).toList

/-- What a step on a pool is to do with the fleet. -/
def poolOperations (i : PoolId) (step : PoolStep) (s : Session) : List Operation :=
  match s.fleet.member? i with
  | none => []
  | some m =>
    match step with
    | .request r _ => s.requestOperations i r
    | .unwrap => if m.sharing = .oneThread then [.share i .exclusive] else []
    | .wrap sharing => if m.sharing = .exclusive then [.share i sharing] else []
    | _ => []

/-- The acts of a step on a connection. -/
def connActs (c : SimId) (step : ConnStep) (w : World) : List Act :=
  match step with
  | .setStatus status =>
    [.adjust c (fun k => { k with status }) ⟨fun _ => rfl, fun _ => rfl, fun _ => rfl, fun _ => id⟩]
  | .sever =>
    [.adjust c (fun k => { k with closed := true })
      ⟨fun _ => rfl, fun _ => rfl, fun _ => rfl, fun _ _ => rfl⟩]
  | .comply onClose onRollback =>
    [.adjust c (fun k => { k with onClose, onRollback })
      ⟨fun _ => rfl, fun _ => rfl, fun _ => rfl, fun _ => id⟩]
  | .close => [.close c]
  | .rollback => [.rollback c]
  | .recycle => ((World.recorder 0 .manual).recycle c (w, [])).2.2
  | .inspect => []

/-- The act of a step on a backend. -/
def backendAct (b : Nat) : BackendStep → Act
  | .connect _ => .connect b
  | .refuseNext n => .instruct b (.refuseNext n)
  | .refuseAll on => .instruct b (.refuseAll on)
  | .failClose on => .instruct b (.failClose on)
  | .failRollback on => .instruct b (.failRollback on)
  | .birth condition => .instruct b (.birth condition)

/-- What a step on the registry is to do with the fleet. -/
def registryOperations (step : RegistryStep) (s : Session) : List Operation :=
  match step with
  | .provide dsn config b =>
    match s.registry.open? s.fleet dsn with
    | some _ => []
    | none => [.build .manyThreads config b .wall]
  | .remove dsn =>
    match s.registry.get? dsn with
    | none => []
    | some i => [.serve i .closeAll]
  | .closeAll => s.registry.registrations.map fun e => .serve e.2 .closeAll
  | _ => []

/-- What a step is to do with the fleet, once its backend exists. -/
def performOperations (step : Step) (s : Session) : List Operation :=
  match step with
  | .build sharing config b clock => [.build sharing config b clock]
  | .pool i step => s.poolOperations i step
  | .conn name step =>
    match s.names.get? name with
    | none => []
    | some b => (connActs b.conn step s.world).map .outside
  | .compare _ _ => []
  | .backend b step => [.outside (backendAct b step)]
  | .advance span => [.outside (.advance span)]
  | .registry step => s.registryOperations step
  | step => ((s.prunesBy step).filterMap fun e => s.service.poolOf? e.2).map fun i =>
      .serve i .prune

/-- **What a step is to do with the fleet.** The backend it mentions is to exist first. -/
def operations (step : Step) (s : Session) : List Operation :=
  match mentioned step with
  | none => s.performOperations step
  | some b => .outside (.mention b) :: (s.withWorld (s.world.mention b)).performOperations step

/-! ### What a step does with the fleet -/

theorem fleet_share (i : PoolId) (m : Member) (expected sharing : Sharing) (s : Session) :
    (s.share i m expected sharing).2.2.fleet =
      s.fleet.carryOutAll (if m.sharing = expected then [.share i sharing] else []) := by
  rw [share]
  split <;> rfl

theorem fleet_playPool (i : PoolId) (step : PoolStep) (s : Session) :
    (s.playPool i step).2.2.fleet = s.fleet.carryOutAll (s.poolOperations i step) := by
  rw [playPool, poolOperations]
  cases s.fleet.member? i with
  | none => rfl
  | some m =>
    cases step with
    | request r name =>
      show (s.request i r name).2.fleet = s.fleet.carryOutAll (s.requestOperations i r)
      rw [fleet_request, requestOperations]
      cases r.resolve s.handle? <;> rfl
    | unwrap => exact fleet_share i m .oneThread .exclusive s
    | wrap sharing => exact fleet_share i m .exclusive sharing s
    | _ => rfl

/-- What a recycle check does has been written down. -/
theorem records_recycle (c : SimId) (w : World) :
    World.Records (w, []) (((World.driver 0 .manual).recycle c w).2,
      ((World.recorder 0 .manual).recycle c (w, [])).2.2) := by
  have hsame := (World.projects_recorder 0 .manual).recycle c (w, [])
  have hworld : ((World.driver 0 .manual).recycle c w).2 =
      ((World.recorder 0 .manual).recycle c (w, [])).2.1 := congrArg Prod.snd hsame
  rw [hworld]
  exact (World.follows_recorder 0 .manual).recycle rfl

theorem world_playConn (c : SimId) (step : ConnStep) (w : World) :
    (playConn c step w).2 = w.replay (connActs c step w) := by
  cases step with
  | recycle =>
    obtain ⟨acts, hwritten, hdone, _⟩ := records_recycle c w
    obtain rfl : ((World.recorder 0 .manual).recycle c (w, [])).2.2 = acts := hwritten
    exact hdone
  | _ => rfl

theorem fleet_playBackend (b : Nat) (step : BackendStep) (s : Session) :
    (s.playBackend b step).2.fleet =
      { s.fleet with world := s.world.act (backendAct b step) } := by
  cases step with
  | connect name =>
    have hworld : (s.world.connect b).2 = s.world.act (.connect b) := rfl
    rw [playBackend, backendAct, ← hworld]
    rcases s.world.connect b with ⟨_ | c, w⟩
    · rfl
    · exact fleet_bind _ name (.bare c)
  | _ => rfl

theorem fleet_closeEach (l : List (String × PoolId)) (f : Fleet) :
    (Registry.closeEach l f).2 = f.carryOutAll (l.map fun e => .serve e.2 .closeAll) := by
  induction l generalizing f with
  | nil => rfl
  | cons e l ih =>
    have hfirst : (f.closeAll e.2).2 = f.carryOut (.serve e.2 .closeAll) :=
      f.closeAll_eq_serve e.2
    rw [List.map_cons, Fleet.carryOutAll_cons, ← hfirst]
    exact ih (f.closeAll e.2).2

theorem fleet_playRegistry (step : RegistryStep) (s : Session) :
    (s.playRegistry step).2.2.fleet = s.fleet.carryOutAll (s.registryOperations step) := by
  cases step with
  | provide dsn config b =>
    rw [playRegistry, Registry.provide, registryOperations]
    cases s.registry.open? s.fleet dsn with
    | some _ => rfl
    | none =>
      have hbuild : (s.fleet.build .manyThreads config b .wall).2 =
        s.fleet.carryOut (.build .manyThreads config b .wall) := rfl
      simp only [Fleet.carryOutAll_cons, Fleet.carryOutAll_nil, ← hbuild]
      rcases s.fleet.build .manyThreads config b .wall with ⟨_ | i, f⟩ <;> rfl
  | get dsn =>
    rw [playRegistry]
    cases s.registry.get? dsn <;> rfl
  | remove dsn =>
    rw [playRegistry, Registry.remove, registryOperations]
    cases s.registry.get? dsn with
    | none => rfl
    | some i => exact s.fleet.closeAll_eq_serve i
  | closeAll => exact fleet_closeEach s.registry.registrations s.fleet
  | _ => rfl

theorem fleet_perform (step : Step) (s : Session) :
    (s.perform step).2.2.fleet = s.fleet.carryOutAll (s.performOperations step) := by
  have hpruners : mentioned step = none → step.drivesPruners = true →
      (s.perform step).2.2.fleet = s.fleet.carryOutAll
        (((s.prunesBy step).filterMap fun e => s.service.poolOf? e.2).map fun i =>
          .serve i .prune) := by
    intro hnone hdrives
    rw [Fleet.carryOutAll_prune, ← fleet_prunesBy hdrives s]
    show _ = (s.take step).2.2.fleet
    rw [take, hnone]
  cases step with
  | build sharing config b clock =>
    have hbuild : (s.fleet.build sharing config b clock).2 =
        s.fleet.carryOut (.build sharing config b clock) := rfl
    rw [perform, performOperations, Fleet.carryOutAll_cons, Fleet.carryOutAll_nil, ← hbuild]
    rcases s.fleet.build sharing config b clock with ⟨_ | i, f⟩ <;> rfl
  | pool i step => exact fleet_playPool i step s
  | conn name step =>
    rw [perform, performOperations]
    cases s.names.get? name with
    | none => rfl
    | some b =>
      simp only [Fleet.carryOutAll_outside]
      exact congrArg (fun w => { s.fleet with world := w }) (world_playConn b.conn step s.world)
  | compare name other =>
    rw [perform]
    split <;> rfl
  | backend b step => exact fleet_playBackend b step s
  | advance span => rfl
  | registry step => exact fleet_playRegistry step s
  | spawnPruner i interval => exact hpruners rfl rfl
  | pruner j step => exact hpruners rfl rfl
  | wait i span => exact hpruners rfl rfl

/-- **A step does with the fleet what it is to do.** -/
theorem fleet_play (step : Step) (s : Session) :
    (s.play step).2.fleet = s.fleet.carryOutAll (s.operations step) := by
  show (s.take step).2.2.fleet = _
  rw [take, operations]
  cases mentioned step with
  | none => exact fleet_perform step s
  | some b => exact fleet_perform step (s.withWorld (s.world.mention b))

/-! ### The acts of a script -/

/-- The acts of a step. -/
def actsOf (step : Step) (s : Session) : List Act := s.fleet.actsOfAll (s.operations step)

/-- **The acts of a script**, in their order. -/
def acts : List Step → Session → List Act
  | [], _ => []
  | step :: rest, s => s.actsOf step ++ acts rest (s.play step).2

theorem acts_append (past rest : List Step) (s : Session) :
    acts (past ++ rest) s = acts past s ++ acts rest (playAll past s).2 := by
  induction past generalizing s with
  | nil => rfl
  | cons step past ih =>
    rw [List.cons_append, acts, ih, acts, List.append_assoc]
    rfl

/-- **The world after a script** is what its acts make of the world before it. -/
theorem world_playAll (script : List Step) (s : Session) :
    (playAll script s).2.world = s.world.replay (acts script s) := by
  induction script generalizing s with
  | nil => rfl
  | cons step script ih =>
    have hstep : (s.play step).2.world = s.world.replay (s.actsOf step) := by
      rw [actsOf]
      show (s.play step).2.fleet.world = _
      rw [fleet_play, Fleet.world_carryOutAll]
      rfl
    rw [acts, World.replay_append, ← hstep]
    exact ih (s.play step).2

/-! ### What backends are told -/

variable {b : Nat} {order : Order}

theorem not_mem_poolOperations {a : Act} (i : PoolId) (step : PoolStep) (s : Session) :
    .outside a ∉ s.poolOperations i step := by
  rw [poolOperations]
  cases s.fleet.member? i with
  | none => exact List.not_mem_nil
  | some m =>
    cases step with
    | request r name => simp [requestOperations]
    | unwrap => simp
    | wrap sharing => simp
    | _ => exact List.not_mem_nil

theorem not_mem_registryOperations {a : Act} (step : RegistryStep) (s : Session) :
    .outside a ∉ s.registryOperations step := by
  cases step with
  | provide dsn config b =>
    rw [registryOperations]
    cases s.registry.open? s.fleet dsn <;> simp
  | remove dsn =>
    rw [registryOperations]
    cases s.registry.get? dsn <;> simp
  | closeAll => simp [registryOperations]
  | _ => exact List.not_mem_nil

theorem instruct_not_mem_connActs (c : SimId) (step : ConnStep) (w : World) :
    .instruct b order ∉ connActs c step w := by
  cases step with
  | recycle =>
    obtain ⟨acts, hwritten, _, hnone⟩ := records_recycle c w
    obtain rfl : ((World.recorder 0 .manual).recycle c (w, [])).2.2 = acts := hwritten
    exact hnone b order
  | _ => simp [connActs]

/-- Of the steps of a script only those on a backend tell it anything. -/
theorem step_of_mem_performOperations
    (h : .outside (.instruct b order) ∈ s.performOperations step) :
    ∃ told, step = .backend b told ∧ backendAct b told = .instruct b order := by
  cases step with
  | build sharing config b clock => cases List.mem_singleton.mp h
  | pool i step => exact absurd h (not_mem_poolOperations i step s)
  | conn name step =>
    rw [performOperations] at h
    cases hname : s.names.get? name with
    | none => simp [hname] at h
    | some x =>
      simp only [hname, List.mem_map, Operation.outside.injEq, exists_eq_right] at h
      exact absurd h (instruct_not_mem_connActs x.conn step s.world)
  | compare name other => cases h
  | backend x told =>
    have hact : backendAct x told = .instruct b order := by
      simpa using (List.mem_singleton.mp h).symm
    have hb : x = b := by
      cases told <;> cases hact <;> rfl
    subst hb
    exact ⟨told, rfl, hact⟩
  | advance span => cases List.mem_singleton.mp h
  | registry step => exact absurd h (not_mem_registryOperations step s)
  | _ => simp [performOperations] at h

/-- **A backend is told to refuse the next attempts only by a step that says so.** -/
theorem step_of_refuseNext_mem_acts {n : Nat}
    (h : .instruct b (.refuseNext n) ∈ acts script s) : .backend b (.refuseNext n) ∈ script := by
  induction script generalizing s with
  | nil => cases h
  | cons step script ih =>
    rcases List.mem_append.mp h with h | h
    · have hperform : ∃ s : Session,
          .outside (.instruct b (.refuseNext n)) ∈ s.performOperations step := by
        have hop := Fleet.mem_of_instruct_mem_actsOfAll h
        rw [operations] at hop
        cases hmentioned : mentioned step with
        | none =>
          rw [hmentioned] at hop
          exact ⟨s, hop⟩
        | some x =>
          rw [hmentioned] at hop
          refine ⟨s.withWorld (s.world.mention x), ?_⟩
          simpa using hop
      obtain ⟨_, hop⟩ := hperform
      obtain ⟨told, rfl, htold⟩ := step_of_mem_performOperations hop
      obtain rfl : told = .refuseNext n := by
        cases told <;> cases htold
        rfl
      exact List.mem_cons_self
    · exact List.mem_cons_of_mem step (ih h)

end Session

end ConnPool
