import ConnPool.Proofs.Fleet.Pruning
import ConnPool.Proofs.Simulation.Acts

/-!
# Operations on a fleet

An **operation** (`ConnPool.Fleet.Operation`) is what is to be done with a fleet: that a pool is to
answer a request, that a pool is to be built, that something is to be done to the world behind the
pools' backs. What an operation comes to depends on the fleet, and so do the acts it consists of
(`ConnPool.Fleet.actsOf`), which are those that the driver of the pool has written down.

The world of a fleet goes from act to act: all that operations make of it is what their acts, done
again, make of it (`ConnPool.Fleet.world_carryOutAll`). No pool tells a backend anything
(`ConnPool.Fleet.mem_of_instruct_mem_actsOfAll`).
-/

namespace ConnPool

namespace Fleet

open World (Act recorder projects_recorder follows_recorder)

/-- **An operation on a fleet.** -/
inductive Operation where
  /-- A pool is to answer a request. -/
  | serve (i : PoolId) (r : Request (Handle SimId))
  /-- A pool is to be built. -/
  | build (sharing : Sharing) (config : Config) (b : Nat) (clock : ClockKind)
  /-- A pool is to be shared in another way. -/
  | share (i : PoolId) (sharing : Sharing)
  /-- Something is to be done to the world. -/
  | outside (a : Act)

/-- Carries an operation out. -/
def carryOut (op : Operation) (f : Fleet) : Fleet :=
  match op with
  | .serve i r => (f.serve i r).2
  | .build sharing config b clock => (f.build sharing config b clock).2
  | .share i sharing => f.share i sharing
  | .outside a => { f with world := f.world.act a }

/-- **The acts an operation comes to**: those of the pool that answers or is built, as its driver
writes them down. -/
def actsOf (op : Operation) (f : Fleet) : List Act :=
  match op with
  | .serve i r =>
    match f.member? i with
    | none => []
    | some m => (m.pool.serve (recorder m.backend m.clock) r (f.world, [])).2.2.2
  | .build _ config b clock => (Pool.build (recorder b clock) config (f.world, [])).2.2
  | .share _ _ => []
  | .outside a => [a]

/-- Carries operations out, one after the other. -/
def carryOutAll (ops : List Operation) (f : Fleet) : Fleet :=
  ops.foldl (fun f op => f.carryOut op) f

/-- The acts that operations come to, one after the other. -/
def actsOfAll : List Operation → Fleet → List Act
  | [], _ => []
  | op :: ops, f => f.actsOf op ++ actsOfAll ops (f.carryOut op)

@[simp] theorem carryOutAll_nil (f : Fleet) : f.carryOutAll [] = f := rfl

@[simp] theorem carryOutAll_cons (op : Operation) (ops : List Operation) (f : Fleet) :
    f.carryOutAll (op :: ops) = (f.carryOut op).carryOutAll ops := rfl

/-! ### Acts and what they make of the world -/

variable {f : Fleet} {op : Operation} {ops : List Operation}

/-- What an operation makes of the world has been written down, and nobody has told a backend
anything if that was not the operation. -/
theorem records_carryOut (hop : ∀ a, op ≠ .outside a) (f : Fleet) :
    World.Records (f.world, []) ((f.carryOut op).world, f.actsOf op) := by
  cases op with
  | serve i r =>
    cases hm : f.member? i with
    | none =>
      simp only [carryOut, actsOf, serve_of_absent hm, hm]
      exact .refl _
    | some m =>
      have hsame := Pool.serve_project (projects_recorder m.backend m.clock) r m.pool (f.world, [])
      have hworld : (f.carryOut (.serve i r)).world =
          (m.pool.serve (recorder m.backend m.clock) r (f.world, [])).2.2.1 := by
        rw [carryOut, serve_of_member hm]
        exact congrArg (fun outcome => outcome.2.2) hsame
      simp only [actsOf, hm, hworld]
      exact Pool.serve_follows (follows_recorder m.backend m.clock) r m.pool (f.world, [])
  | build sharing config b clock =>
    have hsame := Pool.build_project (projects_recorder b clock) config (f.world, [])
    have hworld : (f.carryOut (.build sharing config b clock)).world =
        (Pool.build (recorder b clock) config (f.world, [])).2.1 := by
      rw [carryOut, world_build]
      exact congrArg Prod.snd hsame
    rw [actsOf, hworld]
    exact Pool.build_follows (follows_recorder b clock) config (f.world, [])
  | share i sharing => exact .refl _
  | outside a => exact absurd rfl (hop a)

theorem world_carryOut (op : Operation) (f : Fleet) :
    (f.carryOut op).world = f.world.replay (f.actsOf op) := by
  by_cases hop : ∃ a, op = .outside a
  · obtain ⟨a, rfl⟩ := hop
    rfl
  · obtain ⟨acts, hwritten, hdone, _⟩ := records_carryOut (fun a heq => hop ⟨a, heq⟩) f
    obtain rfl : f.actsOf op = acts := hwritten
    exact hdone

/-- **What operations make of the world is what their acts make of it.** -/
theorem world_carryOutAll (ops : List Operation) (f : Fleet) :
    (f.carryOutAll ops).world = f.world.replay (f.actsOfAll ops) := by
  induction ops generalizing f with
  | nil => rfl
  | cons op ops ih => rw [carryOutAll_cons, ih, world_carryOut, actsOfAll, World.replay_append]

/-- **A backend is told something only if that is an operation.** -/
theorem mem_of_instruct_mem_actsOfAll {b : Nat} {order : Order}
    (h : .instruct b order ∈ f.actsOfAll ops) : .outside (.instruct b order) ∈ ops := by
  induction ops generalizing f with
  | nil => cases h
  | cons op ops ih =>
    rcases List.mem_append.mp h with h | h
    · by_cases hop : ∃ a, op = .outside a
      · obtain ⟨a, rfl⟩ := hop
        obtain rfl := List.mem_singleton.mp h
        exact List.mem_cons_self
      · obtain ⟨acts, hwritten, _, hnone⟩ := records_carryOut (fun a heq => hop ⟨a, heq⟩) f
        obtain rfl : f.actsOf op = acts := hwritten
        exact absurd h (hnone b order)
    · exact List.mem_cons_of_mem op (ih h)

/-! ### Operations of one kind -/

/-- To do acts one after the other is an operation for each. -/
theorem carryOutAll_outside (acts : List Act) (f : Fleet) :
    f.carryOutAll (acts.map .outside) = { f with world := f.world.replay acts } := by
  induction acts generalizing f with
  | nil => rfl
  | cons a acts ih => exact ih (f.carryOut (.outside a))

/-- To prune pools one after the other is to have each answer that request. -/
theorem carryOutAll_prune (l : List PoolId) (f : Fleet) :
    f.carryOutAll (l.map fun i => .serve i .prune) = f.pruneEach l := by
  induction l generalizing f with
  | nil => rfl
  | cons i l ih =>
    rw [List.map_cons, carryOutAll_cons, ih, pruneEach_cons, prune_eq_serve]
    rfl

end Fleet

end ConnPool
