import ConnPool.Fleet
import ConnPool.Proofs.Pool.Closed
import ConnPool.Proofs.Simulation.Events

/-!
# Changes of a fleet

Whatever is done to a fleet comes down to four kinds of **changes**: one of its pools answers
a request, a pool is built, a pool is shared in another way, or something happens in the
world behind the pools' backs. `ConnPool.Fleet.Change` lists them; what may happen in the
world is a parameter.

Two things are carried along every sequence of changes. The world goes from one state to
another by steps that the pools' drivers make or that happen behind their backs, so any
relation that both follow is followed by the whole sequence
(`ConnPool.Fleet.changes_world`). And a pool that has been built stays in its place and,
once closed, stays closed (`ConnPool.Fleet.isClosed_of_changes`).
-/

namespace ConnPool

open Relation (ReflTransGen)

namespace Fleet

/-- **A change of a fleet.** -/
inductive Change (env : World → World → Prop) : Fleet → Fleet → Prop
  /-- A pool answers a request. -/
  | serve (i : PoolId) (r : Request (Handle SimId)) (f : Fleet) : Change env f (f.serve i r).2
  /-- A pool is built, or its settings are refused. -/
  | build (sharing : Sharing) (config : Config) (b : Nat) (clock : ClockKind) (f : Fleet) :
      Change env f (f.build sharing config b clock).2
  /-- A pool is shared in another way. -/
  | share (i : PoolId) (sharing : Sharing) (f : Fleet) : Change env f (f.share i sharing)
  /-- Something happens in the world. -/
  | drift (f : Fleet) {w : World} (h : env f.world w) : Change env f { f with world := w }

/-- Any number of changes, one after the other. -/
abbrev Changes (env : World → World → Prop) : Fleet → Fleet → Prop := ReflTransGen (Change env)

variable {env : World → World → Prop} {f f' : Fleet} {i : PoolId}

/-- What happens in the world may happen in many steps. -/
theorem changes_of_drift {w : World} (h : ReflTransGen env f.world w) :
    Changes env f { f with world := w } :=
  h.lift (fun w => { f with world := w }) fun v _ hstep => .drift { f with world := v } hstep

/-! ### The pools of a fleet -/

theorem isClosed_eq_true_iff :
    f.isClosed i = true ↔ ∃ m, f.member? i = some m ∧ m.pool.closed = true := by
  rw [isClosed, Option.any_eq_true]

/-- A pool that is there answers the request by itself. -/
theorem serve_of_member {m : Member} (hm : f.member? i = some m) (r : Request (Handle SimId)) :
    (f.serve i r).2 =
      { world := (m.pool.serve m.driver r f.world).2.2
        members := f.members.set i { m with pool := (m.pool.serve m.driver r f.world).2.1 } } := by
  rw [serve, act, hm]

/-- A pool that is not there does nothing. -/
theorem serve_of_absent (hm : f.member? i = none) (r : Request (Handle SimId)) :
    (f.serve i r).2 = f := by
  rw [serve, act, hm]

/-- To evict from a pool is to have it answer that request. -/
theorem prune_eq_serve (f : Fleet) (i : PoolId) : (f.prune i).2 = (f.serve i .prune).2 := by
  rw [prune, serve, act, act]
  cases f.member? i <;> rfl

/-- To close a pool is to have it answer that request. -/
theorem closeAll_eq_serve (f : Fleet) (i : PoolId) :
    (f.closeAll i).2 = (f.serve i .closeAll).2 := by
  rw [closeAll, serve, act, act]
  cases f.member? i <;> rfl

theorem changes_build {sharing : Sharing} {config : Config} {b : Nat} {clock : ClockKind}
    {result : Except (Refusal Fault) PoolId}
    (hbuild : f.build sharing config b clock = (result, f')) : Changes env f f' := by
  have hstep : Change env f (f.build sharing config b clock).2 := .build sharing config b clock f
  rw [hbuild] at hstep
  exact .single hstep

/-- A pool is built and added at the end, or the fleet has the pools it had. -/
theorem build_cases (sharing : Sharing) (config : Config) (b : Nat) (clock : ClockKind)
    (f : Fleet) :
    (∃ e, (f.build sharing config b clock).1 = .error e ∧
        (f.build sharing config b clock).2.members = f.members) ∨
      ∃ m, (f.build sharing config b clock).1 = .ok f.members.length ∧
        (f.build sharing config b clock).2.members = f.members ++ [m] := by
  rw [build]
  rcases Pool.build (World.driver b clock) config f.world with ⟨e | pool, w⟩
  · exact Or.inl ⟨e, rfl, rfl⟩
  · exact Or.inr ⟨_, rfl, rfl⟩

/-- What happens in the world when a pool is built is what the pool does. -/
theorem world_build (sharing : Sharing) (config : Config) (b : Nat) (clock : ClockKind)
    (f : Fleet) : (f.build sharing config b clock).2.world =
      (Pool.build (World.driver b clock) config f.world).2 := by
  rw [Fleet.build]
  split <;> rename_i hbuild <;> rw [hbuild]

/-! ### What changes carry along -/

/-- **A change follows a relation between worlds** that the drivers of all pools follow, and
whatever else happens in the world as well. -/
theorem Change.world {R : World → World → Prop}
    (hd : ∀ b clock, (World.driver b clock).Follows R) (henv : ∀ w w', env w w' → R w w')
    (h : Change env f f') : R f.world f'.world := by
  cases h with
  | serve i r =>
    cases hm : f.member? i with
    | none =>
      rw [serve_of_absent hm]
      exact (hd 0 .manual).refl f.world
    | some m =>
      rw [serve_of_member hm]
      exact Pool.serve_follows (hd m.backend m.clock) r m.pool f.world
  | build sharing config b clock =>
    rw [world_build]
    exact Pool.build_follows (hd b clock) config f.world
  | share => exact (hd 0 .manual).refl f.world
  | drift _ hw => exact henv _ _ hw

theorem changes_world {R : World → World → Prop}
    (hd : ∀ b clock, (World.driver b clock).Follows R) (henv : ∀ w w', env w w' → R w w')
    (h : Changes env f f') : R f.world f'.world := by
  induction h with
  | refl => exact (hd 0 .manual).refl f.world
  | tail _ hstep ih => exact (hd 0 .manual).trans ih (hstep.world hd henv)

/-- A pool stays in its place, and closed if it is closed. -/
theorem Change.member {m : Member} (h : Change env f f') (hm : f.member? i = some m) :
    ∃ m', f'.member? i = some m' ∧ (m.pool.closed = true → m'.pool.closed = true) := by
  cases h with
  | serve j r =>
    cases hj : f.member? j with
    | none =>
      rw [serve_of_absent hj]
      exact ⟨m, hm, id⟩
    | some n =>
      rw [serve_of_member hj]
      by_cases hij : j = i
      · subst hij
        obtain rfl : m = n := Option.some.inj (hm.symm.trans hj)
        obtain ⟨hlt, _⟩ := List.getElem?_eq_some_iff.mp hm
        refine ⟨_, List.getElem?_set_self hlt, fun hclosed => ?_⟩
        exact (Pool.dwindled_serve hclosed r f.world).closed
      · exact ⟨m, (List.getElem?_set_ne hij).trans hm, id⟩
  | build sharing config b clock =>
    refine ⟨m, ?_, id⟩
    rcases f.build_cases sharing config b clock with ⟨_, _, hmembers⟩ | ⟨_, _, hmembers⟩
    · rw [member?, hmembers]
      exact hm
    · obtain ⟨hlt, _⟩ := List.getElem?_eq_some_iff.mp hm
      rw [member?, hmembers, List.getElem?_append_left hlt]
      exact hm
  | share j sharing =>
    have hget : (f.share j sharing).member? i =
        some (if j = i then { m with sharing } else m) := by
      rw [member?, Fleet.share, List.getElem?_modify, ← member?, hm]
      rfl
    refine ⟨_, hget, fun hclosed => ?_⟩
    split <;> exact hclosed
  | drift => exact ⟨m, hm, id⟩

/-- **A pool that is closed stays closed**, whatever is done to the fleet. -/
theorem isClosed_of_changes (h : Changes env f f') (hclosed : f.isClosed i = true) :
    f'.isClosed i = true := by
  induction h with
  | refl => exact hclosed
  | tail _ hstep ih =>
    obtain ⟨m, hm, hpool⟩ := isClosed_eq_true_iff.mp ih
    obtain ⟨m', hm', hpool'⟩ := hstep.member hm
    exact isClosed_eq_true_iff.mpr ⟨m', hm', hpool' hpool⟩

/-- No pool ever leaves a fleet. -/
theorem length_le_of_changes (h : Changes env f f') : f.members.length ≤ f'.members.length := by
  induction h with
  | refl => exact Nat.le_refl _
  | @tail g g' _ hstep ih =>
    refine Nat.le_trans ih (Nat.le_of_not_lt fun hlt => ?_)
    -- otherwise the last pool of the longer fleet would be gone
    obtain ⟨_, hm', _⟩ := hstep.member (List.getElem?_eq_getElem hlt)
    obtain ⟨hlt', _⟩ := List.getElem?_eq_some_iff.mp hm'
    exact Nat.lt_irrefl _ hlt'

/-! ### Closing a pool -/

theorem changes_prune (f : Fleet) (i : PoolId) : Changes env f (f.prune i).2 := by
  rw [prune_eq_serve]
  exact .single (.serve i .prune f)

theorem changes_closeAll (f : Fleet) (i : PoolId) : Changes env f (f.closeAll i).2 := by
  rw [closeAll_eq_serve]
  exact .single (.serve i .closeAll f)

/-- **A pool that is told to close is closed.** -/
theorem isClosed_closeAll (hi : i < f.members.length) : (f.closeAll i).2.isClosed i = true := by
  rw [closeAll_eq_serve, serve_of_member (List.getElem?_eq_getElem hi)]
  exact isClosed_eq_true_iff.mpr ⟨_, List.getElem?_set_self hi, rfl⟩

end Fleet

end ConnPool
