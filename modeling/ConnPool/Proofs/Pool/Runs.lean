import ConnPool.Proofs.Pool.Moves

/-!
# Runs

The life of a pool is a sequence of requests, each of which finds the pool as the one
before has left it – and the world as it happens to be. Connections break and finish
their transactions, factories start and stop failing, and clocks move, all of it while
the pool looks away. `ConnPool.Pool.Run` allows for that by a relation `env` on worlds,
which says what may happen between two requests; what holds of the runs under every
`env` holds whatever happens.

A run comes with its **history**, a list of `ConnPool.Pool.Moment`s of which the latest
is the first. A moment is a request together with the pool and the world it finds, so
the answer to it and everything it leads to can be computed from it.

`ConnPool.Pool.Reached` are the runs of a pool from the day it was built, and
`ConnPool.Pool.Reached.invariant` is how anything is proved about them.
-/

namespace ConnPool

/-- **A request is polite to a pool** if it does not ask for an issued key that has not
been issued yet. -/
def Request.Polite {C : Type} (r : Request (Handle C)) (p : Pool C) : Prop :=
  ∀ n, r = .acquire (some (.auto n)) → n < p.nextKey

instance Request.decidablePolite {C : Type} (r : Request (Handle C)) (p : Pool C) :
    Decidable (r.Polite p) :=
  match r with
  | .acquire (some (.auto n)) =>
    decidable_of_iff (n < p.nextKey) ⟨fun h m hm => by cases hm; exact h, fun h => h n rfl⟩
  | .acquire (some (.named _)) => isTrue fun _ h => by cases h
  | .acquire none => isTrue fun _ h => by cases h
  | .release _ _ _ => isTrue fun _ h => by cases h
  | .prune => isTrue fun _ h => by cases h
  | .closeAll => isTrue fun _ h => by cases h

namespace Pool

variable {W C ε : Type}

/-! ### Moments -/

/-- A moment of a run: a request, and the pool and the world it finds. -/
structure Moment (W C : Type) where
  pool : Pool C
  world : W
  request : Request (Handle C)

/-- A moment is polite if its request is. -/
def Moment.Polite (m : Moment W C) : Prop := m.request.Polite m.pool

instance (m : Moment W C) : Decidable m.Polite :=
  inferInstanceAs (Decidable (m.request.Polite m.pool))

variable [DecidableEq C]

/-- The pool and the world after a moment. -/
def Moment.after (d : Driver W C ε) (m : Moment W C) : Pool C × W :=
  (m.pool.serve d m.request m.world).2

/-! ### Runs and what they keep -/

/-- **The runs of a pool** from a state on, with their histories. Between two requests
the world changes as `env` allows. -/
inductive Run (d : Driver W C ε) (env : W → W → Prop) (s₀ : Pool C × W) :
    List (Moment W C) → Pool C × W → Prop
  /-- Nothing has happened yet. -/
  | start : Run d env s₀ [] s₀
  /-- The world changes on its own. -/
  | drift {hist : List (Moment W C)} {s : Pool C × W} {w : W} (hrun : Run d env s₀ hist s)
      (henv : env s.2 w) : Run d env s₀ hist (s.1, w)
  /-- A request is served. -/
  | serve {hist : List (Moment W C)} {s : Pool C × W} (hrun : Run d env s₀ hist s)
      (r : Request (Handle C)) : Run d env s₀ (⟨s.1, s.2, r⟩ :: hist) (s.1.serve d r s.2).2

/-- **The states a pool reaches** after it has been built with some settings in the
world `w₀`. -/
def Reached (d : Driver W C ε) (env : W → W → Prop) (config : Config) (w₀ : W)
    (hist : List (Moment W C)) (s : Pool C × W) : Prop :=
  ∃ p w, build d config w₀ = (.ok p, w) ∧ Run d env (p, w) hist s

variable {d : Driver W C ε} {env : W → W → Prop} {config : Config} {w₀ : W}
  {hist : List (Moment W C)} {s₀ s : Pool C × W}

/-- What the world on its own and every moment of a run keeps, the run keeps. -/
theorem Run.invariant {I : Pool C × W → Prop} (h : Run d env s₀ hist s)
    (henv : ∀ p w w', env w w' → I (p, w) → I (p, w'))
    (hserve : ∀ m ∈ hist, I (m.pool, m.world) → I (m.after d)) (h₀ : I s₀) : I s := by
  induction h with
  | start => exact h₀
  | drift _ hdrift ih => exact henv _ _ _ hdrift (ih hserve)
  | serve _ r ih =>
    exact hserve _ List.mem_cons_self (ih fun m hm => hserve m (List.mem_cons_of_mem _ hm))

/-- Every moment of a run finds the pool and the world in a state the run has reached. -/
theorem Run.of_mem (h : Run d env s₀ hist s) {m : Moment W C} (hm : m ∈ hist) :
    ∃ past, past ⊆ hist ∧ Run d env s₀ past (m.pool, m.world) := by
  induction h with
  | start => exact absurd hm List.not_mem_nil
  | drift _ _ ih => exact ih hm
  | serve hrun r ih =>
    rcases List.mem_cons.mp hm with rfl | hm
    · exact ⟨_, List.subset_cons_self _ _, hrun⟩
    · obtain ⟨past, hpast, hrun⟩ := ih hm
      exact ⟨past, List.subset_cons_of_subset _ hpast, hrun⟩

/-- A run can be taken further by another one. -/
theorem Run.append {between : List (Moment W C)} {t : Pool C × W} (h : Run d env s₀ hist s)
    (hrun : Run d env s between t) : Run d env s₀ (between ++ hist) t := by
  induction hrun with
  | start => exact h
  | drift _ hdrift ih => exact ih.drift hdrift
  | serve _ r ih => exact ih.serve r

/-- Wherever a run leads from a state that has been reached has been reached as well. -/
theorem Reached.append {between : List (Moment W C)} {t : Pool C × W}
    (h : Reached d env config w₀ hist s) (hrun : Run d env s between t) :
    Reached d env config w₀ (between ++ hist) t := by
  obtain ⟨p, w, hbuild, hpast⟩ := h
  exact ⟨p, w, hbuild, hpast.append hrun⟩

/-- So has the state in which a request leaves a pool. -/
theorem Reached.serve {p : Pool C} {w : W} (h : Reached d env config w₀ hist (p, w))
    (r : Request (Handle C)) : Reached d env config w₀ (⟨p, w, r⟩ :: hist) (p.serve d r w).2 :=
  h.append (Run.start.serve r)

/-- **What holds of the empty pool and is kept by every attempt to fill it up, by the
world on its own and by every moment, holds of every state that is reached.** -/
theorem Reached.invariant {I : Pool C × W → Prop} (h : Reached d env config w₀ hist s)
    (hfresh : config.Valid → I (fresh config, w₀))
    (hopens : ∀ s s', Opens d s s' → I s → I s')
    (henv : ∀ p w w', env w w' → I (p, w) → I (p, w'))
    (hserve : ∀ m ∈ hist, I (m.pool, m.world) → I (m.after d)) : I s := by
  obtain ⟨p, w, hbuild, hrun⟩ := h
  obtain ⟨hvalid, hfill⟩ := build_opens hbuild
  -- a run begins where the pool has been filled up for the first time
  exact hrun.invariant henv hserve (steps_invariant hopens hfill (hfresh hvalid))

/-- The same for a property of the pool alone, which the world cannot spoil. -/
theorem Reached.pool_invariant {P : Pool C → Prop} (h : Reached d env config w₀ hist s)
    (hfresh : config.Valid → P (fresh config))
    (hopens : ∀ s s', Opens d s s' → P s.1 → P s'.1)
    (hmove : ∀ r s s', Move d r s s' → P s.1 → P s'.1) : P s.1 :=
  h.invariant (I := fun s => P s.1) hfresh hopens (fun _ _ _ _ hp => hp)
    fun m _ hp => serve_invariant (I := fun s => P s.1) (hmove m.request) hp

end Pool

end ConnPool
