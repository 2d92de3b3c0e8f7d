import ConnPool.Proofs.Fleet

/-!
# What closes a pool

A pool is closed by being told to, and by nothing else. Its own borrowers, the other pools of its
fleet and whatever happens in their world leave it open. `ConnPool.Pool.closed_serve` says so of
one pool and `ConnPool.Fleet.isClosed_serve` of the pools of a fleet.
-/

namespace ConnPool

namespace Pool

variable {W C ε : Type} {d : Driver W C ε} [DecidableEq C] {r : Request (Handle C)}

omit [DecidableEq C] in
theorem Opens.closed_eq {s s' : Pool C × W} (hstep : Opens d s s') :
    s'.1.closed = s.1.closed := by
  cases hstep <;> rfl

/-- No step of another request closes a pool. -/
theorem Move.closed_eq {s s' : Pool C × W} (hstep : Move d r s s') (hr : r ≠ .closeAll) :
    s'.1.closed = s.1.closed := by
  cases hstep with
  | discard _ hdrop => exact drops_closed (.single hdrop)
  | reuse _ _ _ _ _ => rfl
  | fail _ _ _ _ => rfl
  | lend _ _ _ _ _ _ => rfl
  | giveBack _ hs => exact hs.closed_eq
  | refill hopens => exact hopens.closed_eq
  | look _ => rfl
  | evict _ _ => rfl
  | shut _ => exact absurd rfl hr
  | close => exact absurd rfl hr

/-- **After a request a pool is closed** if it was closed before or has been told to close. -/
theorem closed_serve (d : Driver W C ε) (r : Request (Handle C)) (p : Pool C) (w : W) :
    (p.serve d r w).2.1.closed = true ↔ p.closed = true ∨ r = .closeAll := by
  by_cases hr : r = .closeAll
  · subst hr
    exact iff_of_true rfl (Or.inr rfl)
  · have hsame : (p.serve d r w).2.1.closed = p.closed :=
      serve_invariant (I := fun s => s.1.closed = p.closed)
        (fun _ _ hstep hs => (hstep.closed_eq hr).trans hs) rfl
    rw [hsame, or_iff_left hr]

omit [DecidableEq C] in
/-- Filling a pool up leaves it open. -/
theorem closed_of_opens {s s' : Pool C × W} (h : Relation.ReflTransGen (Opens d) s s')
    (hopen : s.1.closed = false) : s'.1.closed = false :=
  steps_invariant (I := fun s => s.1.closed = false)
    (fun _ _ hstep hs => hstep.closed_eq.trans hs) h hopen

end Pool

namespace Fleet

variable {f : Fleet} {i j : PoolId}

/-- A pool that is not there is not closed. -/
theorem lt_of_isClosed (h : f.isClosed j = true) : j < f.members.length := by
  obtain ⟨_, hm, _⟩ := isClosed_eq_true_iff.mp h
  exact (List.getElem?_eq_some_iff.mp hm).1

/-- **After a request a pool of a fleet is closed** if it was closed before, or the request was for
it to close. -/
theorem isClosed_serve (i : PoolId) (r : Request (Handle SimId)) (f : Fleet) (j : PoolId) :
    (f.serve i r).2.isClosed j = true ↔
      f.isClosed j = true ∨ (j = i ∧ r = .closeAll ∧ j < f.members.length) := by
  cases hm : f.member? i with
  | none =>
    rw [serve_of_absent hm, or_iff_left]
    rintro ⟨rfl, _, hlt⟩
    exact absurd hlt (Nat.not_lt.mpr (List.getElem?_eq_none_iff.mp hm))
  | some m =>
    obtain ⟨hlt, _⟩ := List.getElem?_eq_some_iff.mp hm
    rw [serve_of_member hm, isClosed, isClosed, member?, member?, List.getElem?_set]
    by_cases hij : i = j
    · subst hij
      rw [if_pos rfl, if_pos hlt, ← member?, hm, Option.any_some, Option.any_some,
        Pool.closed_serve]
      simp [hlt]
    · rw [if_neg hij, or_iff_left]
      exact fun h => hij h.1.symm

/-- No pool is closed by building one or sharing one in another way. -/
theorem isClosed_build (sharing : Sharing) (config : Config) (b : Nat) (clock : ClockKind)
    (f : Fleet) (j : PoolId) : (f.build sharing config b clock).2.isClosed j = f.isClosed j := by
  rw [Fleet.build]
  rcases hbuild : Pool.build (World.driver b clock) config f.world with ⟨e | p, w⟩
  · rfl
  · have hopen : p.closed = false := Pool.closed_of_opens (Pool.build_opens hbuild).2 rfl
    rw [isClosed, isClosed, member?, member?, List.getElem?_append]
    split
    · rfl
    · rename_i hle
      rw [List.getElem?_eq_none (Nat.le_of_not_lt hle), List.getElem?_singleton]
      split
      · exact hopen
      · rfl

theorem isClosed_share (i : PoolId) (sharing : Sharing) (f : Fleet) (j : PoolId) :
    (f.share i sharing).isClosed j = f.isClosed j := by
  rw [isClosed, isClosed, member?, member?, share, List.getElem?_modify]
  cases f.members[j]? with
  | none => rfl
  | some m =>
    simp only [Option.map_eq_map, Option.map_some, Option.any_some]
    split <;> rfl

end Fleet

end ConnPool
