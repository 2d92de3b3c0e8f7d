import ConnPool.Proofs.Pool.Keys
import ConnPool.Proofs.Pool.Ownership

/-!
# Two tables in lockstep

The held table finds the connection of a key, and the table of borrowers finds the key of
a connection. One would like each to be the other, read backwards.

One half of this holds in every state a pool reaches: the key of every connection that
is held is remembered (`ConnPool.Pool.Consistent.remembered`). The other half,
`ConnPool.Pool.NoneForgotten`, says that no key is remembered for a connection that is not
held under it. It is lost as soon as an entry of the held table is overwritten, since
overwriting an entry there removes none from the table of borrowers. So it is proved for
polite borrowers, for whom the key of a new checkout is free
(`ConnPool.Pool.KeysIssued.chooseKey_free`).
-/

namespace ConnPool

namespace Pool

variable {W C ε : Type} {d : Driver W C ε}

/-- **No checkout is forgotten**: a key that is remembered for a connection holds it. -/
def NoneForgotten (p : Pool C) : Prop :=
  ∀ id k, p.borrower.get? id = some k → ∃ g, p.held.get? k = some g ∧ g.id = id

/-! ### Changes of the two tables -/

/-- A checkout under a free key overwrites none. -/
theorem NoneForgotten.checkOut {p : Pool C} (hp : p.NoneForgotten) {key : Option Key}
    (hfree : p.held.get? (p.chooseKey key).1 = none) (h : Handle C) :
    (p.checkOut key h).NoneForgotten := by
  intro id k hid
  rcases Table.get?_insert_eq_some_iff.mp hid with ⟨rfl, rfl⟩ | ⟨_, hid⟩
  · exact ⟨h, Table.get?_insert_eq_some_iff.mpr (Or.inl ⟨rfl, rfl⟩), rfl⟩
  · obtain ⟨g, hk, hg⟩ := hp id k hid
    have hne : k ≠ (p.chooseKey key).1 := by
      rintro rfl
      cases hfree.symm.trans hk
    exact ⟨g, Table.get?_insert_eq_some_iff.mpr (Or.inr ⟨hne, hk⟩), hg⟩

/-- The end of a checkout takes the entry of its key and the entry of its connection
away. -/
theorem NoneForgotten.checkIn [DecidableEq C] {p : Pool C} (hp : p.NoneForgotten)
    {h : Handle C} {key : Option Key} {k : Key} (hk : p.checkout? h key = some k) :
    (p.checkIn k h).NoneForgotten := by
  obtain ⟨_, g, hheld, hgid, _⟩ := checkout?_eq_some_iff.mp hk
  intro id l hid
  obtain ⟨hne, hid⟩ := Table.get?_erase_eq_some_iff.mp hid
  obtain ⟨g', hl, hg'⟩ := hp id l hid
  -- the key that goes holds the connection that goes, and this is another one
  have hlk : l ≠ k := by
    rintro rfl
    cases hheld.symm.trans hl
    exact hne (hg'.symm.trans hgid)
  exact ⟨g', Table.get?_erase_eq_some_iff.mpr ⟨hlk, hl⟩, hg'⟩

/-! ### Steps and runs -/

theorem Opens.noneForgotten {s s' : Pool C × W} (hstep : Opens d s s')
    (hp : s.1.NoneForgotten) : s'.1.NoneForgotten := by
  cases hstep with
  | failed _ _ _ => exact hp
  | added _ _ _ _ _ => exact hp

variable [DecidableEq C]

/-- **No step of a request forgets a checkout**, if no issued key is in use before it has
been issued. -/
theorem Move.noneForgotten {r : Request (Handle C)} {s s' : Pool C × W} (hstep : Move d r s s')
    (hissued : s.1.KeysIssued) (hp : s.1.NoneForgotten) : s'.1.NoneForgotten := by
  cases hstep with
  | discard _ hdrop =>
    cases hdrop with
    | mk _ _ _ => exact hp
  | @reuse _ p _ _ h rest _ _ hfree _ _ _ =>
    exact NoneForgotten.checkOut (p := p.unstack h rest) hp (hissued.chooseKey_free hfree) h
  | fail _ _ _ _ => exact hp
  | @lend _ p _ _ _ _ _ _ hfree _ _ _ _ =>
    exact NoneForgotten.checkOut (p := p.number) hp (hissued.chooseKey_free hfree) _
  | giveBack hk hs =>
    have hrest := hp.checkIn hk
    cases hs with
    | letGo _ => exact hrest
    | rejected _ _ _ => exact hrest
    | shelved _ _ _ _ => exact hrest
  | refill hopens => exact hopens.noneForgotten hp
  | look _ => exact hp
  | evict _ _ => exact hp
  | shut _ => exact hp
  | close => exact hp

variable {env : W → W → Prop} {config : Config} {w₀ : W} {hist : List (Moment W C)}

theorem Reached.noneForgotten {s : Pool C × W} (h : Reached d env config w₀ hist s)
    (hpolite : ∀ m ∈ hist, m.Polite) : s.1.NoneForgotten := by
  refine (h.invariant (I := fun s => s.1.KeysIssued ∧ s.1.NoneForgotten) ?_ ?_ ?_ ?_).2
  · intro _
    exact ⟨fun _ _ hn => (by cases hn), fun _ _ hid => (by cases hid)⟩
  · exact fun _ _ hstep ⟨hissued, hp⟩ => ⟨hstep.keysIssued hissued, hstep.noneForgotten hp⟩
  · exact fun _ _ _ _ hp => hp
  · rintro m hm ⟨hissued, hp⟩
    refine (serve_invariant (I := fun s => (s.1.KeysIssued ∧ m.request.Polite s.1) ∧
      s.1.NoneForgotten) ?_ ⟨⟨hissued, hpolite m hm⟩, hp⟩).imp_left And.left
    exact fun _ _ hstep ⟨hkeys, hp⟩ => ⟨hstep.keysIssued hkeys, hstep.noneForgotten hkeys.1 hp⟩

/-- **Among polite borrowers the two tables are inverse to each other.** A key is remembered
for a connection exactly if it holds it. Every issued key in use has been issued, and no
key is remembered for an idle connection. So a key is remembered for exactly the
connections that are checked out. -/
theorem remembered_iff_held {s : Pool C × W} (h : Reached d env config w₀ hist s)
    (hpolite : ∀ m ∈ hist, m.Polite) :
    (∀ id k, s.1.borrower.get? id = some k ↔ ∃ g, s.1.held.get? k = some g ∧ g.id = id) ∧
      (∀ n g, s.1.held.get? (.auto n) = some g → n < s.1.nextKey) ∧
      (∀ g ∈ s.1.idle, s.1.borrower.get? g.id = none) ∧
      ∀ id, (s.1.key? id).isSome ↔ ∃ g ∈ s.1.heldHandles, g.id = id := by
  have hp : s.1.Consistent := h.consistent
  have hnone : s.1.NoneForgotten := h.noneForgotten hpolite
  have hiff : ∀ id k, s.1.borrower.get? id = some k ↔
      ∃ g, s.1.held.get? k = some g ∧ g.id = id := by
    intro id k
    constructor
    · exact hnone id k
    · rintro ⟨g, hk, rfl⟩
      exact hp.remembered hk
  refine ⟨hiff, h.keysIssued hpolite, fun g hg => ?_, fun id => ?_⟩
  · -- a key for it would hold it, and what is held is not idle
    refine Option.eq_none_iff_forall_ne_some.mpr fun k hk => ?_
    obtain ⟨g', hheld, hid⟩ := hnone g.id k hk
    exact hp.apart hheld (hid ▸ List.mem_map_of_mem hg)
  · rw [key?, Option.isSome_iff_exists]
    constructor
    · rintro ⟨k, hk⟩
      obtain ⟨g, hheld, hid⟩ := (hiff id k).mp hk
      exact ⟨g, mem_heldHandles.mpr ⟨k, hheld⟩, hid⟩
    · rintro ⟨g, hg, hid⟩
      obtain ⟨k, hheld⟩ := mem_heldHandles.mp hg
      exact ⟨k, (hiff id k).mpr ⟨g, hheld, hid⟩⟩

/-- The key issued to a borrower without one is asked for again when its connection has
been handed back: it holds the connection of the second borrower and is remembered for
that alone. -/
theorem remembered_iff_held_reissued :
    ∃ hist s, Reached (World.driver 0 .manual) (fun _ _ => True)
        { minConnections := 0, maxConnections := 3 } {} hist s ∧
      (∀ m ∈ hist, m.Polite) ∧ s.1.key? 0 = some (.named "a") ∧ s.1.key? 1 = some (.auto 0) ∧
      ∀ id k, s.1.borrower.get? id = some k ↔ ∃ g, s.1.held.get? k = some g ∧ g.id = id := by
  have h : Reached (World.driver 0 .manual) (fun _ _ => True)
      { minConnections := 0, maxConnections := 3 } {} _ _ :=
    ⟨_, _, rfl, (((Run.start.serve (.acquire none)).serve
      (.release ⟨0, 0, Instant.start⟩ (some (.auto 0)) false)).serve
      (.acquire (some (.named "a")))).serve (.acquire (some (.auto 0)))⟩
  exact ⟨_, _, h, by decide, rfl, rfl, (remembered_iff_held h (by decide)).1⟩

end Pool

end ConnPool
