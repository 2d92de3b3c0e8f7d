import ConnPool.Proofs.Pool.Keys
import ConnPool.Proofs.Pool.Ownership
import ConnPool.Simulation.World

/-!
# Checkouts and their history

A checkout is **outstanding** if some acquire has handed its connection out and no
release has ended it since (`ConnPool.Pool.Outstanding`). That is a statement about the
history of a pool; whether a connection is held is one about its present state. One would
like the held table to be just the set of outstanding checkouts.

It is, as long as nobody is served under a key that is in use. A borrower that names a
key is never: it gets the connection that is held under it. But the key the pool issues
to a borrower without one is the next number, and nothing keeps another borrower from
having asked for that very key before. The entry of that borrower is then overwritten
(`ConnPool.Pool.Moment.Overwrites`), and its connection is lost to the pool: it is not
idle, it can no longer be handed back, and closing the pool does not close it.

There is no other way to lose a checkout. `ConnPool.Pool.Accounted` is what every moment
keeps: whatever is held is outstanding, whatever is outstanding is held or loose, and
there is something outstanding and loose exactly if an entry has been overwritten.
-/

namespace ConnPool

namespace Pool

variable {W C ε : Type} {d : Driver W C ε} [DecidableEq C] {env : W → W → Prop}
  {config : Config} {w₀ : W} {hist : List (Moment W C)}

/-! ### Outstanding checkouts -/

/-- **A moment lends a connection** to the borrower with a key: an acquire succeeds. -/
def Moment.Lends (d : Driver W C ε) (m : Moment W C) (k : Key) (h : Handle C) : Prop :=
  ∃ key, m.request = .acquire key ∧ (m.pool.chooseKey key).1 = k ∧
    (m.pool.acquire d key m.world).1 = .ok h

/-- **A moment ends the checkout of a connection**: a release of it takes effect. -/
def Moment.Ends (m : Moment W C) (h : Handle C) : Prop :=
  ∃ g key force, m.request = .release g key force ∧ (m.pool.checkout? g key).isSome ∧
    g.isSame h = true

/-- **A checkout is outstanding**: it has been made at some moment, and none of the moments
since then has ended it. -/
def Outstanding (d : Driver W C ε) (hist : List (Moment W C)) (k : Key) (h : Handle C) : Prop :=
  ∃ since m before, hist = since ++ m :: before ∧ m.Lends d k h ∧ ∀ m' ∈ since, ¬m'.Ends h

/-- **A moment overwrites a checkout**: a borrower without a key is served under the next
key to issue, and that is in use. -/
def Moment.Overwrites (d : Driver W C ε) (m : Moment W C) : Prop :=
  m.request = .acquire none ∧ (∃ g, (m.pool.acquire d none m.world).1 = .ok g) ∧
    ∃ h, m.pool.held.get? (.auto m.pool.nextKey) = some h

/-- Only a release ends anything. -/
theorem Moment.not_ends {m : Moment W C}
    (hm : ∀ g key force, m.request ≠ .release g key force) (h : Handle C) : ¬m.Ends h := by
  rintro ⟨g, key, force, hrelease, _⟩
  exact hm g key force hrelease

theorem Moment.Lends.not_ends {m : Moment W C} {k : Key} {h : Handle C}
    (hm : m.Lends d k h) (g : Handle C) : ¬m.Ends g := by
  obtain ⟨_, hacquire, _⟩ := hm
  refine Moment.not_ends (fun _ _ _ hrelease => ?_) g
  cases hacquire.symm.trans hrelease

@[simp] theorem not_outstanding_nil (k : Key) (h : Handle C) : ¬Outstanding d [] k h := by
  rintro ⟨since, m, before, hnil, _⟩
  exact List.append_ne_nil_of_right_ne_nil since (List.cons_ne_nil m before) hnil.symm

/-- A checkout is outstanding if it has just been made, or was outstanding before and has
not just been ended. -/
theorem outstanding_cons {m : Moment W C} {k : Key} {h : Handle C} :
    Outstanding d (m :: hist) k h ↔
      m.Lends d k h ∨ (Outstanding d hist k h ∧ ¬m.Ends h) := by
  constructor
  · rintro ⟨since, m', before, hsplit, hlends, hsince⟩
    rcases List.cons_eq_append_iff.mp hsplit with ⟨rfl, hhead⟩ | ⟨rest, rfl, hrest⟩
    · cases hhead
      exact Or.inl hlends
    · exact Or.inr ⟨⟨rest, m', before, hrest, hlends, fun m hm =>
        hsince m (List.mem_cons_of_mem _ hm)⟩, hsince m List.mem_cons_self⟩
  · rintro (hlends | ⟨⟨since, m', before, rfl, hlends, hsince⟩, hm⟩)
    · exact ⟨[], m, hist, rfl, hlends, fun _ hm => absurd hm List.not_mem_nil⟩
    · refine ⟨m :: since, m', before, rfl, hlends, fun m'' hm'' => ?_⟩
      rcases List.mem_cons.mp hm'' with rfl | hm''
      · exact hm
      · exact hsince m'' hm''

/-! ### What requests do to the held table -/

omit [DecidableEq C] in
/-- An acquire that succeeds enters the connection it hands out, and nothing else. -/
theorem get?_held_acquire {p : Pool C} {key : Option Key} {w : W} {g : Handle C}
    (hg : (p.acquire d key w).1 = .ok g) (l : Key) :
    (p.acquire d key w).2.1.held.get? l =
      if l = (p.chooseKey key).1 then some g else p.held.get? l := by
  rcases acquire_cases hg with ⟨hheld, hsame⟩ | ⟨_, q, hq, hheld, hnext, _⟩
  · obtain ⟨k, rfl, hk⟩ := Option.bind_eq_some_iff.mp hheld
    rw [hsame, chooseKey_some]
    by_cases hl : l = k
    · rw [if_pos hl, hl, hk]
    · rw [if_neg hl]
  · rw [hq, ← hheld, ← chooseKey_congr hnext]
    exact Table.get?_insert _ _ _ l

omit [DecidableEq C] in
/-- An acquire that fails touches nobody's checkout. -/
theorem held_acquire_of_error {p : Pool C} {key : Option Key} {w : W} {e : Refusal ε}
    (he : (p.acquire d key w).1 = .error e) : (p.acquire d key w).2.1.held = p.held := by
  have hend := acquired d key p w
  generalize p.acquire d key w = result at hend he ⊢
  cases hend with
  | closed _ => rfl
  | served _ _ => rfl
  | reused _ _ _ _ _ _ => cases he
  | exhausted _ _ hdrops _ _ => exact drops_held hdrops
  | failed _ _ hdrops _ _ _ => exact drops_held hdrops
  | opened _ _ _ _ _ _ _ => cases he

/-- A release that takes effect ends one checkout. -/
theorem held_release {p : Pool C} {h : Handle C} {key : Option Key} {k : Key}
    (hk : p.checkout? h key = some k) (force : Bool) (w : W) :
    (p.release d h key force w).2.1.held = p.held.erase k := by
  have hend := released d h key force p w
  generalize p.release d h key force w = result at hend ⊢
  cases hend with
  | unknown hnone => cases hnone.symm.trans hk
  | late hk' hs _ =>
    cases hk.symm.trans hk'
    exact hs.held_eq
  | ended hk' hs hopen =>
    cases hk.symm.trans hk'
    exact (opens_held_eq (refill_opens d (hs.closed_eq.trans hopen))).trans hs.held_eq

/-- One that does not changes nothing at all. -/
theorem release_of_none {p : Pool C} {h : Handle C} {key : Option Key}
    (hk : p.checkout? h key = none) (force : Bool) (w : W) :
    (p.release d h key force w).2 = (p, w) := by
  simp only [release, hk]

/-- On an open pool exactly the releases that take effect are accepted. -/
theorem release_eq_ok_iff {p : Pool C} {h : Handle C} {key : Option Key} {force : Bool} {w : W}
    (hopen : p.closed = false) :
    (p.release d h key force w).1 = .ok () ↔ (p.checkout? h key).isSome := by
  have hend := released d h key force p w
  generalize p.release d h key force w = result at hend ⊢
  cases hend with
  | unknown hnone => simp [hnone, hopen]
  | late hk _ _ => simp [hk]
  | ended hk _ _ => simp [hk]

omit [DecidableEq C] in
theorem held_prune (d : Driver W C ε) (p : Pool C) (w : W) : (p.prune d w).2.1.held = p.held := by
  unfold prune
  split <;> rfl

omit [DecidableEq C] in
theorem held_closeAll (d : Driver W C ε) (p : Pool C) (w : W) :
    (p.closeAll d w).2.1.held = p.held := rfl

/-! ### What a moment does to a checkout -/

/-- A connection that has been lent is held. -/
theorem Moment.Lends.held {m : Moment W C} {k : Key} {h : Handle C} (hm : m.Lends d k h) :
    (m.after d).1.held.get? k = some h := by
  obtain ⟨key, hrequest, rfl, hok⟩ := hm
  rw [Moment.after, hrequest]
  exact (get?_held_acquire hok _).trans (if_pos rfl)

/-- **What a moment does to the held table.** It enters a checkout, or ends one, or leaves
the table alone. -/
theorem Moment.held_after (d : Driver W C ε) (m : Moment W C) :
    (∃ k g, m.Lends d k g ∧
        ∀ l, (m.after d).1.held.get? l = if l = k then some g else m.pool.held.get? l) ∨
      (∃ k g, m.pool.held.get? k = some g ∧ (∀ h, m.Ends h ↔ g.isSame h = true) ∧
        (m.after d).1.held = m.pool.held.erase k) ∨
      ((∀ h, ¬m.Ends h) ∧ (m.after d).1.held = m.pool.held) := by
  obtain ⟨p, w, r⟩ := m
  cases r with
  | acquire key =>
    cases hresult : (p.acquire d key w).1 with
    | error e =>
      exact Or.inr (Or.inr ⟨Moment.not_ends (fun _ _ _ h => by cases h),
        held_acquire_of_error hresult⟩)
    | ok g => exact Or.inl ⟨_, g, ⟨key, rfl, rfl, hresult⟩, get?_held_acquire hresult⟩
  | release f key force =>
    cases hk : p.checkout? f key with
    | none =>
      have hsame := release_of_none (d := d) hk force w
      refine Or.inr (Or.inr ⟨?_, congrArg (fun s => s.1.held) hsame⟩)
      rintro h ⟨_, _, _, hrelease, hsome, _⟩
      cases hrelease
      exact absurd hk (Option.isSome_iff_ne_none.mp hsome)
    | some k =>
      obtain ⟨_, g, hheld, hid, hconn⟩ := checkout?_eq_some_iff.mp hk
      refine Or.inr (Or.inl ⟨k, g, hheld, fun h => ?_, held_release hk force w⟩)
      rw [Handle.isSame_iff, hid, hconn]
      constructor
      · rintro ⟨_, _, _, hrelease, _, hsame⟩
        cases hrelease
        exact Handle.isSame_iff.mp hsame
      · exact fun hsame => ⟨f, key, force, rfl, hk ▸ rfl, Handle.isSame_iff.mpr hsame⟩
  | prune =>
    exact Or.inr (Or.inr ⟨Moment.not_ends (fun _ _ _ h => by cases h), held_prune d p w⟩)
  | closeAll =>
    exact Or.inr (Or.inr ⟨Moment.not_ends (fun _ _ _ h => by cases h), held_closeAll d p w⟩)

omit [DecidableEq C] in
/-- Handing a connection out under a key that is in use lets the connection loose that was
held under it. -/
theorem Consistent.loose_of_checkOut {p : Pool C} (hp : p.Consistent) {key : Option Key}
    {g h : Handle C} (hg : p.Loose g.id) (hk : p.held.get? (p.chooseKey key).1 = some h) :
    (p.checkOut key g).Loose h.id := by
  refine ⟨hp.held_lt hk, hp.apart hk, fun hl => ?_⟩
  rcases Table.get?_insert_eq_some_iff.mp hl with ⟨_, rfl⟩ | ⟨hne, hl⟩
  · exact (hg.not_held hk).symm
  · exact fun hid => hne (hp.held_inj hl hk hid)

omit [DecidableEq C] in
theorem Consistent.loose_of_acquire {p : Pool C} (hp : p.Consistent) {w : W} {g h : Handle C}
    (hg : (p.acquire d none w).1 = .ok g) (hk : p.held.get? (.auto p.nextKey) = some h) :
    (p.acquire d none w).2.1.Loose h.id := by
  rcases acquire_cases hg with ⟨hheld, _⟩ | ⟨_, q, hq, hheld, hnext, hcons⟩
  · cases hheld
  · obtain ⟨hqc, hl⟩ := hcons hp
    rw [hq]
    refine hqc.loose_of_checkOut hl ?_
    rw [hheld, chooseKey_none, hnext]
    exact hk

omit [DecidableEq C] in
/-- A borrower whose key is served already gets what it has. -/
theorem acquire_of_held {p : Pool C} {k : Key} {w : W} {g h : Handle C}
    (hg : (p.acquire d (some k) w).1 = .ok g) (hk : p.held.get? k = some h) : h = g := by
  rcases acquire_cases hg with ⟨hheld, _⟩ | ⟨hfree, _⟩
  · exact Option.some.inj (hk.symm.trans hheld)
  · cases hfree.symm.trans hk

variable {m : Moment W C} {k : Key} {h : Handle C}

/-- A connection that is held has just been lent, or has been held before and its checkout
has not just been ended. -/
theorem Moment.lends_or_held (hp : m.pool.Consistent)
    (hk : (m.after d).1.held.get? k = some h) :
    m.Lends d k h ∨ (m.pool.held.get? k = some h ∧ ¬m.Ends h) := by
  rcases m.held_after d with ⟨l, g, hlends, hheld⟩ | ⟨l, g, hl, hends, hheld⟩ | ⟨hends, hheld⟩
  · rw [hheld] at hk
    by_cases hkl : k = l
    · rw [if_pos hkl] at hk
      cases hk
      exact Or.inl (hkl ▸ hlends)
    · rw [if_neg hkl] at hk
      exact Or.inr ⟨hk, hlends.not_ends h⟩
  · rw [hheld] at hk
    obtain ⟨hne, hk⟩ := Table.get?_erase_eq_some_iff.mp hk
    refine Or.inr ⟨hk, fun hh => hne (hp.held_inj hk hl ?_)⟩
    exact (Handle.isSame_iff.mp ((hends h).mp hh)).1.symm
  · exact Or.inr ⟨hheld ▸ hk, hends h⟩

/-- **A checkout is kept, or ended, or overwritten** – and if it is overwritten, its
connection is loose. -/
theorem Moment.held_or_overwrites (hp : m.pool.Consistent) (hk : m.pool.held.get? k = some h)
    (hm : ¬m.Ends h) :
    (m.after d).1.held.get? k = some h ∨ (m.Overwrites d ∧ (m.after d).1.Loose h.id) := by
  rcases m.held_after d with ⟨l, g, hlends, hheld⟩ | ⟨l, g, hl, hends, hheld⟩ | ⟨_, hheld⟩
  · by_cases hkl : k = l
    · obtain ⟨key, hrequest, rfl, hg⟩ := hlends
      cases key with
      | none =>
        subst hkl
        refine Or.inr ⟨⟨hrequest, ⟨g, hg⟩, h, hk⟩, ?_⟩
        rw [Moment.after, hrequest]
        exact hp.loose_of_acquire hg hk
      | some l =>
        -- a key that is named and held is answered with what it holds
        cases hkl
        rw [hheld, acquire_of_held hg hk]
        exact Or.inl (if_pos rfl)
    · rw [hheld, if_neg hkl]
      exact Or.inl hk
  · refine Or.inl ?_
    rw [hheld]
    refine Table.get?_erase_eq_some_iff.mpr ⟨?_, hk⟩
    rintro rfl
    cases hk.symm.trans hl
    exact hm ((hends h).mpr (Handle.isSame_iff.mpr ⟨rfl, rfl⟩))
  · exact Or.inl (hheld ▸ hk)

/-- A checkout that is overwritten was held, and its connection is loose. -/
theorem Moment.Overwrites.exists_loose (hp : m.pool.Consistent) (hm : m.Overwrites d) :
    ∃ k h, m.pool.held.get? k = some h ∧ ¬m.Ends h ∧ (m.after d).1.Loose h.id := by
  obtain ⟨hrequest, ⟨g, hg⟩, h, hk⟩ := hm
  refine ⟨_, h, hk, Moment.Lends.not_ends ⟨none, hrequest, rfl, hg⟩ h, ?_⟩
  rw [Moment.after, hrequest]
  exact hp.loose_of_acquire hg hk

/-- A release of a loose connection has no effect. -/
theorem Loose.not_ends (hl : m.pool.Loose h.id) : ¬m.Ends h := by
  rintro ⟨g, key, _, _, hsome, hsame⟩
  have hid : h.id = g.id := (Handle.isSame_iff.mp hsame).1.symm
  exact absurd ((hid ▸ hl).checkout?_eq_none key) (Option.isSome_iff_ne_none.mp hsome)

/-! ### Every checkout is accounted for -/

/-- **The checkouts of a history are accounted for.** -/
structure Accounted (d : Driver W C ε) (hist : List (Moment W C)) (p : Pool C) : Prop where
  /-- Whatever is held is outstanding. -/
  outstanding : ∀ {k : Key} {h : Handle C}, p.held.get? k = some h → Outstanding d hist k h
  /-- Whatever is outstanding is held or loose. -/
  held_or_loose : ∀ {k : Key} {h : Handle C}, Outstanding d hist k h →
    p.held.get? k = some h ∨ p.Loose h.id
  /-- Something outstanding is loose exactly if a checkout has been overwritten. -/
  loose_iff : (∃ k h, Outstanding d hist k h ∧ p.Loose h.id) ↔ ∃ m ∈ hist, m.Overwrites d

/-- **A moment keeps the checkouts accounted for.** -/
theorem Accounted.after (ha : Accounted d hist m.pool) (hp : m.pool.Consistent) :
    Accounted d (m :: hist) (m.after d).1 where
  outstanding hk :=
    outstanding_cons.mpr <| (Moment.lends_or_held hp hk).imp_right fun ⟨hk, hm⟩ =>
      ⟨ha.outstanding hk, hm⟩
  held_or_loose hout := by
    rcases outstanding_cons.mp hout with hlends | ⟨hout, hm⟩
    · exact Or.inl hlends.held
    · rcases ha.held_or_loose hout with hk | hl
      · exact (Moment.held_or_overwrites hp hk hm).imp_right And.right
      · exact Or.inr (hl.serve m.request m.world)
  loose_iff := by
    constructor
    -- a checkout that is loose now was loose before, or has just been overwritten
    · rintro ⟨k, h, hout, hl⟩
      rcases outstanding_cons.mp hout with hlends | ⟨hout, hm⟩
      · exact absurd rfl (hl.not_held hlends.held)
      · rcases ha.held_or_loose hout with hk | hl'
        · rcases Moment.held_or_overwrites (d := d) hp hk hm with hk | ⟨hover, _⟩
          · exact absurd rfl (hl.not_held hk)
          · exact ⟨m, List.mem_cons_self, hover⟩
        · obtain ⟨m', hm', hover⟩ := ha.loose_iff.mp ⟨k, h, hout, hl'⟩
          exact ⟨m', List.mem_cons_of_mem _ hm', hover⟩
    -- and one that has been overwritten stays loose, and outstanding
    · rintro ⟨m', hm', hover⟩
      rcases List.mem_cons.mp hm' with rfl | hm'
      · obtain ⟨k, h, hk, hm, hl⟩ := hover.exists_loose hp
        exact ⟨k, h, outstanding_cons.mpr (Or.inr ⟨ha.outstanding hk, hm⟩), hl⟩
      · obtain ⟨k, h, hout, hl⟩ := ha.loose_iff.mpr ⟨m', hm', hover⟩
        exact ⟨k, h, outstanding_cons.mpr (Or.inr ⟨hout, hl.not_ends⟩),
          hl.serve m.request m.world⟩

/-- **In every state a pool reaches, its checkouts are accounted for.** -/
theorem Reached.accounted {s : Pool C × W} (h : Reached d env config w₀ hist s) :
    Accounted d hist s.1 := by
  obtain ⟨p, w, hbuild, hrun⟩ := h
  induction hrun with
  | start =>
    have hheld : p.held = ∅ := opens_held_eq (build_opens hbuild).2
    refine ⟨fun hk => ?_, fun hout => absurd hout (not_outstanding_nil _ _), ?_⟩
    · rw [hheld] at hk
      cases hk
    · constructor
      · rintro ⟨k, h, hout, _⟩
        exact absurd hout (not_outstanding_nil k h)
      · rintro ⟨m, hm, _⟩
        exact absurd hm List.not_mem_nil
  | drift _ _ ih => exact ih
  | serve hrun r ih => exact Accounted.after ih (Reached.consistent ⟨p, w, hbuild, hrun⟩)

/-! ### What becomes of outstanding checkouts -/

/-- The connections that closing a pool closes, in that order. -/
def toClose (p : Pool C) : List (Handle C) := p.idleHandles ++ p.heldHandles

/-- **An outstanding checkout can be ended, and its connection closed with the pool, as
long as it is held.** -/
theorem Outstanding.in_reach {p : Pool C} (hp : p.Consistent) (ha : Accounted d hist p)
    (hout : Outstanding d hist k h) :
    (h ∈ p.toClose ↔ p.held.get? k = some h) ∧
      ∀ key ∈ [none, some k], (p.checkout? h key).isSome ↔ p.held.get? k = some h := by
  rcases ha.held_or_loose hout with hk | hl
  · have hmem : h ∈ p.toClose := List.mem_append_right _ (mem_heldHandles.mpr ⟨k, hk⟩)
    refine ⟨iff_of_true hmem hk, fun key hkey => iff_of_true ?_ hk⟩
    have hchecked : p.checkout? h key = some k := by
      refine checkout?_eq_some_iff.mpr ⟨?_, h, hk, rfl, rfl⟩
      rcases List.mem_cons.mp hkey with rfl | hkey
      · exact hp.remembered hk
      · cases List.mem_singleton.mp hkey
        rfl
    exact hchecked ▸ rfl
  · have hnot : p.held.get? k ≠ some h := fun hk => hl.not_held hk rfl
    refine ⟨iff_of_false (fun hmem => ?_) hnot, fun key _ => iff_of_false ?_ hnot⟩
    · rcases List.mem_append.mp hmem with hidle | hheld
      · exact hl.not_idle (List.mem_map_of_mem (List.mem_reverse.mp hidle))
      · obtain ⟨l, hl'⟩ := mem_heldHandles.mp hheld
        exact hl.not_held hl' rfl
    · rw [hl.checkout?_eq_none]
      exact Bool.false_ne_true

omit [DecidableEq C] in
theorem KeysIssued.not_overwrites (hp : m.pool.KeysIssued) : ¬m.Overwrites d := by
  rintro ⟨_, _, h, hk⟩
  exact Nat.lt_irrefl _ (hp _ h hk)

/-- **Exactly the checkouts that nobody has overwritten are held.** Every connection that
is held belongs to an outstanding checkout. The converse holds exactly if no borrower
without a key has ever been served under a key that was in use, which polite borrowers
never bring about. And it is worth having: an outstanding checkout can be ended on an open
pool, and its connection is closed with the pool, exactly if it is held. -/
theorem checkouts_held_iff {p : Pool C} {w : W} (h : Reached d env config w₀ hist (p, w)) :
    (∀ k g, p.held.get? k = some g → Outstanding d hist k g) ∧
      ((∀ k g, Outstanding d hist k g → p.held.get? k = some g) ↔
        ∀ m ∈ hist, ¬m.Overwrites d) ∧
      (∀ k g, Outstanding d hist k g →
        (g ∈ p.toClose ↔ p.held.get? k = some g) ∧
          (p.closed = false → ∀ key ∈ [none, some k], ∀ force v,
            (p.release d g key force v).1 = .ok () ↔ p.held.get? k = some g)) ∧
      ((∀ m ∈ hist, m.Polite) → ∀ m ∈ hist, ¬m.Overwrites d) := by
  have hp : p.Consistent := h.consistent
  have ha : Accounted d hist p := h.accounted
  refine ⟨fun k g hk => ha.outstanding hk, ⟨fun hall m hm hover => ?_, fun hnone k g hout => ?_⟩,
    fun k g hout => ?_, fun hpolite m hm => ?_⟩
  · obtain ⟨k, g, hout, hl⟩ := ha.loose_iff.mpr ⟨m, hm, hover⟩
    exact hl.not_held (hall k g hout) rfl
  · refine (ha.held_or_loose hout).resolve_right fun hl => ?_
    obtain ⟨m, hm, hover⟩ := ha.loose_iff.mp ⟨k, g, hout, hl⟩
    exact hnone m hm hover
  · obtain ⟨hclose, hchecked⟩ := hout.in_reach hp ha
    exact ⟨hclose, fun hopen key hkey force v =>
      (release_eq_ok_iff hopen).trans (hchecked key hkey)⟩
  · -- every moment finds a pool that polite borrowers alone have used
    obtain ⟨q, v, hbuild, hrun⟩ := h
    obtain ⟨past, hpast, hrun⟩ := hrun.of_mem hm
    have hissued := Reached.keysIssued ⟨q, v, hbuild, hrun⟩ fun m hm => hpolite m (hpast hm)
    exact KeysIssued.not_overwrites hissued

/-- Two borrowers, one with a name and one without a key: what is held is what they
have. -/
theorem checkouts_held_iff_polite :
    ∃ hist p w, Reached (World.driver 0 .manual) (fun _ _ => True)
        { minConnections := 0, maxConnections := 4 } {} hist (p, w) ∧
      hist.length = 2 ∧ p.held.size = 2 ∧
      ∀ k g, Outstanding (World.driver 0 .manual) hist k g ↔ p.held.get? k = some g := by
  have h : Reached (World.driver 0 .manual) (fun _ _ => True)
      { minConnections := 0, maxConnections := 4 } {} _ (_, _) :=
    ⟨_, _, rfl, (Run.start.serve (.acquire (some (.named "a")))).serve (.acquire none)⟩
  obtain ⟨hheld, hiff, _, hpolite⟩ := checkouts_held_iff h
  exact ⟨_, _, _, h, rfl, rfl, fun k g => ⟨hiff.mpr (hpolite (by decide)) k g, hheld k g⟩⟩

/-- A borrower asks for the issued key `0` before it has been issued; then one without a
key comes along. The first has not handed its connection back, and the pool knows no more
about it: the release is refused, and closing the pool does not close the connection. -/
theorem checkout_overwritten :
    ∃ hist p w g, Reached (World.driver 0 .manual) (fun _ _ => True)
        { minConnections := 0, maxConnections := 4 } {} hist (p, w) ∧
      Outstanding (World.driver 0 .manual) hist (.auto 0) g ∧
      p.held.get? (.auto 0) ≠ some g ∧ p.closed = false ∧
      (p.release (World.driver 0 .manual) g none false w).1 = .error .unknownHandle ∧
      g ∉ p.toClose := by
  have h : Reached (World.driver 0 .manual) (fun _ _ => True)
      { minConnections := 0, maxConnections := 4 } {} _ (_, _) :=
    ⟨_, _, rfl, (Run.start.serve (.acquire (some (.auto 0)))).serve (.acquire none)⟩
  refine ⟨_, _, _, ⟨0, 0, Instant.start⟩, h, ?_⟩
  suffices hout : Outstanding (World.driver 0 .manual) _ (.auto 0) ⟨0, 0, Instant.start⟩ from
    ⟨hout, by decide, rfl, rfl, fun hmem =>
      absurd ((hout.in_reach h.consistent h.accounted).1.mp hmem) (by decide)⟩
  refine ⟨[_], _, [], rfl, ⟨some (.auto 0), rfl, rfl, rfl⟩, fun m hm => ?_⟩
  rw [List.mem_singleton.mp hm]
  exact Moment.not_ends (fun _ _ _ h => by cases h) _

end Pool

end ConnPool
