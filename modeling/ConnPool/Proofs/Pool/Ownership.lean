import ConnPool.Proofs.Pool.Runs
import ConnPool.Simulation.World

/-!
# Who owns a connection

A connection that a pool has opened is idle, or checked out under one key, or none of
the pool's business any more. The pool keeps this in four places – the idle stack, its
stamps, the held table and the table of borrowers – and changes them at different
points of a request. `ConnPool.Pool.Consistent` says how the four hang together, and
with the numbers that are still to be given away.

Between two of those points a connection is in nobody's hands: it has left the idle
stack or the held table, or has only just been opened. `ConnPool.Pool.Loose` says that of
its number. Every change of the bookkeeping either lets a connection loose or needs a
loose one, and then keeps the pool consistent; that is all there is to the proof.

Consistency survives even a key that is handed out twice. The entry of the first
borrower is lost then, and with it the pool's only trace of the connection, but what is
left still fits together – and the connection stays lost: a loose one stays loose for
ever (`ConnPool.Pool.Loose.serve`).
-/

namespace ConnPool

namespace Pool

variable {W C ε : Type} {d : Driver W C ε}

/-- **The bookkeeping of a pool is consistent.** -/
structure Consistent (p : Pool C) : Prop where
  /-- No connection is idle twice. -/
  idle_nodup : (p.idle.map Handle.id).Nodup
  /-- No connection is checked out under two keys. -/
  held_inj : ∀ {k l : Key} {g h : Handle C}, p.held.get? k = some g → p.held.get? l = some h →
    g.id = h.id → k = l
  /-- No connection is both idle and checked out. -/
  apart : ∀ {k : Key} {g : Handle C}, p.held.get? k = some g → g.id ∉ p.idle.map Handle.id
  /-- Exactly the idle connections have a stamp. -/
  stamped : ∀ id, (p.stamps.get? id).isSome ↔ id ∈ p.idle.map Handle.id
  /-- The key of every connection that is checked out is remembered. -/
  remembered : ∀ {k : Key} {g : Handle C}, p.held.get? k = some g →
    p.borrower.get? g.id = some k
  /-- The numbers of the idle connections have been given away. -/
  idle_lt : ∀ {id : ConnId}, id ∈ p.idle.map Handle.id → id < p.nextId
  /-- So have those of the connections that are checked out. -/
  held_lt : ∀ {k : Key} {g : Handle C}, p.held.get? k = some g → g.id < p.nextId
  /-- So have those a key is remembered for. -/
  borrower_lt : ∀ {id : ConnId} {k : Key}, p.borrower.get? id = some k → id < p.nextId

/-- **A connection is in nobody's hands**: its number has been given away, and it is
neither idle nor checked out. -/
structure Loose (p : Pool C) (id : ConnId) : Prop where
  /-- The number has been given away. -/
  lt : id < p.nextId
  /-- The connection is not idle. -/
  not_idle : id ∉ p.idle.map Handle.id
  /-- It is not checked out. -/
  not_held : ∀ {k : Key} {g : Handle C}, p.held.get? k = some g → g.id ≠ id

/-- The numbers with a stamp have been given away. -/
theorem Consistent.stamps_lt {p : Pool C} (hp : p.Consistent) {id : ConnId} {since : Instant}
    (h : p.stamps.get? id = some since) : id < p.nextId :=
  hp.idle_lt ((hp.stamped id).mp (h ▸ rfl))

theorem consistent_fresh (config : Config) : (fresh config : Pool C).Consistent where
  idle_nodup := List.nodup_nil
  held_inj h _ _ := by cases h
  apart _ := List.not_mem_nil
  stamped _ := iff_of_false Bool.false_ne_true List.not_mem_nil
  remembered h := by cases h
  idle_lt h := absurd h List.not_mem_nil
  held_lt h := by cases h
  borrower_lt h := by cases h

/-! ### Changes of the bookkeeping -/

/-- Giving a number away lets it loose. -/
theorem Consistent.number {p : Pool C} (hp : p.Consistent) :
    p.number.Consistent ∧ p.number.Loose p.nextId := by
  refine ⟨{ hp with
    idle_lt := fun h => Nat.lt_succ_of_lt (hp.idle_lt h)
    held_lt := fun h => Nat.lt_succ_of_lt (hp.held_lt h)
    borrower_lt := fun h => Nat.lt_succ_of_lt (hp.borrower_lt h) }, ?_⟩
  exact ⟨Nat.lt_succ_self _, fun h => Nat.lt_irrefl _ (hp.idle_lt h),
    fun h => Nat.ne_of_lt (hp.held_lt h)⟩

/-- Taking a connection off the idle stack, wherever it stands, lets it loose. -/
theorem Consistent.unstack {p : Pool C} (hp : p.Consistent) {h : Handle C}
    (above below : List (Handle C)) (hidle : p.idle = above ++ h :: below) :
    (p.unstack h (above ++ below)).Consistent ∧ (p.unstack h (above ++ below)).Loose h.id := by
  -- wherever it stands, the others keep their order, and only who is there matters
  have hperm : (p.idle.map Handle.id).Perm (h.id :: (above ++ below).map Handle.id) := by
    rw [hidle]
    exact List.perm_middle.map Handle.id
  have hnodup := hperm.nodup_iff.mp hp.idle_nodup
  have hmem : ∀ id, id ∈ p.idle.map Handle.id ↔ id = h.id ∨ id ∈ (above ++ below).map Handle.id :=
    fun id => hperm.mem_iff.trans List.mem_cons
  rw [List.nodup_cons] at hnodup
  refine ⟨{ hp with
    idle_nodup := hnodup.2
    apart := fun hheld hid => hp.apart hheld ((hmem _).mpr (Or.inr hid))
    stamped := fun id => ?_
    idle_lt := fun hid => hp.idle_lt ((hmem _).mpr (Or.inr hid)) }, ?_⟩
  · by_cases hid : id = h.id
    · simp only [Pool.unstack, Table.get?_erase, hid, if_true, Option.isSome_none,
        Bool.false_eq_true, false_iff]
      exact hnodup.1
    · simp only [Pool.unstack, Table.get?_erase, hid, if_false]
      rw [hp.stamped, hmem, or_iff_right hid]
  · have htop : h.id ∈ p.idle.map Handle.id := (hmem _).mpr (Or.inl rfl)
    exact ⟨hp.idle_lt htop, hnodup.1, fun hheld hid => hp.apart hheld (hid ▸ htop)⟩

/-- Putting a loose connection on the idle stack. -/
theorem Consistent.stack {p : Pool C} (hp : p.Consistent) {h : Handle C} (hl : p.Loose h.id)
    (now : Instant) : (p.stack h now).Consistent :=
  { hp with
    idle_nodup := List.nodup_cons.mpr ⟨hl.not_idle, hp.idle_nodup⟩
    apart := fun hheld hid => by
      rcases List.mem_cons.mp hid with hid | hid
      · exact hl.not_held hheld hid
      · exact hp.apart hheld hid
    stamped := fun id => by
      simp only [Pool.stack, List.map_cons, List.mem_cons, ← hp.stamped, Table.get?_insert]
      by_cases hid : id = h.id <;> simp [hid]
    idle_lt := fun hid => by
      rcases List.mem_cons.mp hid with rfl | hid
      · exact hl.lt
      · exact hp.idle_lt hid }

/-- Checking a loose connection out, under whatever key. -/
theorem Consistent.checkOut {p : Pool C} (hp : p.Consistent) {h : Handle C} (hl : p.Loose h.id)
    (key : Option Key) : (p.checkOut key h).Consistent where
  idle_nodup := hp.idle_nodup
  held_inj hk hl' hid := by
    rcases Table.get?_insert_eq_some_iff.mp hk with ⟨rfl, rfl⟩ | ⟨_, hk⟩ <;>
      rcases Table.get?_insert_eq_some_iff.mp hl' with ⟨rfl, rfl⟩ | ⟨_, hl'⟩
    · rfl
    · exact absurd hid.symm (hl.not_held hl')
    · exact absurd hid (hl.not_held hk)
    · exact hp.held_inj hk hl' hid
  apart hk := by
    rcases Table.get?_insert_eq_some_iff.mp hk with ⟨rfl, rfl⟩ | ⟨_, hk⟩
    · exact hl.not_idle
    · exact hp.apart hk
  stamped := hp.stamped
  remembered hk := by
    rcases Table.get?_insert_eq_some_iff.mp hk with ⟨rfl, rfl⟩ | ⟨_, hk⟩
    · exact Table.get?_insert_eq_some_iff.mpr (Or.inl ⟨rfl, rfl⟩)
    · exact Table.get?_insert_eq_some_iff.mpr (Or.inr ⟨hl.not_held hk, hp.remembered hk⟩)
  idle_lt := hp.idle_lt
  held_lt hk := by
    rcases Table.get?_insert_eq_some_iff.mp hk with ⟨rfl, rfl⟩ | ⟨_, hk⟩
    · exact hl.lt
    · exact hp.held_lt hk
  borrower_lt hid := by
    rcases Table.get?_insert_eq_some_iff.mp hid with ⟨rfl, rfl⟩ | ⟨_, hid⟩
    · exact hl.lt
    · exact hp.borrower_lt hid

/-- Ending a checkout lets its connection loose. -/
theorem Consistent.checkIn [DecidableEq C] {p : Pool C} (hp : p.Consistent) {h : Handle C}
    {key : Option Key} {k : Key} (hk : p.checkout? h key = some k) :
    (p.checkIn k h).Consistent ∧ (p.checkIn k h).Loose h.id := by
  obtain ⟨_, g, hheld, hid, _⟩ := checkout?_eq_some_iff.mp hk
  -- what is still held is held under another key, so it is another connection
  have hother : ∀ {l : Key} {g' : Handle C}, (p.held.erase k).get? l = some g' →
      p.held.get? l = some g' ∧ g'.id ≠ h.id := by
    intro l g' hl
    obtain ⟨hne, hl⟩ := Table.get?_erase_eq_some_iff.mp hl
    exact ⟨hl, fun hcon => hne (hp.held_inj hl hheld (hcon.trans hid.symm))⟩
  refine ⟨{ hp with
    held_inj := fun hl hl' => hp.held_inj (hother hl).1 (hother hl').1
    apart := fun hl => hp.apart (hother hl).1
    remembered := fun hl => ?_
    held_lt := fun hl => hp.held_lt (hother hl).1
    borrower_lt := fun hb => hp.borrower_lt (Table.get?_erase_eq_some_iff.mp hb).2 }, ?_⟩
  · obtain ⟨hl, hne⟩ := hother hl
    exact Table.get?_erase_eq_some_iff.mpr ⟨hne, hp.remembered hl⟩
  · exact ⟨hid ▸ hp.held_lt hheld, hid ▸ hp.apart hheld, fun hl => (hother hl).2⟩

/-! ### Changes that leave a connection loose -/

theorem Loose.number {p : Pool C} {id : ConnId} (hl : p.Loose id) : p.number.Loose id :=
  { hl with lt := Nat.lt_succ_of_lt hl.lt }

theorem Loose.unstack {p : Pool C} {id : ConnId} (hl : p.Loose id) {h : Handle C}
    (above below : List (Handle C)) (hidle : p.idle = above ++ h :: below) :
    (p.unstack h (above ++ below)).Loose id := by
  refine { hl with not_idle := fun hid => hl.not_idle ?_ }
  rw [hidle]
  exact (List.perm_middle.map Handle.id).mem_iff.mpr (List.mem_cons_of_mem _ hid)

theorem Loose.stack {p : Pool C} {id : ConnId} (hl : p.Loose id) {h : Handle C}
    (hne : h.id ≠ id) (now : Instant) : (p.stack h now).Loose id :=
  { hl with not_idle := List.not_mem_cons_of_ne_of_not_mem hne.symm hl.not_idle }

theorem Loose.checkOut {p : Pool C} {id : ConnId} (hl : p.Loose id) {h : Handle C}
    (hne : h.id ≠ id) (key : Option Key) : (p.checkOut key h).Loose id := by
  refine ⟨hl.lt, hl.not_idle, fun hk => ?_⟩
  rcases Table.get?_insert_eq_some_iff.mp hk with ⟨_, rfl⟩ | ⟨_, hk⟩
  · exact hne
  · exact hl.not_held hk

theorem Loose.checkIn {p : Pool C} {id : ConnId} (hl : p.Loose id) (k : Key) (h : Handle C) :
    (p.checkIn k h).Loose id :=
  ⟨hl.lt, hl.not_idle, fun hk => hl.not_held (Table.get?_erase_eq_some_iff.mp hk).2⟩

/-! ### Steps and runs -/

theorem Opens.consistent {s s' : Pool C × W} (hstep : Opens d s s') (hp : s.1.Consistent) :
    s'.1.Consistent := by
  cases hstep with
  | failed _ _ _ => exact hp
  | added _ _ _ _ _ => exact hp.number.1.stack hp.number.2 _

theorem Opens.loose {s s' : Pool C × W} (hstep : Opens d s s') {id : ConnId}
    (hl : s.1.Loose id) : s'.1.Loose id := by
  cases hstep with
  | failed _ _ _ => exact hl
  | added _ _ _ _ _ => exact hl.number.stack (Nat.ne_of_gt hl.lt) _

theorem Drop.consistent {s s' : Pool C × W} (hstep : Drop d s s') (hp : s.1.Consistent) :
    s'.1.Consistent := by
  cases hstep with
  | mk htop _ _ => exact (hp.unstack [] _ htop).1

theorem Consistent.drops {s s' : Pool C × W} (hp : s.1.Consistent)
    (hdrops : Relation.ReflTransGen (Drop d) s s') : s'.1.Consistent :=
  steps_invariant (I := fun s => s.1.Consistent) (fun _ _ hdrop => hdrop.consistent) hdrops hp

variable [DecidableEq C]

/-- **Every step of a request keeps the bookkeeping consistent.** -/
theorem Move.consistent {r : Request (Handle C)} {s s' : Pool C × W} (hstep : Move d r s s')
    (hp : s.1.Consistent) : s'.1.Consistent := by
  cases hstep with
  | discard _ hdrop => exact hdrop.consistent hp
  | reuse _ _ htop _ _ =>
    obtain ⟨hrest, hl⟩ := hp.unstack [] _ htop
    exact hrest.checkOut hl _
  | fail _ _ _ _ => exact hp
  | lend _ _ _ _ _ _ => exact hp.number.1.checkOut hp.number.2 _
  | giveBack hk hs =>
    obtain ⟨hrest, hl⟩ := hp.checkIn hk
    cases hs with
    | letGo _ => exact hrest
    | rejected _ _ _ => exact hrest
    | shelved _ _ _ _ => exact hrest.stack hl _
  | refill hopens => exact hopens.consistent hp
  | look _ => exact hp
  | evict _ hidle => exact (hp.unstack _ _ hidle).1
  | shut _ => exact hp
  | close => exact { hp with }

variable {env : W → W → Prop} {config : Config} {w₀ : W} {hist : List (Moment W C)}

/-- **A pool is consistent in every state it reaches.** -/
theorem Reached.consistent {s : Pool C × W} (h : Reached d env config w₀ hist s) :
    s.1.Consistent :=
  h.pool_invariant (fun _ => consistent_fresh config) (fun _ _ hstep => hstep.consistent)
    fun _ _ _ hstep => hstep.consistent

/-- A new pool is consistent. -/
theorem consistent_of_build {p : Pool C} {w : W} (hbuild : build d config w₀ = (.ok p, w)) :
    p.Consistent := by
  have hreached : Reached d (fun _ _ => True) config w₀ [] (p, w) := ⟨p, w, hbuild, .start⟩
  exact hreached.consistent

/-! ### What is loose stays loose -/

/-- The release of a loose connection ends no checkout, whatever key it names. -/
theorem Loose.checkout?_eq_none {p : Pool C} {h : Handle C} (hl : p.Loose h.id)
    (key : Option Key) : p.checkout? h key = none := by
  refine Option.eq_none_iff_forall_ne_some.mpr fun k hk => ?_
  obtain ⟨_, g, hheld, hid, _⟩ := checkout?_eq_some_iff.mp hk
  exact hl.not_held hheld hid

theorem Move.loose {r : Request (Handle C)} {s s' : Pool C × W} (hstep : Move d r s s')
    {id : ConnId} (hl : s.1.Loose id) : s'.1.Loose id := by
  cases hstep with
  | discard _ hdrop =>
    cases hdrop with
    | mk htop _ _ => exact hl.unstack [] _ htop
  | @reuse _ _ _ _ h rest _ _ _ htop _ _ =>
    refine (hl.unstack [] _ htop).checkOut (fun hid => hl.not_idle ?_) _
    rw [htop, ← hid]
    exact List.mem_cons_self
  | fail _ _ _ _ => exact hl
  | lend _ _ _ _ _ _ => exact hl.number.checkOut (Nat.ne_of_gt hl.lt) _
  | @giveBack h _ _ _ _ k _ hk hs =>
    have hrest := hl.checkIn k h
    cases hs with
    | letGo _ => exact hrest
    | rejected _ _ _ => exact hrest
    | shelved _ _ _ _ =>
      -- what comes back was held, so it is not the loose one
      refine hrest.stack (fun hid => ?_) _
      exact absurd (hk.symm.trans ((hid ▸ hl).checkout?_eq_none _)) (Option.some_ne_none k)
  | refill hopens => exact hopens.loose hl
  | look _ => exact hl
  | evict _ hidle => exact hl.unstack _ _ hidle
  | shut _ => exact hl
  | close => exact { hl with }

/-- **What is loose stays loose**: a pool never gets hold again of a connection that has
left both of its collections. -/
theorem Loose.serve {p : Pool C} {id : ConnId} (hl : p.Loose id) (r : Request (Handle C))
    (w : W) : (p.serve d r w).2.1.Loose id :=
  serve_invariant (I := fun s => s.1.Loose id) (fun _ _ hstep => hstep.loose) hl

/-! ### What an acquire hands out -/

omit [DecidableEq C] in
/-- **An acquire that succeeds** hands out what its key holds, and nothing happens; or it
checks out a connection that it has taken in hand before, off the idle stack or newly
opened, and that is loose then. -/
theorem acquire_cases {p : Pool C} {key : Option Key} {w : W} {g : Handle C}
    (hg : (p.acquire d key w).1 = .ok g) :
    (key.bind p.held.get? = some g ∧ (p.acquire d key w).2 = (p, w)) ∨
      (key.bind p.held.get? = none ∧ ∃ q : Pool C, (p.acquire d key w).2.1 = q.checkOut key g ∧
        q.held = p.held ∧ q.nextKey = p.nextKey ∧ (p.Consistent → q.Consistent ∧ q.Loose g.id)) := by
  have hend := acquired d key p w
  generalize p.acquire d key w = result at hend hg ⊢
  cases hend with
  | closed _ => cases hg
  | served _ hheld =>
    cases hg
    exact Or.inl ⟨hheld, rfl⟩
  | reused _ hfree hdrops htop _ _ =>
    cases hg
    exact Or.inr ⟨hfree, _, rfl, drops_held hdrops, drops_nextKey hdrops, fun hp =>
      (hp.drops hdrops).unstack [] _ htop⟩
  | exhausted _ _ _ _ _ => cases hg
  | failed _ _ _ _ _ _ => cases hg
  | opened _ hfree hdrops _ _ _ _ =>
    cases hg
    exact Or.inr ⟨hfree, _, rfl, drops_held hdrops, drops_nextKey hdrops, fun hp =>
      (hp.drops hdrops).number⟩

omit [DecidableEq C] in
/-- Unless its key is served already, a borrower gets a connection that nobody has
checked out. -/
theorem Consistent.acquire_ne {p : Pool C} (hp : p.Consistent) {key : Option Key} {v : W}
    {g : Handle C} (hfree : key.bind p.held.get? = none)
    (hg : (p.acquire d key v).1 = .ok g) {k : Key} {h : Handle C} (hk : p.held.get? k = some h) :
    h.id ≠ g.id := by
  rcases acquire_cases hg with ⟨hheld, _⟩ | ⟨_, q, _, hheld, _, hq⟩
  · cases hfree.symm.trans hheld
  · exact (hq hp).2.not_held (hheld ▸ hk)

/-- **A connection has one owner.** Whatever has happened to a pool, its bookkeeping is
consistent, and every number in it has been given away. So a borrower whose key is not
served already never gets a connection that somebody has checked out, whatever may have
become of the world in the meantime. -/
theorem single_ownership {s : Pool C × W} (h : Reached d env config w₀ hist s) :
    s.1.Consistent ∧
      (∀ id since, s.1.stamps.get? id = some since → id < s.1.nextId) ∧
      ∀ key v g, key.bind s.1.held.get? = none → (s.1.acquire d key v).1 = .ok g →
        ∀ k h, s.1.held.get? k = some h → h.id ≠ g.id ∧ h.isSame g = false := by
  have hp := h.consistent
  refine ⟨hp, fun _ _ hsince => hp.stamps_lt hsince, fun key v g hfree hg k h hk => ?_⟩
  have hne := hp.acquire_ne hfree hg hk
  exact ⟨hne, Bool.eq_false_iff.mpr fun hsame => hne (Handle.isSame_iff.mp hsame).1⟩

/-- A pool lends one connection under a name and another anonymously, and gets the first
one back: it is idle, the other one is not, and a third borrower does not get that. -/
theorem single_ownership_after_return :
    ∃ hist s, Reached (World.driver 0 .manual) (fun _ _ => True)
        { minConnections := 1, maxConnections := 3 } {} hist s ∧
      s.1.Consistent ∧ s.1.idleIds = [0] ∧ s.1.held.values.map Handle.id = [1] ∧
      ∀ g, (s.1.acquire (World.driver 0 .manual) none s.2).1 = .ok g → g.id ≠ 1 := by
  have h : Reached (World.driver 0 .manual) (fun _ _ => True)
      { minConnections := 1, maxConnections := 3 } {} _ _ :=
    ⟨_, _, rfl, ((Run.start.serve (.acquire (some (.named "a")))).serve (.acquire none)).serve
      (.release ⟨0, 0, Instant.start⟩ none false)⟩
  refine ⟨_, _, h, (single_ownership h).1, rfl, rfl, fun g hg => ?_⟩
  exact ((single_ownership h).2.2 none _ g rfl hg (.auto 0) _ rfl).1.symm

end Pool

end ConnPool
