import ConnPool.Proofs.Pool.Refilling
import ConnPool.Proofs.Pool.Search
import ConnPool.Proofs.Pool.Surplus

/-!
# Borrowing a connection and putting it back

A borrower who takes the connection on top of the idle stack, works with it and puts it back leaves
no trace in the books of the pool, apart from a key that has been issued and a new stamp. The
connection may well have been left in a transaction; that is what the recycle check is for.

Three things could go wrong, and do not. The pool remembers keys for connections, and if it
remembered one for a connection that is idle, that key would be gone afterwards. It never does
(`ConnPool.Pool.Unclaimed`). A pool that does not evict could find that it has enough connections
already; but there is one less on the stack than before, and before there were no more than the
floor (`ConnPool.Pool.Trim`). And the pool could be filled up on the occasion, but while the
connection is lent it still counts.
-/

namespace ConnPool

namespace Pool

variable {W C ε : Type} {d : Driver W C ε} {p : Pool C} {w : W} {g h : Handle C}
  {below : List (Handle C)}

/-! ### Idle connections and keys -/

/-- **No key is remembered for an idle connection.** -/
def Unclaimed (p : Pool C) : Prop := ∀ id ∈ p.idle.map Handle.id, p.borrower.get? id = none

theorem unclaimed_fresh (config : Config) : (fresh config : Pool C).Unclaimed := fun _ _ => rfl

theorem Unclaimed.unstack (hp : p.Unclaimed) (above : List (Handle C))
    (hidle : p.idle = above ++ h :: below) : (p.unstack h (above ++ below)).Unclaimed := by
  intro id hid
  refine hp id ?_
  rw [hidle]
  exact (List.perm_middle.map Handle.id).mem_iff.mpr (List.mem_cons_of_mem _ hid)

/-- A connection for which no key is remembered may be put on the stack. -/
theorem Unclaimed.stack (hp : p.Unclaimed) (hfree : p.borrower.get? h.id = none)
    (now : Instant) : (p.stack h now).Unclaimed := by
  intro id hid
  rcases List.mem_cons.mp hid with rfl | hid
  · exact hfree
  · exact hp id hid

/-- A connection that is checked out is not idle. -/
theorem Unclaimed.checkOut (hp : p.Unclaimed) (hl : p.Loose h.id) (key : Option Key) :
    (p.checkOut key h).Unclaimed := by
  intro id hid
  have hne : id ≠ h.id := fun hcon => hl.not_idle (hcon ▸ hid)
  exact (Table.get?_insert _ _ _ _).trans ((if_neg hne).trans (hp id hid))

/-- When a checkout ends its key is forgotten, and no other one is learned. -/
theorem Unclaimed.checkIn (hp : p.Unclaimed) (k : Key) (h : Handle C) :
    (p.checkIn k h).Unclaimed ∧ (p.checkIn k h).borrower.get? h.id = none := by
  have herase := Table.get?_erase p.borrower h.id
  refine ⟨fun id hid => ?_, (herase h.id).trans (if_pos rfl)⟩
  by_cases hid' : id = h.id
  · exact (herase id).trans (if_pos hid')
  · exact (herase id).trans ((if_neg hid').trans (hp id hid))

/-- No key is remembered for a number that has not been given away. -/
theorem Consistent.borrower_nextId (hp : p.Consistent) : p.borrower.get? p.nextId = none := by
  refine Option.eq_none_iff_forall_ne_some.mpr fun k hk => ?_
  exact Nat.lt_irrefl _ (hp.borrower_lt hk)

theorem Opens.unclaimed {s s' : Pool C × W} (hstep : Opens d s s') (hp : s.1.Consistent)
    (hs : s.1.Unclaimed) : s'.1.Unclaimed := by
  cases hstep with
  | failed _ _ _ => exact hs
  | @added p _ _ _ _ conn now _ _ _ _ _ _ =>
    exact Unclaimed.stack (p := p.number) (h := ⟨p.nextId, conn, now⟩) hs hp.borrower_nextId _

variable [DecidableEq C]

/-- **No step of a request makes the pool remember a key for an idle connection.** -/
theorem Move.unclaimed {r : Request (Handle C)} {s s' : Pool C × W} (hstep : Move d r s s')
    (hp : s.1.Consistent) (hs : s.1.Unclaimed) : s'.1.Unclaimed := by
  cases hstep with
  | discard _ hdrop =>
    cases hdrop with
    | mk htop _ _ => exact hs.unstack [] htop
  | reuse _ _ htop _ _ => exact (hs.unstack [] htop).checkOut (hp.unstack [] _ htop).2 _
  | fail _ _ _ _ => exact hs
  | @lend _ p _ _ _ _ _ _ _ _ _ _ _ =>
    exact Unclaimed.checkOut (p := p.number) hs hp.number.2 _
  | @giveBack h _ _ p _ k _ _ hdisposed =>
    obtain ⟨hs, hfree⟩ := hs.checkIn k h
    cases hdisposed with
    | letGo _ => exact hs
    | rejected _ _ _ => exact hs
    | shelved _ _ _ _ => exact hs.stack hfree _
  | refill hopens => exact hopens.unclaimed hp hs
  | look _ => exact hs
  | evict _ hidle => exact hs.unstack _ hidle
  | shut _ => exact hs
  | close => exact hs

variable {env : W → W → Prop} {config : Config} {w₀ : W} {hist : List (Moment W C)}

/-- **A pool never remembers a key for an idle connection.** -/
theorem Reached.unclaimed {s : Pool C × W} (h : Reached d env config w₀ hist s) :
    s.1.Unclaimed := by
  refine (h.pool_invariant (P := fun p => p.Consistent ∧ p.Unclaimed) ?_ ?_ ?_).2
  · exact fun _ => ⟨consistent_fresh config, unclaimed_fresh config⟩
  · exact fun _ _ hstep hs => ⟨hstep.consistent hs.1, hstep.unclaimed hs.1 hs.2⟩
  · exact fun _ _ _ hstep hs => ⟨hstep.consistent hs.1, hstep.unclaimed hs.1 hs.2⟩

/-! ### There and back -/

/-- A connection that is kept goes on top of the stack, and if the pool has its floor then, that is
all. -/
theorem release_of_keeps {key : Option Key} {force : Bool} {k : Key}
    (hk : p.checkout? h key = some k) (hkeeps : Keeps d p w h force)
    (hfloor : p.config.floor ≤ p.size) :
    p.release d h key force w =
      (.ok (), (p.checkIn k h).stack h (d.now (d.recycle h.conn w).2).1,
        (d.now (d.recycle h.conn w).2).2) := by
  obtain ⟨hwanted, hgood⟩ := keeps_iff.mp hkeeps
  have hdispose : (p.checkIn k h).dispose d h force w =
      ((p.checkIn k h).stack h (d.now (d.recycle h.conn w).2).1,
        (d.now (d.recycle h.conn w).2).2) := by
    have hwanted : (force || (p.checkIn k h).closed || (p.checkIn k h).hasSurplus) = false :=
      hwanted
    simp only [dispose, hwanted, shelveIfUsable, hgood, shelve, Bool.false_eq_true, if_false,
      if_true]
  have hsize : ((p.checkIn k h).stack h (d.now (d.recycle h.conn w).2).1).size = p.size := by
    rcases (disposed d h force (p.checkIn k h) w).kept_or_one_less hk with ⟨_, hsize, _⟩ | ⟨hnot, _⟩
    · rwa [hdispose] at hsize
    · exact absurd hkeeps hnot
  rw [release_of_some hkeeps.isOpen hk, hdispose, refill_of_le (hsize ▸ hfloor)]

omit [DecidableEq C] in
/-- With one connection less on the stack than before, a trim pool does not have enough of them. -/
theorem Trim.wants (hp : p.Trim) (hidle : p.idle = g :: below) :
    ¬(p.config.evictsIdle = false ∧ p.config.floor ≤ below.length) := by
  rintro ⟨hkeeps, hfull⟩
  have := hp hkeeps
  rw [hidle, List.length_cons] at this
  omega

/-- The connection that has been lent can be put back. -/
theorem checkout?_checkOut_none (p : Pool C) (g : Handle C) :
    (p.checkOut none g).checkout? g none = some (.auto p.nextKey) :=
  checkout?_eq_some_iff.mpr
    ⟨(Table.get?_insert _ _ _ _).trans (if_pos rfl), g, (Table.get?_insert _ _ _ _).trans
      (if_pos rfl), rfl, rfl⟩

omit [DecidableEq C] in
/-- While it is lent the connection still counts. -/
theorem size_checkOut_unstack (hidle : p.idle = g :: below)
    (hfree : p.held.get? (.auto p.nextKey) = none) :
    ((p.unstack g below).checkOut none g).size = p.size := by
  have : (p.held.insert (.auto p.nextKey) g).size = p.held.size + 1 :=
    Table.size_insert_of_get?_eq_none g hfree
  change below.length + (p.held.insert (.auto p.nextKey) g).size = p.idle.length + p.held.size
  rw [this, hidle, List.length_cons]
  omega

omit [DecidableEq C] in
/-- **There and back**: off the stack, checked out, checked in and put on the stack again, a
connection has a new stamp, and a key has been issued. -/
theorem stack_checkIn_checkOut_unstack (hidle : p.idle = g :: below)
    (hfree : p.held.get? (.auto p.nextKey) = none) (hclaim : p.borrower.get? g.id = none)
    (now : Instant) :
    (((p.unstack g below).checkOut none g).checkIn (.auto p.nextKey) g).stack g now =
      { p with stamps := p.stamps.insert g.id now, nextKey := p.nextKey + 1 } := by
  simp only [unstack, checkOut, checkIn, stack, chooseKey_none, Table.erase_insert _ hfree,
    Table.erase_insert _ hclaim, Table.insert_erase, hidle]

/-! ### Main statement -/

/-- **Putting back undoes getting.** An open pool has its floor, and the connection on top of its
idle stack passes the check. A borrower without a key gets that connection, under an issued key
that nobody holds. Whatever the world has become in the meantime: if the connection is as open as
it was, its status is known, and it can be rolled back if need be, then it is accepted when it is
put back. The pool is what it was before, except that the connection has the reading of the clock
for its stamp and that one key has been issued. Neither request makes any other call than to roll
that connection back; none is opened or closed. -/
theorem put_undoes_get {w : W} (hreached : Reached d env config w₀ hist (p, w))
    (hopen : p.closed = false) (hfloor : p.config.floor ≤ p.size) (hidle : p.idle = g :: below)
    (hgood : (d.recycle g.conn w).1.isReusable = true)
    (hfree : p.held.get? (.auto p.nextKey) = none) :
    ∃ q v, p.acquire d none w = (.ok g, q, v) ∧ q.held.get? (.auto p.nextKey) = some g ∧
      (∀ call ∈ p.calls d .get w, call = .rollback g.conn (.ok ())) ∧
      ∀ u u₁ u₂ status, d.isClosed g.conn u = ((d.isClosed g.conn w).1, u₁) →
        d.status g.conn u₁ = (status, u₂) → status ≠ .unknown →
        (status ≠ .idle → (d.rollback g.conn u₂).1 = .ok ()) →
        ∃ now x, now = (d.now (d.recycle g.conn u).2).1 ∧
          q.release d g none false u = (.ok (),
            { p with stamps := p.stamps.insert g.id now, nextKey := p.nextKey + 1 }, x) ∧
          ∀ call ∈ q.calls d (.put g) u, call = .rollback g.conn (.ok ()) := by
  have hclaim : p.borrower.get? g.id = none :=
    hreached.unclaimed g.id (hidle ▸ List.mem_cons_self)
  obtain ⟨hlogged, hcalls⟩ := Driver.calls_of_isReusable hgood
  refine ⟨_, _, acquire_of_top hopen rfl hidle hgood, ?held, ?get, ?put⟩
  case held => exact (Table.get?_insert _ _ _ _).trans (if_pos rfl)
  case get =>
    change ∀ call ∈ (p.acquire d.logged none (w, [])).2.2.2, _
    rwa [acquire_of_top hopen rfl hidle hlogged]
  case put =>
    intro u u₁ u₂ status hsame hstatus hknown hrollback
    rw [Driver.isClosed_of_isReusable hgood] at hsame
    have hgood' := Driver.isReusable_recycle hsame hstatus hknown hrollback
    obtain ⟨hlogged', hcalls'⟩ := Driver.calls_of_isReusable hgood'
    have hk := checkout?_checkOut_none (p.unstack g below) g
    have hwants := hreached.trim.wants hidle
    have hfloor' := (size_checkOut_unstack hidle hfree).symm ▸ hfloor
    refine ⟨_, (d.now (d.recycle g.conn u).2).2, rfl, ?_, ?_⟩
    · rw [release_of_keeps hk ⟨hopen, rfl, hwants, hgood'⟩ hfloor']
      exact congrArg (fun r => (Except.ok (), r, _))
        (stack_checkIn_checkOut_unstack hidle hfree hclaim _)
    · change ∀ call ∈ (Pool.release d.logged g none false _ (u, [])).2.2.2, _
      rwa [release_of_keeps hk ⟨hopen, rfl, hwants, hlogged'⟩ hfloor']

/-- A pool that does not evict has two idle connections, as many as its floor, and has lent a third.
The one on top of the stack is still in a transaction when it is lent, and it is in one that has
failed when it is put back, seven nanoseconds later. -/
theorem put_undoes_get_in_transaction :
    ∃ hist p w q v u x, Reached (World.driver 0 .manual) (fun _ _ => True)
        { minConnections := 2, maxConnections := 4, idleTimeout := ⟨0⟩ } {} hist (p, w) ∧
      p.idleIds = [1, 2] ∧ p.nextKey = 2 ∧ p.key? 0 = some (.named "a") ∧
      p.acquire (World.driver 0 .manual) none w = (.ok ⟨2, 2, Instant.start⟩, q, v) ∧
      q.idleIds = [1] ∧
      q.release (World.driver 0 .manual) ⟨2, 2, Instant.start⟩ none false u = (.ok (),
        { p with stamps := p.stamps.insert 2 ⟨7⟩, nextKey := 3 }, x) ∧
      p.calls (World.driver 0 .manual) .get w = [.rollback 2 (.ok ())] ∧
      q.calls (World.driver 0 .manual) (.put ⟨2, 2, Instant.start⟩) u = [.rollback 2 (.ok ())] := by
  have h : Reached (World.driver 0 .manual) (fun _ _ => True)
      { minConnections := 2, maxConnections := 4, idleTimeout := ⟨0⟩ } {} _ (_, _) :=
    ⟨_, _, rfl, (((((Run.start.serve .get).serve (.acquire (some (.named "a")))).serve .get).serve
      (.put ⟨1, 1, Instant.start⟩)).serve (.put ⟨2, 2, Instant.start⟩)).drift
      (w := { backends := [{ attempts := 3, opened := 3 }]
              conns := [.born 0 1 {}, .born 0 2 {},
                { SimConn.born 0 3 {} with status := .inTransaction }] }) trivial⟩
  obtain ⟨q, v, hget, -, -, hput⟩ := put_undoes_get h rfl (by decide) rfl rfl rfl
  obtain ⟨now, x, rfl, hback, -⟩ := hput
    { backends := [{ attempts := 3, opened := 3 }]
      conns := [.born 0 1 {}, .born 0 2 {}, { SimConn.born 0 3 {} with status := .inError }]
      manual := ⟨7⟩ } _ _ .inError rfl rfl (by decide) (fun _ => rfl)
  obtain rfl : _ = q := congrArg (fun s => s.2.1) hget
  exact ⟨_, _, _, _, v, _, x, h, rfl, rfl, rfl, hget, rfl, hback, rfl, rfl⟩

end Pool

end ConnPool
