import ConnPool.Proofs.Pool.Checkouts
import ConnPool.Proofs.Pool.Projection

/-!
# Closed for good

A pool that has been closed stays closed. Its collections are still there, for inspection
and for the borrowers that are late, and all that can happen to it is that it dwindles
(`ConnPool.Pool.Dwindled`): a release takes an entry out of the two tables, and nothing is
ever put in.

This is a matter of every branch of every request. Some of them ask whether the pool is
closed before they do anything; but a release does not, and it has to find out on its way
that it must not put the connection on the idle stack, nor fill the pool up, nor complain
about a connection the pool does not know. `ConnPool.Pool.Late` says what each request
comes to, and `ConnPool.Pool.closed_for_good` is the main statement. It is made about
the pool with a log, since it says that no connection is opened any more.
-/

namespace ConnPool

namespace Pool

variable {W C ε : Type} {d : Driver W C ε}

/-! ### Dwindling -/

/-- **A pool has dwindled**: it is closed, and checkouts may have ended in it. Everything
else is as it was. -/
structure Dwindled (p q : Pool C) : Prop where
  /-- The pool is closed. -/
  closed : q.closed = true
  /-- It has kept its settings. -/
  config_eq : q.config = p.config
  /-- No connection has joined or left the idle stack. -/
  idle_eq : q.idle = p.idle
  /-- The stamps are those of before. -/
  stamps_eq : q.stamps = p.stamps
  /-- No number has been given away. -/
  nextId_eq : q.nextId = p.nextId
  /-- No key has been issued. -/
  nextKey_eq : q.nextKey = p.nextKey
  /-- Whatever is held was held before. -/
  held : ∀ {k : Key} {g : Handle C}, q.held.get? k = some g → p.held.get? k = some g
  /-- Whatever is remembered was remembered before. -/
  borrower : ∀ {id : ConnId} {k : Key}, q.borrower.get? id = some k → p.borrower.get? id = some k

theorem Dwindled.refl {p : Pool C} (hclosed : p.closed = true) : Dwindled p p :=
  ⟨hclosed, rfl, rfl, rfl, rfl, rfl, id, id⟩

theorem Dwindled.trans {p q r : Pool C} (h : Dwindled p q) (h' : Dwindled q r) : Dwindled p r where
  closed := h'.closed
  config_eq := h'.config_eq.trans h.config_eq
  idle_eq := h'.idle_eq.trans h.idle_eq
  stamps_eq := h'.stamps_eq.trans h.stamps_eq
  nextId_eq := h'.nextId_eq.trans h.nextId_eq
  nextKey_eq := h'.nextKey_eq.trans h.nextKey_eq
  held hk := h.held (h'.held hk)
  borrower hk := h.borrower (h'.borrower hk)

/-- Ending a checkout makes a closed pool dwindle. -/
theorem dwindled_checkIn {p : Pool C} (hclosed : p.closed = true) (k : Key) (h : Handle C) :
    Dwindled p (p.checkIn k h) where
  closed := hclosed
  config_eq := rfl
  idle_eq := rfl
  stamps_eq := rfl
  nextId_eq := rfl
  nextKey_eq := rfl
  held hl := (Table.get?_erase_eq_some_iff.mp hl).2
  borrower hid := (Table.get?_erase_eq_some_iff.mp hid).2

/-- Marking a closed pool as closed changes nothing. -/
theorem mark_closed {p : Pool C} (hclosed : p.closed = true) : { p with closed := true } = p := by
  cases p
  cases hclosed
  rfl

/-- What has come back to a closed pool is shut, and that is all. -/
theorem Disposed.eq_of_closed {h : Handle C} {force : Bool} {p : Pool C} {w : W} {s : Pool C × W}
    (hs : Disposed d h force (p, w) s) (hclosed : p.closed = true) :
    s = (p, (d.shut h.conn w).2) := by
  have hunwanted : (force || p.closed || p.hasSurplus) = true := by
    rw [hclosed, Bool.or_true, Bool.true_or]
  cases hs with
  | letGo _ => rfl
  | rejected hwanted _ _ => cases hunwanted.symm.trans hwanted
  | shelved hwanted _ _ _ => cases hunwanted.symm.trans hwanted

variable [DecidableEq C]

/-- **A step on a closed pool** makes it dwindle, and shuts one connection at most. -/
theorem Move.dwindled {r : Request (Handle C)} {s s' : Pool C × W} (hstep : Move d r s s')
    (hclosed : s.1.closed = true) :
    Dwindled s.1 s'.1 ∧ (s'.2 = s.2 ∨ ∃ c, s'.2 = (d.shut c s.2).2) := by
  cases hstep with
  | discard hopen _ => cases hclosed.symm.trans hopen
  | reuse hopen _ _ _ _ => cases hclosed.symm.trans hopen
  | fail hopen _ _ _ => cases hclosed.symm.trans hopen
  | lend hopen _ _ _ _ _ => cases hclosed.symm.trans hopen
  | @giveBack h _ _ p _ k _ _ hs =>
    rw [hs.eq_of_closed hclosed]
    exact ⟨dwindled_checkIn hclosed k h, Or.inr ⟨h.conn, rfl⟩⟩
  | refill hopens =>
    cases hopens with
    | failed hopen _ _ => cases hclosed.symm.trans hopen
    | added hopen _ _ _ _ => cases hclosed.symm.trans hopen
  | look hopen => cases hclosed.symm.trans hopen
  | evict hopen _ => cases hclosed.symm.trans hopen
  | @shut _ _ h _ => exact ⟨.refl hclosed, Or.inr ⟨h.conn, rfl⟩⟩
  | close => exact ⟨⟨rfl, rfl, rfl, rfl, rfl, rfl, id, id⟩, Or.inl rfl⟩

/-- **Whatever a closed pool is asked for, it dwindles.** -/
theorem dwindled_serve {p : Pool C} (hclosed : p.closed = true) (r : Request (Handle C)) (w : W) :
    Dwindled p (p.serve d r w).2.1 := by
  refine serve_invariant (I := fun s => Dwindled p s.1) ?_ (.refl hclosed)
  intro s s' hstep hs
  exact hs.trans (hstep.dwindled hs.closed).1

/-! ### What a request comes to -/

/-- **What each request comes to on a closed pool**: the answer, the pool and the world
after it. -/
inductive Late (d : Driver W C ε) (p : Pool C) (w : W) :
    Request (Handle C) → Response C ε × Pool C × W → Prop
  /-- Nobody is served, not even under a key that holds a connection. -/
  | acquire {key : Option Key} : Late d p w (.acquire key) (.acquired (.error .closed), p, w)
  /-- A checkout ends: its entries are taken out of the two tables, and its connection is
  shut. -/
  | tracked {h g : Handle C} {key : Option Key} {force : Bool} {k : Key} {result : Except ε Bool}
      {w' : W} (hheld : p.held.get? k = some g) (hsame : g.isSame h = true)
      (hkey : key = none ∨ key = some k) (hborrower : p.borrower.get? h.id = some k)
      (hshut : d.ShutDown h.conn w (result, w')) :
      Late d p w (.release h key force) (.released (.ok ()), p.checkIn k h, w')
  /-- The connection is not checked out, or not under that key. -/
  | untracked {h : Handle C} {key : Option Key} {force : Bool}
      (hnone : ¬∃ k g, p.held.get? k = some g ∧ g.isSame h = true ∧ (key = none ∨ key = some k)) :
      Late d p w (.release h key force) (.released (.ok ()), p, w)
  /-- Nothing is evicted. -/
  | prune : Late d p w .prune (.pruned ⟨0, []⟩, p, w)
  /-- The connections the pool owns are closed again, as far as they are open. -/
  | closeAll {attempts : CloseAttempts ε} {w' : W}
      (hclose : d.closeEach p.toClose w = (attempts, w')) :
      Late d p w .closeAll (.closed ⟨attempts.closed, attempts.failures⟩, p, w')

/-- A release that names a key, or none, for a connection that is held under one finds that
checkout. -/
theorem Consistent.checkout?_eq_some_iff {p : Pool C} (hp : p.Consistent) {h : Handle C}
    {key : Option Key} {k : Key} : p.checkout? h key = some k ↔
      ∃ g, p.held.get? k = some g ∧ g.isSame h = true ∧ (key = none ∨ key = some k) := by
  rw [Pool.checkout?_eq_some_iff]
  constructor
  · rintro ⟨hkey, g, hheld, hid, hconn⟩
    refine ⟨g, hheld, Handle.isSame_iff.mpr ⟨hid, hconn⟩, ?_⟩
    cases key with
    | none => exact Or.inl rfl
    | some l => exact Or.inr hkey
  · rintro ⟨g, hheld, hsame, hkey⟩
    obtain ⟨hid, hconn⟩ := Handle.isSame_iff.mp hsame
    refine ⟨?_, g, hheld, hid, hconn⟩
    rcases hkey with rfl | rfl
    · exact hid ▸ hp.remembered hheld
    · rfl

/-- **A closed pool answers every request late.** -/
theorem Consistent.late {p : Pool C} (hp : p.Consistent) (hclosed : p.closed = true)
    (r : Request (Handle C)) (w : W) : Late d p w r (p.serve d r w) := by
  cases r with
  | acquire key =>
    have hsame : p.acquire d key w = (.error .closed, p, w) := by rw [acquire, if_pos hclosed]
    rw [serve, hsame]
    exact .acquire
  | release h key force =>
    have hend := released d h key force p w
    rw [serve]
    generalize p.release d h key force w = result at hend ⊢
    cases hend with
    | unknown hnone =>
      rw [if_pos hclosed]
      refine .untracked ?_
      rintro ⟨k, hk⟩
      cases hnone.symm.trans (hp.checkout?_eq_some_iff.mpr hk)
    | late hk hs _ =>
      obtain ⟨g, hheld, hsame, hkey⟩ := hp.checkout?_eq_some_iff.mp hk
      have hid : g.id = h.id := (Handle.isSame_iff.mp hsame).1
      rw [hs.eq_of_closed hclosed]
      exact .tracked hheld hsame hkey (hid ▸ hp.remembered hheld) (d.shutDown h.conn w)
    | ended _ _ hopen => cases hclosed.symm.trans hopen
  | prune =>
    have hsame : p.prune d w = (⟨0, []⟩, p, w) := by rw [prune, hclosed, Bool.true_or, if_pos rfl]
    rw [serve, hsame]
    exact .prune
  | closeAll =>
    have hsame : p.closeAll d w = (⟨(d.closeEach p.toClose w).1.closed,
        (d.closeEach p.toClose w).1.failures⟩, p, (d.closeEach p.toClose w).2) :=
      congrArg (fun q => (_, q, _)) (mark_closed hclosed)
    rw [serve, hsame]
    exact .closeAll rfl

/-! ### Runs -/

variable {env : W → W → Prop} {config : Config} {w₀ : W}

open Driver (Call NoneAttempted)

/-- A run from a closed pool on makes it dwindle and opens nothing. -/
theorem Run.dwindled {p : Pool C} {u : W × List (Call C ε)}
    {hist : List (Moment (W × List (Call C ε)) C)} {s : Pool C × W × List (Call C ε)}
    (h : Run d.logged (silently env) (p, u) hist s) (hclosed : p.closed = true) :
    Dwindled p s.1 ∧ NoneAttempted u s.2 := by
  refine h.invariant (I := fun s => Dwindled p s.1 ∧ NoneAttempted u s.2) ?_ ?_ ?_
  · rintro q v v' ⟨_, hlog⟩ ⟨hq, hv⟩
    exact ⟨hq, hv.trans ⟨[], by rw [hlog, List.append_nil], fun _ => List.not_mem_nil⟩⟩
  · intro m _ hm
    refine serve_invariant (I := fun s => Dwindled p s.1 ∧ NoneAttempted u s.2) ?_ hm
    rintro s s' hstep ⟨hs, hu⟩
    obtain ⟨hdwindled, hworld⟩ := hstep.dwindled hs.closed
    refine ⟨hs.trans hdwindled, ?_⟩
    rcases hworld with hsame | ⟨c, hshut⟩
    · exact hsame ▸ hu
    · rw [hshut]
      exact hu.trans (d.along_noneAttempted.shut rfl)
  · exact ⟨.refl hclosed, .refl u⟩

/-- **A closed pool is closed for good.** Once closed, it can only dwindle: it stays closed,
its idle stack and its counters stand still, and its tables lose entries at most. It never
attempts to open a connection again. And every request of a run from there on comes to
nothing, except for a release that ends a checkout and another closing. -/
theorem closed_for_good {past hist : List (Moment (W × List (Call C ε)) C)} {p q : Pool C}
    {u v : W × List (Call C ε)}
    (h : Reached d.logged (silently env) config (w₀, []) past (p, u)) (hclosed : p.closed = true)
    (hrun : Run d.logged (silently env) (p, u) hist (q, v)) :
    Dwindled p q ∧ NoneAttempted u v ∧
      ∀ m ∈ hist, Late d.logged m.pool m.world m.request
        (m.pool.serve d.logged m.request m.world) := by
  obtain ⟨hq, hv⟩ := hrun.dwindled hclosed
  refine ⟨hq, hv, fun m hm => ?_⟩
  obtain ⟨between, _, hbetween⟩ := hrun.of_mem hm
  have hlate : m.pool.closed = true := (hbetween.dwindled hclosed).1.closed
  have hconsistent : m.pool.Consistent := by
    -- a run from a state that has been reached goes on with what led there
    refine hbetween.invariant (I := fun s => s.1.Consistent) (fun _ _ _ _ hp => hp) ?_ h.consistent
    intro m _ hp
    exact serve_invariant (I := fun s => s.1.Consistent) (fun _ _ hstep => hstep.consistent) hp
  exact hconsistent.late hlate m.request m.world

/-- A pool is closed while two connections are checked out. A borrower asks for its key in
vain; then one connection comes back, and a second time. The other is still there in the
end, and no connection has been opened in place of the first. -/
theorem closed_for_good_with_late_releases :
    ∃ past p u hist q v, Reached (World.driver 0 .manual).logged (silently fun _ _ => True)
        { minConnections := 2, maxConnections := 3 } ({}, []) past (p, u) ∧
      p.closed = true ∧ p.held.size = 2 ∧
      Run (World.driver 0 .manual).logged (silently fun _ _ => True) (p, u) hist (q, v) ∧
      hist.map Moment.request = [.closeAll, .release ⟨1, 1, Instant.start⟩ none false,
        .release ⟨1, 1, Instant.start⟩ none false, .prune, .acquire (some (.named "a"))] ∧
      Dwindled p q ∧ q.held.size = 1 ∧ NoneAttempted u v := by
  have h : Reached (World.driver 0 .manual).logged (silently fun _ _ => True)
      { minConnections := 2, maxConnections := 3 } ({}, []) _ (_, _) :=
    ⟨_, _, rfl, ((Run.start.serve (.acquire (some (.named "a")))).serve (.acquire none)).serve
      .closeAll⟩
  have hrun := fun s => (((((Run.start :
      Run (World.driver 0 .manual).logged (silently fun _ _ => True) s [] s).serve
    (.acquire (some (.named "a")))).serve .prune).serve
    (.release ⟨1, 1, Instant.start⟩ none false)).serve
    (.release ⟨1, 1, Instant.start⟩ none false)).serve .closeAll
  obtain ⟨hdwindled, hnone, _⟩ := closed_for_good h rfl (hrun _)
  exact ⟨_, _, _, _, _, _, h, rfl, rfl, hrun _, rfl, hdwindled, rfl, hnone⟩

end Pool

end ConnPool
