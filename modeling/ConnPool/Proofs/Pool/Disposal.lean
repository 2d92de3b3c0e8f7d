import ConnPool.Proofs.Pool.Calls
import ConnPool.Proofs.Pool.Names
import ConnPool.Proofs.Pool.Returns
import ConnPool.Proofs.Simulation.Restoring

/-!
# What becomes of a connection that comes back

When a checkout ends, its connection is kept or got rid of. Which of the two depends on the
borrower, on the settings, on how many connections are idle and on the state of the connection
itself, and `ConnPool.Pool.Keeps` lists these conditions. A connection that is kept goes on top of
the idle stack, with a stamp. Then the pool is filled up, and what is opened goes on top of that
(`ConnPool.Pool.FilledUp`). Nothing else changes in the books of the pool, except that the
checkout is over.

The main statement, `ConnPool.Pool.taken_back`, also says in which state the connection is in the
end. It is closed if it has not been kept, and ready to be lent again if it has – provided that
closes close and that rollbacks restore connections. Filling up comes last, and has to be shown
not to interfere.
-/

namespace ConnPool

namespace Pool

open Relation (ReflTransGen)

variable {W C ε : Type} {d : Driver W C ε} {p q : Pool C} {w : W} {h : Handle C} {force : Bool}

/-! ### Filling up -/

/-- **A pool has been filled up** with `new` connections. They are on top of the idle stack, and
their numbers have not been given away before; the rest of the books is as it was. -/
structure FilledUp (new : List (Handle C)) (p q : Pool C) : Prop where
  idle_eq : q.idle = new ++ p.idle
  unused : ∀ g ∈ new, p.nextId ≤ g.id
  nextId_le : p.nextId ≤ q.nextId
  stamps_eq : ∀ id < p.nextId, q.idleSince? id = p.idleSince? id
  held_eq : q.held = p.held
  borrower_eq : q.borrower = p.borrower

theorem FilledUp.refl (p : Pool C) : FilledUp [] p p :=
  ⟨rfl, fun _ hg => absurd hg List.not_mem_nil, Nat.le_refl _, fun _ _ => rfl, rfl, rfl⟩

theorem FilledUp.trans {new new' : List (Handle C)} {r : Pool C} (hq : FilledUp new p q)
    (hr : FilledUp new' q r) : FilledUp (new' ++ new) p r where
  idle_eq := by rw [hr.idle_eq, hq.idle_eq, List.append_assoc]
  unused g hg := by
    rcases List.mem_append.mp hg with hg | hg
    · exact Nat.le_trans hq.nextId_le (hr.unused g hg)
    · exact hq.unused g hg
  nextId_le := Nat.le_trans hq.nextId_le hr.nextId_le
  stamps_eq id hid :=
    (hr.stamps_eq id (Nat.lt_of_lt_of_le hid hq.nextId_le)).trans (hq.stamps_eq id hid)
  held_eq := hr.held_eq.trans hq.held_eq
  borrower_eq := hr.borrower_eq.trans hq.borrower_eq

theorem Opens.filledUp {s s' : Pool C × W} (hstep : Opens d s s') :
    ∃ new, FilledUp new s.1 s'.1 := by
  cases hstep with
  | failed _ _ _ => exact ⟨[], .refl _⟩
  | @added p _ _ _ _ conn now _ _ _ _ _ _ =>
    refine ⟨[⟨p.nextId, conn, now⟩], rfl, fun g hg => ?_, Nat.le_succ _, fun id hid => ?_, rfl, rfl⟩
    · exact Nat.le_of_eq (by rw [List.mem_singleton.mp hg])
    · exact (Table.get?_insert _ _ _ _).trans (if_neg (Nat.ne_of_lt hid))

theorem opens_filledUp {s s' : Pool C × W} (h : ReflTransGen (Opens d) s s') :
    ∃ new, FilledUp new s.1 s'.1 := by
  refine steps_invariant (I := fun t => ∃ new, FilledUp new s.1 t.1) ?_ h ⟨[], .refl _⟩
  rintro t t' hopens ⟨_, hfilled⟩
  obtain ⟨_, hstep⟩ := hopens.filledUp
  exact ⟨_, hfilled.trans hstep⟩

/-- What is loose stays so. -/
theorem opens_loose {s s' : Pool C × W} (h : ReflTransGen (Opens d) s s') {id : ConnId}
    (hl : s.1.Loose id) : s'.1.Loose id :=
  steps_invariant (I := fun s => s.1.Loose id) (fun _ _ hstep => hstep.loose) h hl

/-- **Filling up makes no connection less ready.** -/
theorem opens_ready {serves : W → Prop} {restorable : C → W → Prop}
    (hd : d.Restores serves restorable) {s s' : Pool C × W} (h : ReflTransGen (Opens d) s s')
    {c : C} (hc : restorable c s.2) (hready : d.Ready c s.2) : d.Ready c s'.2 := by
  -- that it can be restored is what a connection must not lose on the way
  refine (steps_invariant (I := fun s => restorable c s.2 ∧ d.Ready c s.2) ?_ h ⟨hc, hready⟩).2
  rintro t t' hopens ⟨hc, hready⟩
  cases hopens with
  | failed _ _ hconnect =>
    exact ⟨(hd.connect hconnect).2 c hc, hd.ready_connect hc hready hconnect⟩
  | added _ _ hconnect hnow hsince =>
    have hread := (hd.connect hconnect).trans ((hd.now hnow).trans (hd.now hsince))
    refine ⟨hread.2 c hc, (hd.alike_now hsince).ready ?_⟩
    exact (hd.alike_now hnow).ready (hd.ready_connect hc hready hconnect)

/-- Filling up opens no connection again that has been closed. -/
theorem opens_closed {later : W → W → Prop} {known : C → W → Prop}
    (hd : d.ClosesForGood later known) {s s' : Pool C × W} (h : ReflTransGen (Opens d) s s') {c : C}
    (hc : known c s.2) (hclosed : d.Closed c s.2) : d.Closed c s'.2 :=
  hd.closed_of_later (opens_follows h (hd.toAlong.follows hd.connect)) hc hclosed

/-! ### Keeping a connection -/

/-- **A pool keeps a connection that comes back.** -/
structure Keeps (d : Driver W C ε) (p : Pool C) (w : W) (h : Handle C) (force : Bool) : Prop where
  /-- The pool is open. -/
  isOpen : p.closed = false
  /-- The borrower has not asked for the connection to be closed. -/
  unforced : force = false
  /-- It is not the case that the pool does not evict and has all the idle connections it
  keeps. -/
  wanted : ¬(p.config.evictsIdle = false ∧ p.config.floor ≤ p.idle.length)
  /-- The connection passes the recycle check. -/
  passes : (d.recycle h.conn w).1.isReusable = true

/-- The first three conditions are those for the check to be made at all. -/
theorem keeps_iff : Keeps d p w h force ↔
    (force || p.closed || p.hasSurplus) = false ∧ (d.recycle h.conn w).1.isReusable = true := by
  have hsurplus : p.hasSurplus = false ↔
      ¬(p.config.evictsIdle = false ∧ p.config.floor ≤ p.idle.length) := by
    rw [← Bool.not_eq_true, hasSurplus, Bool.and_eq_true, Bool.not_eq_true', decide_eq_true_eq]
  rw [Bool.or_eq_false_iff, Bool.or_eq_false_iff, hsurplus]
  constructor
  · intro hkeeps
    exact ⟨⟨⟨hkeeps.unforced, hkeeps.isOpen⟩, hkeeps.wanted⟩, hkeeps.passes⟩
  · rintro ⟨⟨⟨hforce, hopen⟩, hwanted⟩, hpasses⟩
    exact ⟨hopen, hforce, hwanted, hpasses⟩

/-- Whether to keep it does not depend on who holds what. -/
theorem keeps_checkIn (k : Key) (g : Handle C) :
    Keeps d (p.checkIn k g) w h force ↔ Keeps d p w h force :=
  (keeps_iff (p := p.checkIn k g)).trans (keeps_iff (p := p)).symm

/-- **A connection is kept and stamped, or the pool does without it.** -/
theorem Disposed.keeps_or_not {s : Pool C × W} (hs : Disposed d h force (p, w) s) :
    (Keeps d p w h force ∧ s.1 = p.stack h (d.now (d.recycle h.conn w).2).1) ∨
      (¬Keeps d p w h force ∧ s.1 = p) := by
  rw [keeps_iff]
  cases hs with
  | letGo hunwanted =>
    refine Or.inr ⟨fun hk => ?_, rfl⟩
    cases hunwanted.symm.trans hk.1
  | rejected _ hcheck hbad =>
    refine Or.inr ⟨fun hk => ?_, rfl⟩
    rw [hcheck, hbad] at hk
    cases hk.2
  | shelved hwanted hcheck hgood hnow =>
    refine Or.inl ⟨⟨hwanted, ?_⟩, ?_⟩
    · rw [hcheck, hgood]
    · rw [hcheck, hnow]

/-- No key is forgotten on the occasion. -/
theorem Disposed.borrower_eq {s s' : Pool C × W} (hs : Disposed d h force s s') :
    s'.1.borrower = s.1.borrower := by
  cases hs <;> rfl

/-- No number is given away. -/
theorem Disposed.nextId_eq {s s' : Pool C × W} (hs : Disposed d h force s s') :
    s'.1.nextId = s.1.nextId := by
  cases hs <;> rfl

/-- No other connection is stamped. -/
theorem Disposed.idleSince?_eq {s s' : Pool C × W} (hs : Disposed d h force s s') {id : ConnId}
    (hne : id ≠ h.id) : s'.1.idleSince? id = s.1.idleSince? id := by
  cases hs with
  | letGo _ => rfl
  | rejected _ _ _ => rfl
  | shelved _ _ _ _ => exact (Table.get?_insert _ _ _ _).trans (if_neg hne)

/-- **What the pool does without has been closed.** -/
theorem Disposed.closed_of_not_keeps {later : W → W → Prop} {known : C → W → Prop}
    (hd : d.ClosesForGood later known) {s : Pool C × W} (hs : Disposed d h force (p, w) s)
    (hc : known h.conn w) (hnot : ¬Keeps d p w h force) : d.Closed h.conn s.2 := by
  cases hs with
  | letGo _ => exact hd.closed_of_shut hc rfl
  | rejected _ hcheck hbad => exact hd.closed_of_recycle hc hcheck hbad
  | shelved hwanted hcheck hgood _ =>
    refine absurd (keeps_iff.mpr ⟨hwanted, ?_⟩) hnot
    rw [hcheck, hgood]

/-- **What it keeps is ready.** -/
theorem Disposed.ready_of_keeps {serves : W → Prop} {restorable : C → W → Prop}
    (hd : d.Restores serves restorable) {s : Pool C × W} (hs : Disposed d h force (p, w) s)
    (hc : restorable h.conn w) (hkeeps : Keeps d p w h force) :
    restorable h.conn s.2 ∧ d.Ready h.conn s.2 := by
  obtain ⟨hwanted, hgood⟩ := keeps_iff.mp hkeeps
  cases hs with
  | letGo hunwanted => cases hunwanted.symm.trans hwanted
  | rejected _ hcheck hbad =>
    rw [hcheck, hbad] at hgood
    cases hgood
  | shelved _ hcheck hgood hnow =>
    refine ⟨(hd.now hnow).2 _ ((hd.toAlong.recycle hcheck).2 _ hc), ?_⟩
    exact (hd.alike_now hnow).ready (hd.recycle hc hcheck hgood)

/-! ### Main statement -/

variable [DecidableEq C] {env : W → W → Prop} {config : Config} {w₀ v : W}
  {hist : List (Moment W C)} {key : Option Key} {k : Key}

/-- **A connection has been taken back** that was checked out under a key. -/
structure TakenBack (d : Driver W C ε) (p : Pool C) (w : W) (h : Handle C) (force : Bool) (k : Key)
    (q : Pool C) (v : W) : Prop where
  /-- The connection was held under the key. -/
  was_held : ∃ g, p.held.get? k = some g ∧ g.isSame h = true
  /-- The key was remembered for it. -/
  was_remembered : p.borrower.get? h.id = some k
  /-- Nothing is held under the key any more, and the other keys hold what they held. -/
  held_eq : q.held = p.held.erase k
  /-- No key is remembered for the connection, and the others are remembered as they were. -/
  borrower_eq : q.borrower = p.borrower.erase h.id
  /-- The idle stack is the one of before. The connection is on top of it if it has been kept, and
  any connections that have just been opened are on top of that. -/
  idle : ∃ new, (∀ g ∈ new, p.nextId ≤ g.id) ∧
    ((Keeps d p w h force ∧ q.idle = new ++ h :: p.idle) ∨
      (¬Keeps d p w h force ∧ q.idle = new ++ p.idle))
  /-- What was idle before has kept its stamp. -/
  stamps_eq : ∀ g ∈ p.idle, q.idleSince? g.id = p.idleSince? g.id
  /-- If the connection is kept, it is stamped with the reading of the clock after the check. -/
  stamped : Keeps d p w h force → q.idleSince? h.id = some (d.now (d.recycle h.conn w).2).1
  /-- If it is not kept, it is neither idle nor checked out. -/
  loose : ¬Keeps d p w h force → q.Loose h.id
  /-- It is closed then, if closes close. -/
  closed : ¬Keeps d p w h force → ∀ later known, d.ClosesForGood later known →
    known h.conn w → d.Closed h.conn v
  /-- If it is kept, it is open and idle, if rollbacks restore connections. -/
  ready : Keeps d p w h force → ∀ serves restorable, d.Restores serves restorable →
    restorable h.conn w → d.Ready h.conn v

/-- Whatever has become of the connection, and after filling up, it has been taken back. -/
theorem Consistent.takenBack (hp : p.Consistent) (hk : p.checkout? h key = some k) {s : Pool C × W}
    (hs : Disposed d h force (p.checkIn k h, w) s) (hopens : ReflTransGen (Opens d) s (q, v)) :
    TakenBack d p w h force k q v := by
  obtain ⟨g, hheld, hsame, _⟩ := hp.checkout?_eq_some_iff.mp hk
  obtain ⟨new, hnew⟩ := opens_filledUp hopens
  have hloose : (p.checkIn k h).Loose h.id := (hp.checkIn hk).2
  have hid : h.id ∉ p.idle.map Handle.id := hloose.not_idle
  have hnextId : s.1.nextId = p.nextId := hs.nextId_eq
  have hcases := hs.keeps_or_not
  rw [keeps_checkIn] at hcases
  refine
    { was_held := ⟨g, hheld, hsame⟩
      was_remembered := (Handle.isSame_iff.mp hsame).1 ▸ hp.remembered hheld
      held_eq := hnew.held_eq.trans hs.held_eq
      borrower_eq := hnew.borrower_eq.trans hs.borrower_eq
      idle := ⟨new, hnextId ▸ hnew.unused, ?idle⟩
      stamps_eq := ?stamps_eq
      stamped := ?stamped
      loose := ?loose
      closed := ?closed
      ready := ?ready }
  case idle =>
    rw [hnew.idle_eq]
    rcases hcases with ⟨hkeeps, hs⟩ | ⟨hnot, hs⟩
    · exact Or.inl ⟨hkeeps, by rw [hs]; rfl⟩
    · exact Or.inr ⟨hnot, by rw [hs]; rfl⟩
  case stamps_eq =>
    intro f hf
    have hf : f.id ∈ p.idle.map Handle.id := List.mem_map_of_mem hf
    have hne : f.id ≠ h.id := fun hfh => hid (hfh ▸ hf)
    exact (hnew.stamps_eq _ (hnextId ▸ hp.idle_lt hf)).trans (hs.idleSince?_eq hne)
  case stamped =>
    intro hkeeps
    rw [hnew.stamps_eq _ (hnextId ▸ hloose.lt)]
    rcases hcases with ⟨_, hs⟩ | ⟨hnot, _⟩
    · rw [hs]
      exact (Table.get?_insert _ _ _ _).trans (if_pos rfl)
    · exact absurd hkeeps hnot
  case loose =>
    intro hnot
    rcases hcases with ⟨hkeeps, _⟩ | ⟨_, hs⟩
    · exact absurd hkeeps hnot
    · exact opens_loose hopens (hs ▸ hloose)
  case closed =>
    intro hnot later known hd hc
    have hc' : known h.conn s.2 :=
      hd.known_of_later (hs.follows (hd.toAlong.follows hd.connect)) hc
    have hclosed := hs.closed_of_not_keeps hd hc (mt (keeps_checkIn k h).mp hnot)
    exact opens_closed hd hopens hc' hclosed
  case ready =>
    intro hkeeps serves restorable hd hc
    obtain ⟨hc', hready⟩ := hs.ready_of_keeps hd hc ((keeps_checkIn k h).mpr hkeeps)
    exact opens_ready hd hopens hc' hready

/-- **Every release that takes effect is accepted, and takes the connection back**: its checkout
is over, it is kept or not, and nothing else happens, whatever the driver reports. -/
theorem taken_back (hreached : Reached d env config w₀ hist (p, w)) (h : Handle C)
    (key : Option Key) (force : Bool) (k : Key)
    (hend : EndsCheckout d p w (.release h key force) k) :
    (p.release d h key force w).1 = .ok () ∧
      TakenBack d p w h force k (p.release d h key force w).2.1
        (p.release d h key force w).2.2 := by
  have hp : p.Consistent := hreached.consistent
  have hk := endsCheckout_release_iff.mp hend
  refine ⟨release_eq_ok hk, ?_⟩
  have hend := released d h key force p w
  generalize p.release d h key force w = result at hend ⊢
  rcases hend with hnone | ⟨hk', hs, _⟩ | ⟨hk', hs, hopen⟩
  · cases hnone.symm.trans hk
  · cases hk'.symm.trans hk
    exact hp.takenBack hk hs .refl
  · cases hk'.symm.trans hk
    exact hp.takenBack hk hs (refill_opens d (hs.closed_eq.trans hopen))

/-- A pool has lent two connections and lost one of them while the factory was down. The other one
comes back in a transaction. It is rolled back and kept, above the connection that is still idle
and below the one that is opened, now that the factory is up again. -/
theorem taken_back_in_transaction :
    ∃ hist p w q v, Reached (World.driver 0 .manual) (fun _ _ => True)
        { minConnections := 3, maxConnections := 4 } {} hist (p, w) ∧ p.idleIds = [0] ∧
      EndsCheckout (World.driver 0 .manual) p w (.release ⟨2, 2, Instant.start⟩ none false)
        (.named "a") ∧
      (World.driver 0 .manual).status 2 w = (.inTransaction, w) ∧
      p.release (World.driver 0 .manual) ⟨2, 2, Instant.start⟩ none false w = (.ok (), q, v) ∧
      TakenBack (World.driver 0 .manual) p w ⟨2, 2, Instant.start⟩ false (.named "a") q v ∧
      q.idleIds = [0, 2, 3] ∧ q.idleSince? 2 = some w.manual ∧ q.idleSince? 0 = p.idleSince? 0 ∧
      (World.driver 0 .manual).Ready 2 v := by
  have h : Reached (World.driver 0 .manual) (fun _ _ => True)
      { minConnections := 3, maxConnections := 4 } {} _ (_, _) :=
    ⟨_, _, rfl, ((((Run.start.serve (.acquire (some (.named "a")))).serve (.acquire none)).drift
      (w := { backends := [{ attempts := 3, opened := 3, refuseAll := true }]
              conns := [.born 0 1 {}, .born 0 2 {}, .born 0 3 {}] }) trivial).serve
      (.release ⟨1, 1, Instant.start⟩ none true)).drift
      (w := { backends := [{ attempts := 4, opened := 3, closed := 1, closeLog := [2] }]
              conns := [.born 0 1 {}, { SimConn.born 0 2 {} with closed := true, closes := 1 },
                { SimConn.born 0 3 {} with status := .inTransaction }]
              manual := Instant.start + (⟨5⟩ : Duration) }) trivial⟩
  obtain ⟨hok, hback⟩ := taken_back h ⟨2, 2, Instant.start⟩ none false (.named "a")
    (endsCheckout_release_iff.mpr rfl)
  refine ⟨_, _, _, _, _, h, rfl, endsCheckout_release_iff.mpr ?found, rfl, Prod.ext hok rfl,
    hback, rfl, ?stamped, hback.stamps_eq ⟨0, 0, Instant.start⟩ List.mem_cons_self, ?_⟩
  case found => rfl
  case stamped => exact hback.stamped (keeps_iff.mpr ⟨rfl, rfl⟩)
  exact hback.ready (keeps_iff.mpr ⟨rfl, rfl⟩) _ _ (World.driver_restores 0 .manual)
    ⟨_, rfl, by decide⟩

end Pool

end ConnPool
