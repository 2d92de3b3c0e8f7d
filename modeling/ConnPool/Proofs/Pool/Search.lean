import ConnPool.Proofs.Pool.Ownership
import ConnPool.Proofs.Pool.Permits
import ConnPool.Proofs.Recycling
import ConnPool.Proofs.Simulation.Restoring

/-!
# Which connection is reused

A borrower who has no connection yet gets the one that was put on the idle stack last, if it can
still be used. It may have been closed by the server in the meantime, or left in a transaction
that cannot be rolled back, and so may any number of those below it. So the search goes down the
stack until a connection passes the recycle check. Everything above that one is lost, and
everything below it is left as it is.

`ConnPool.Pool.acquire_of_nonePasses` is what one has to know about the search: as long as no
connection passes, a pool behaves as if they had been checked and taken off the stack
(`ConnPool.Pool.unstackAll`) beforehand. What remains are two simple cases. The connection on
top is fit to be used, and it is the answer (`ConnPool.Pool.Reuses`); or the stack is empty, and
the factory is the last resort (`ConnPool.Pool.RunsDry`).
-/

namespace ConnPool

namespace Pool

open Driver (Call)

variable {W C ε : Type} {d : Driver W C ε} {p q : Pool C} {w : W} {key : Option Key}
  {above below : List (Handle C)} {g : Handle C}

/-! ### Taking connections off the stack -/

/-- Takes connections off the idle stack, together with their stamps; `rest` is what is left of
the stack. -/
def unstackAll (p : Pool C) (gone rest : List (Handle C)) : Pool C :=
  { p with idle := rest, stamps := p.stamps.eraseAll (gone.map Handle.id) }

theorem unstackAll_nil (hidle : p.idle = below) : p.unstackAll [] below = p := by
  rw [unstackAll, List.map_nil, Table.eraseAll_nil, ← hidle]

/-- One connection at a time. -/
theorem unstack_eq_unstackAll (p : Pool C) (g : Handle C) (rest : List (Handle C)) :
    p.unstack g rest = p.unstackAll [g] rest := by
  rw [unstack, unstackAll, Table.erase_eq_eraseAll, List.map_singleton]

theorem unstackAll_unstackAll (p : Pool C) (gone gone' rest rest' : List (Handle C)) :
    (p.unstackAll gone rest).unstackAll gone' rest' = p.unstackAll (gone ++ gone') rest' := by
  simp only [unstackAll, Table.eraseAll_eraseAll, List.map_append]

/-- The connections that are taken off have no stamp any more. -/
theorem idleSince?_unstackAll_of_mem {gone : List (Handle C)} (hg : g ∈ gone)
    (rest : List (Handle C)) : (p.unstackAll gone rest).idleSince? g.id = none := by
  rw [idleSince?, unstackAll, Table.get?_eraseAll, if_pos (List.mem_map_of_mem hg)]

/-- **The connections that are left keep theirs**, since no two have one number. -/
theorem Consistent.idleSince?_unstackAll (hp : p.Consistent) {gone : List (Handle C)}
    (hidle : p.idle = gone ++ below) {h : Handle C} (hh : h ∈ below) :
    (p.unstackAll gone below).idleSince? h.id = p.idleSince? h.id := by
  have hnodup := hp.idle_nodup
  rw [hidle, List.map_append, List.nodup_append] at hnodup
  have hnot : h.id ∉ gone.map Handle.id := fun hgone =>
    hnodup.2.2 _ hgone _ (List.mem_map_of_mem hh) rfl
  rw [idleSince?, unstackAll, Table.get?_eraseAll, if_neg hnot, idleSince?]

/-- Once all are taken off, there is no stamp left. -/
theorem Consistent.stamps_unstackAll (hp : p.Consistent) (id : ConnId) :
    (p.unstackAll p.idle []).idleSince? id = none := by
  rw [idleSince?, unstackAll, Table.get?_eraseAll]
  by_cases hid : id ∈ p.idle.map Handle.id
  · rw [if_pos hid]
  · rw [if_neg hid, ← Option.not_isSome_iff_eq_none, hp.stamped]
    exact hid

/-! ### Passing connections over -/

/-- The search goes on in the pool without the connections that have failed. -/
theorem reuse_of_nonePasses (hidle : p.idle = above ++ below) (hnone : d.NonePasses above w) :
    p.reuse d w = (p.unstackAll above below).reuse d (d.recycleEach above w).2 := by
  induction above generalizing p w with
  | nil =>
    rw [List.nil_append] at hidle
    rw [unstackAll_nil hidle, Driver.recycleEach_nil]
  | cons h above ih =>
    obtain ⟨hbad, hnone⟩ := Driver.nonePasses_cons_iff.mp hnone
    have hstep : p.reuse d w = (p.unstack h (above ++ below)).reuse d (d.recycle h.conn w).2 := by
      rw [reuse, hidle, List.cons_append, reuseFrom]
      simp only [hbad, Bool.false_eq_true, if_false]
      rfl
    rw [hstep, ih rfl hnone, unstack_eq_unstackAll, unstackAll_unstackAll, Driver.recycleEach_cons]
    rfl

/-- **Connections that fail are as good as gone**: a borrower is served as if they had been
checked, and taken off the stack, before the borrower came. -/
theorem acquire_of_nonePasses (hopen : p.closed = false) (hfree : key.bind p.held.get? = none)
    (hidle : p.idle = above ++ below) (hnone : d.NonePasses above w) :
    p.acquire d key w = (p.unstackAll above below).acquire d key (d.recycleEach above w).2 := by
  have hfree' : key.bind (p.unstackAll above below).held.get? = none := hfree
  have hopen' : (p.unstackAll above below).closed = false := hopen
  simp only [acquire, hopen, hopen', hfree, hfree', reuse_of_nonePasses hidle hnone,
    Bool.false_eq_true, if_false]

/-- If the connection on top passes, it is the answer. -/
theorem acquire_of_top (hopen : p.closed = false) (hfree : key.bind p.held.get? = none)
    (hidle : p.idle = g :: below) (hgood : (d.recycle g.conn w).1.isReusable = true) :
    p.acquire d key w = (.ok g, (p.unstack g below).checkOut key g, (d.recycle g.conn w).2) := by
  have hreuse : p.reuse d w = (some g, p.unstack g below, (d.recycle g.conn w).2) := by
    rw [reuse, hidle, reuseFrom]
    simp only [hgood, if_true]
  simp only [acquire, hopen, hfree, hreuse, Bool.false_eq_true, if_false]

/-- **The first connection that passes is the answer.** -/
theorem acquire_of_first (hopen : p.closed = false) (hfree : key.bind p.held.get? = none)
    (hidle : p.idle = above ++ g :: below) (hnone : d.NonePasses above w)
    (hpass : d.PassesAfter above g w) :
    p.acquire d key w = (.ok g, (p.unstackAll (above ++ [g]) below).checkOut key g,
      (d.recycleEach (above ++ [g]) w).2) := by
  rw [acquire_of_nonePasses hopen hfree hidle hnone,
    acquire_of_top (p := p.unstackAll above (g :: below)) hopen hfree rfl hpass,
    unstack_eq_unstackAll, unstackAll_unstackAll, Driver.recycleEach_concat]

/-! ### The last resort -/

/-- **What remains when nothing is idle**: the answer, the pool and the world after it, and the
attempts to open a connection, of which there is one at most. -/
inductive LastResort (d : Driver W C ε) (key : Option Key) (q : Pool C) (v : W) :
    Except (Refusal ε) (Handle C) × Pool C × W → List (Call C ε) → Prop
  /-- As many are checked out as the capacity allows. -/
  | exhausted (hfull : q.config.capacity ≤ q.held.size) :
      LastResort d key q v (.error (.exhausted q.config.maxConnections), q, v) []
  /-- The factory fails. -/
  | failed {v' : W} {e : ε} (hroom : q.held.size < q.config.capacity)
      (hconnect : d.connect v = (.error e, v')) :
      LastResort d key q v (.error (.factory e), q, v') [.connect (.error e)]
  /-- A connection is opened. -/
  | opened {v₁ v₂ : W} {conn : C} {now : Instant} (hroom : q.held.size < q.config.capacity)
      (hconnect : d.connect v = (.ok conn, v₁)) (hnow : d.now v₁ = (now, v₂)) :
      LastResort d key q v
        (.ok ⟨q.nextId, conn, now⟩, q.number.checkOut key ⟨q.nextId, conn, now⟩, v₂)
        [.connect (.ok conn)]

/-- A last resort leaves the stack as it is, and is one attempt at most. -/
theorem LastResort.idle_eq {v : W} {result : Except (Refusal ε) (Handle C) × Pool C × W}
    {attempts : List (Call C ε)} (h : LastResort d key q v result attempts) :
    result.2.1.idle = q.idle ∧ result.2.1.stamps = q.stamps ∧ attempts.length ≤ 1 := by
  cases h with
  | exhausted _ => exact ⟨rfl, rfl, Nat.zero_le 1⟩
  | failed _ _ => exact ⟨rfl, rfl, Nat.le_refl 1⟩
  | opened _ _ _ => exact ⟨rfl, rfl, Nat.le_refl 1⟩

/-- **A borrower who finds nothing idle** is served as a last resort, and the attempts that this
takes are logged. -/
theorem acquire_of_empty (hopen : q.closed = false) (hfree : key.bind q.held.get? = none)
    (hempty : q.idle = []) (v : W) (log : List (Call C ε)) :
    ∃ attempts, LastResort d key q v (q.acquire d key v) attempts ∧
      (q.acquire d.logged key (v, log)).2.2.2 = log ++ attempts := by
  have hreuse : ∀ {V : Type} (d' : Driver V C ε) (v' : V), q.reuse d' v' = (none, q, v') :=
    fun _ _ => by rw [reuse, hempty, reuseFrom]
  simp only [acquire, hopen, hfree, hreuse, Bool.false_eq_true, if_false]
  rcases Nat.lt_or_ge q.held.size q.config.capacity with hroom | hfull
  · simp only [Nat.not_le_of_lt hroom, if_false]
    obtain ⟨result, v₁, hconnect⟩ : ∃ result v₁, d.connect v = (result, v₁) := ⟨_, _, rfl⟩
    rcases result with e | conn
    · refine ⟨[.connect (.error e)], ?_, ?_⟩
      · simp only [connect, hconnect]
        exact .failed hroom hconnect
      · simp only [connect, Driver.logged, hconnect]
    · refine ⟨[.connect (.ok conn)], ?_, ?_⟩
      · simp only [connect, hconnect]
        exact .opened hroom hconnect rfl
      · simp only [connect, Driver.logged, hconnect]
  · refine ⟨[], ?_, ?_⟩
    · rw [if_pos hfull]
      exact .exhausted hfull
    · rw [if_pos hfull, List.append_nil]

/-! ### What is handed out is ready -/

/-- Losing idle connections goes along what every call does. -/
theorem drops_along {R : W → W → Prop} {s s' : Pool C × W} (hd : d.Along R)
    (h : Relation.ReflTransGen (Drop d) s s') : R s.2 s'.2 := by
  refine steps_invariant (I := fun t => R s.2 t.2) ?_ h (hd.refl _)
  rintro t t' ⟨_, hcheck, _⟩ ht
  exact hd.trans ht (hd.recycle hcheck)

/-- What is idle after some connections have been lost was idle before. -/
theorem mem_idle_of_drops {s s' : Pool C × W} (h : Relation.ReflTransGen (Drop d) s s')
    (hg : g ∈ s'.1.idle) : g ∈ s.1.idle := by
  refine steps_invariant (I := fun t => ∀ f ∈ t.1.idle, f ∈ s.1.idle) ?_ h (fun _ hf => hf) g hg
  rintro t t' ⟨htop, _, _⟩ ht f hf
  exact ht f (htop ▸ List.mem_cons_of_mem _ hf)

/-- **Where rollbacks restore connections, a borrower gets one that is ready**, unless it is one
that the borrower has already. -/
theorem ready_of_acquire {serves : W → Prop} {restorable : C → W → Prop}
    (hd : d.Restores serves restorable) (hserves : serves w)
    (hidle : ∀ h ∈ p.idle, restorable h.conn w) (hfree : key.bind p.held.get? = none)
    (hg : (p.acquire d key w).1 = .ok g) : d.Ready g.conn (p.acquire d key w).2.2 := by
  have hend := acquired d key p w
  generalize p.acquire d key w = result at hend hg ⊢
  rcases hend with _ | ⟨_, hheld⟩ | ⟨_, _, hdrops, htop, hcheck, hgood⟩ | _ | _ |
    ⟨_, _, hdrops, _, _, hconnect, hnow⟩
  · cases hg
  · cases hfree.symm.trans hheld
  · cases hg
    have htop' := mem_idle_of_drops hdrops (htop ▸ List.mem_cons_self)
    exact hd.recycle ((drops_along hd.toAlong hdrops).2 _ (hidle _ htop')) hcheck hgood
  · cases hg
  · cases hg
  · cases hg
    have hready := hd.ready_of_connect ((drops_along hd.toAlong hdrops).1 hserves) hconnect
    exact (hd.alike_now hnow).ready hready

/-! ### Main statement -/

variable [DecidableEq C] {env : W → W → Prop} {config : Config} {w₀ : W}
  {hist : List (Moment W C)}

/-- **An idle connection is reused**, and those above it on the stack are lost. -/
structure Reuses (d : Driver W C ε) (key : Option Key) (p : Pool C) (w : W)
    (above : List (Handle C)) (g : Handle C) (below : List (Handle C)) : Prop where
  /-- The connection is handed out. The stack is what was below it, and all that has been done to
  the world is to check the connections above it and then itself. -/
  eq : p.acquire d key w = (.ok g, (p.unstackAll (above ++ [g]) below).checkOut key g,
    (d.recycleEach (above ++ [g]) w).2)
  /-- What was below it has kept its stamps. -/
  kept : ∀ h ∈ below, (p.acquire d key w).2.1.idleSince? h.id = p.idleSince? h.id
  /-- What was above it has lost them, and so has the connection itself. -/
  gone : ∀ h ∈ above ++ [g], (p.acquire d key w).2.1.idleSince? h.id = none
  /-- Nothing has been called but what the checks demand. -/
  demanded : DemandEach (above ++ [g]) (d.recycleEach (above ++ [g]) w).1
    (p.calls d (.acquire key) w)

/-- **The idle connections run out**: all of them are lost, and the factory is the last
resort. -/
structure RunsDry (d : Driver W C ε) (key : Option Key) (p : Pool C) (w : W) : Prop where
  /-- Nothing is idle any more. -/
  idle_eq : (p.acquire d key w).2.1.idle = []
  /-- There is no stamp left. -/
  gone : ∀ id, (p.acquire d key w).2.1.idleSince? id = none
  /-- What the checks demand has been called, and then at most once for a connection. -/
  demanded : ∃ calls attempts, DemandEach p.idle (d.recycleEach p.idle w).1 calls ∧
    LastResort d key (p.unstackAll p.idle []) (d.recycleEach p.idle w).2 (p.acquire d key w)
      attempts ∧
    attempts.length ≤ 1 ∧ p.calls d (.acquire key) w = calls ++ attempts

/-- **The first connection that passes is reused.** -/
theorem Consistent.reuses (hp : p.Consistent) (hopen : p.closed = false)
    (hfree : key.bind p.held.get? = none) (hidle : p.idle = above ++ g :: below)
    (hnone : d.NonePasses above w) (hpass : d.PassesAfter above g w) :
    Reuses d key p w above g below := by
  have heq := acquire_of_first hopen hfree hidle hnone hpass
  have hidle' : p.idle = (above ++ [g]) ++ below := by
    rw [hidle, List.append_assoc, List.singleton_append]
  refine ⟨heq, fun h hh => ?_, fun h hh => ?_, ?_⟩
  · rw [heq]
    exact hp.idleSince?_unstackAll hidle' hh
  · rw [heq]
    exact idleSince?_unstackAll_of_mem hh below
  · -- the same equation for the driver with a log says what has been logged
    obtain ⟨calls, hcalls, hlog⟩ := d.recycleEach_logged (above ++ [g]) (w, [])
    have hlogged := acquire_of_first (d := d.logged) (w := (w, [])) hopen hfree hidle
      (d.nonePasses_logged.mpr hnone) (d.passesAfter_logged.mpr hpass)
    have : p.calls d (.acquire key) w = calls := by
      change (p.acquire d.logged key (w, [])).2.2.2 = calls
      rw [hlogged, hlog, List.nil_append]
    rwa [this]

/-- **If none passes, the idle connections run out.** -/
theorem Consistent.runsDry (hp : p.Consistent) (hopen : p.closed = false)
    (hfree : key.bind p.held.get? = none) (hnone : d.NonePasses p.idle w) :
    RunsDry d key p w := by
  have hidle : p.idle = p.idle ++ [] := (List.append_nil _).symm
  have heq := acquire_of_nonePasses hopen hfree hidle hnone
  obtain ⟨calls, hcalls, hlog⟩ := d.recycleEach_logged p.idle (w, [])
  obtain ⟨attempts, hlast, hattempts⟩ := acquire_of_empty (d := d)
    (q := p.unstackAll p.idle []) hopen hfree rfl (d.recycleEach p.idle w).2 calls
  rw [← heq] at hlast
  obtain ⟨hnothing, hstamps, hle⟩ := hlast.idle_eq
  refine ⟨hnothing, fun id => ?_, calls, attempts, hcalls, hlast, hle, ?_⟩
  · rw [idleSince?, hstamps]
    exact hp.stamps_unstackAll id
  · have hlogged := acquire_of_nonePasses (d := d.logged) (w := (w, [])) hopen hfree hidle
      (d.nonePasses_logged.mpr hnone)
    change (p.acquire d.logged key (w, [])).2.2.2 = calls ++ attempts
    rw [hlogged, hlog, List.nil_append]
    exact hattempts

/-- **A borrower gets the latest idle connection that can be used.** Of the idle connections of
an open pool, the latest first, either one is the first to pass the check, or none passes. In
the first case it is handed out to a borrower who has no connection yet; those above it are lost
and those below it left alone. In the second case all are lost, and there is at most one attempt
to open another. Where rollbacks restore connections and the factory delivers them ready for
use, the one that is handed out is open and idle, whatever has been done to it before. -/
theorem reuses_first_usable (hreached : Reached d env config w₀ hist (p, w))
    (hopen : p.closed = false) (key : Option Key)
    (hfree : ∀ k, key = some k → p.held.get? k = none) :
    ((∃ above g below, p.idle = above ++ g :: below ∧ d.NonePasses above w ∧
        d.PassesAfter above g w) ∨ d.NonePasses p.idle w) ∧
      (∀ above g below, p.idle = above ++ g :: below → d.NonePasses above w →
        d.PassesAfter above g w → Reuses d key p w above g below) ∧
      (d.NonePasses p.idle w → RunsDry d key p w) ∧
      ∀ serves restorable, d.Restores serves restorable → serves w →
        (∀ h ∈ p.idle, restorable h.conn w) → ∀ g, (p.acquire d key w).1 = .ok g →
          d.Ready g.conn (p.acquire d key w).2.2 := by
  have hp : p.Consistent := hreached.consistent
  rw [← Option.bind_eq_none_iff] at hfree
  refine ⟨d.first_or_none p.idle w, ?_, fun hnone => hp.runsDry hopen hfree hnone, ?_⟩
  · intro above g below hidle hnone hpass
    exact hp.reuses hopen hfree hidle hnone hpass
  · intro serves restorable hd hserves hrestorable g hg
    exact ready_of_acquire hd hserves hrestorable hfree hg

/-- Of five connections at a backend where closes fail, the last four have been changed: one is in
a transaction that has failed, one is in a transaction and refuses to be rolled back, the status
of one is not known, and the server has closed the last. -/
def neglectedWorld : World where
  backends := [{ attempts := 5, opened := 5, failClose := true }]
  conns :=
    [.born 0 1 {}, { SimConn.born 0 2 {} with status := .inError },
      { SimConn.born 0 3 {} with status := .inTransaction, onRollback := .refuses },
      { SimConn.born 0 4 {} with status := .unknown }, { SimConn.born 0 5 {} with closed := true }]

/-- All five are idle, and the second is the one that is handed out. -/
theorem reuses_first_usable_neglected :
    ∃ hist p above g below, Reached (World.driver 0 .manual) (fun _ _ => True)
        { minConnections := 5, maxConnections := 6 } {} hist (p, neglectedWorld) ∧
      p.idle = above ++ g :: below ∧ above.map Handle.id = [4, 3, 2] ∧ g.id = 1 ∧
      (World.driver 0 .manual).recycleEach (above ++ [g]) neglectedWorld = (
        [.alreadyClosed, .statusUnknown, .rollbackFailed, .rolledBack],
        (p.acquire (World.driver 0 .manual) none neglectedWorld).2.2) ∧
      p.calls (World.driver 0 .manual) (.acquire none) neglectedWorld =
        [.close 3 (.error (.closeFailed 4)), .rollback 2 (.error (.rollbackRefused 3)),
          .close 2 (.error (.closeFailed 3)), .rollback 1 (.ok ())] ∧
      Reuses (World.driver 0 .manual) none p neglectedWorld above g below ∧
      (World.driver 0 .manual).Ready g.conn
        (p.acquire (World.driver 0 .manual) none neglectedWorld).2.2 := by
  have h : Reached (World.driver 0 .manual) (fun _ _ => True)
      { minConnections := 5, maxConnections := 6 } {} _ (_, neglectedWorld) :=
    ⟨_, _, rfl, Run.start.drift trivial⟩
  obtain ⟨_, hreuses, _, hready⟩ := reuses_first_usable h rfl none fun _ hk => by cases hk
  have houtcomes : ((World.driver 0 .manual).recycleEach
      [⟨4, 4, Instant.start⟩, ⟨3, 3, Instant.start⟩, ⟨2, 2, Instant.start⟩] neglectedWorld).1 =
      [.alreadyClosed, .statusUnknown, .rollbackFailed] := rfl
  have hnone : (World.driver 0 .manual).NonePasses
      [⟨4, 4, Instant.start⟩, ⟨3, 3, Instant.start⟩, ⟨2, 2, Instant.start⟩] neglectedWorld := by
    rw [Driver.NonePasses, houtcomes]
    decide
  have hfirst := hreuses _ ⟨1, 1, Instant.start⟩ [⟨0, 0, Instant.start⟩] rfl hnone rfl
  refine ⟨_, _, _, _, _, h, rfl, rfl, rfl, rfl, rfl, hfirst, ?_⟩
  refine hready (World.DeliversReady 0) World.Restorable (World.driver_restores 0 .manual)
    ⟨rfl, rfl⟩ ?_ _ (congrArg Prod.fst hfirst.eq)
  -- not one of the five ignores rollbacks
  have hall : ∀ c < 5, World.Restorable c neglectedWorld := by
    intro c hc
    have : neglectedWorld.conns[c].onRollback ≠ .ignores := by
      revert c
      decide
    exact ⟨_, List.getElem?_eq_getElem _, this⟩
  intro g hg
  refine hall g.conn ?_
  revert g
  decide

end Pool

end ConnPool
