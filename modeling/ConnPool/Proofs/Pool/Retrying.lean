import ConnPool.Proofs.Pool.Search
import ConnPool.Proofs.Repairing
import ConnPool.Proofs.Simulation.Repairing

/-!
# Trying again after the factory has failed

A borrower who is turned away because the factory has failed may simply try again. The first
attempt has cost the pool its idle connections, but not one of them could have been used, and
nothing has been given away, neither a number nor a key (`ConnPool.Pool.FactoryFails`).

So once the factory has been repaired, the borrower is where it would have been if the factory had
worked in the first place. It gets the same connection under the same key, out of a pool with the
same books. To compare the two, one needs a second world, in which the factory has been repaired
before the borrower came. The idle connections are checked in both, and the checks do not notice.
-/

namespace ConnPool

namespace Pool

open Driver (Call)

variable {W C ε : Type} {d : Driver W C ε} {p q : Pool C} {w v : W} {key : Option Key} {e : ε}

/-! ### The factory fails -/

/-- Once all are taken off the stack, there are no stamps. -/
theorem Consistent.unstackAll_idle (hp : p.Consistent) :
    p.unstackAll p.idle [] = { p with idle := [], stamps := ∅ } := by
  have hstamps : p.stamps.eraseAll (p.idle.map Handle.id) = ∅ :=
    Table.eq_empty hp.stamps_unstackAll
  rw [unstackAll, hstamps]

/-- **A borrower is served by the factory** if nothing is idle and the capacity is not reached. -/
theorem acquire_of_connect {v₁ v₂ : W} {conn : C} {now : Instant} (hopen : q.closed = false)
    (hfree : key.bind q.held.get? = none) (hempty : q.idle = [])
    (hroom : q.held.size < q.config.capacity) (hconnect : d.connect v = (.ok conn, v₁))
    (hnow : d.now v₁ = (now, v₂)) :
    q.acquire d key v =
      (.ok ⟨q.nextId, conn, now⟩, q.number.checkOut key ⟨q.nextId, conn, now⟩, v₂) := by
  have hreuse : q.reuse d v = (none, q, v) := by rw [reuse, hempty, reuseFrom]
  simp only [acquire, hopen, hfree, hreuse, Nat.not_le_of_lt hroom, connect, hconnect, hnow,
    Bool.false_eq_true, if_false]

/-- With a log, that is one call. -/
theorem acquire_logged_of_connect {v₁ v₂ : W} {conn : C} {now : Instant} (hopen : q.closed = false)
    (hfree : key.bind q.held.get? = none) (hempty : q.idle = [])
    (hroom : q.held.size < q.config.capacity) (hconnect : d.connect v = (.ok conn, v₁))
    (hnow : d.now v₁ = (now, v₂)) (log : List (Call C ε)) :
    (q.acquire d.logged key (v, log)).2.2.2 = log ++ [.connect (.ok conn)] := by
  have hconnect' : d.logged.connect (v, log) = (.ok conn, v₁, log ++ [.connect (.ok conn)]) := by
    simp only [Driver.logged, hconnect]
  have hnow' : d.logged.now (v₁, log ++ [.connect (.ok conn)]) =
      (now, v₂, log ++ [.connect (.ok conn)]) := by
    simp only [Driver.logged, hnow]
  rw [acquire_of_connect hopen hfree hempty hroom hconnect' hnow']

/-- The connection is held under the key it has been checked out under, and the key is remembered
for it. -/
theorem get?_checkOut (p : Pool C) (key : Option Key) (g : Handle C) :
    (p.checkOut key g).held.get? (p.chooseKey key).1 = some g ∧
      (p.checkOut key g).borrower.get? g.id = some (p.chooseKey key).1 :=
  ⟨(Table.get?_insert _ _ _ _).trans (if_pos rfl), (Table.get?_insert _ _ _ _).trans (if_pos rfl)⟩

variable [DecidableEq C]

/-- **The factory fails a borrower** who has no connection yet. -/
structure FactoryFails (d : Driver W C ε) (key : Option Key) (p : Pool C) (w : W) (e : ε)
    (q : Pool C) (v : W) (calls : List (Call C ε)) : Prop where
  /-- Nothing is idle any more, and there are no stamps. The rest of the books is as it was. -/
  pool_eq : q = { p with idle := [], stamps := ∅ }
  /-- No connection that was idle has passed the check. -/
  none_passes : d.NonePasses p.idle w
  /-- First they have been checked, and `calls` is what that has demanded. -/
  demanded : DemandEach p.idle (d.recycleEach p.idle w).1 calls
  /-- No connection has been touched that was not idle, and none has been opened. -/
  touching : ∀ call ∈ calls, ∃ g ∈ p.idle, call.Touches g.conn
  /-- Then there has been one attempt to open a connection. -/
  calls_eq : p.calls d (.acquire key) w = calls ++ [.connect (.error e)]

/-- **When the factory fails, the idle connections have run out**, and there was room for another
one. -/
theorem Consistent.factoryFails (hp : p.Consistent) (hopen : p.closed = false)
    (hfree : key.bind p.held.get? = none)
    (hfail : p.acquire d key w = (.error (.factory e), q, v)) :
    FactoryFails d key p w e q v (d.logged.recycleEach p.idle (w, [])).2.2 ∧
      p.held.size < p.config.capacity ∧
      d.connect (d.recycleEach p.idle w).2 = (.error e, v) := by
  have hnone : d.NonePasses p.idle w := by
    refine (d.first_or_none p.idle w).resolve_left ?_
    rintro ⟨above, g, below, hidle, hnone, hpass⟩
    cases hfail.symm.trans (acquire_of_first hopen hfree hidle hnone hpass)
  have hidle : p.idle = p.idle ++ [] := (List.append_nil _).symm
  obtain ⟨calls, hdemanded, hlog⟩ := d.recycleEach_logged p.idle (w, [])
  rw [List.nil_append] at hlog
  obtain ⟨attempts, hlast, hattempts⟩ := acquire_of_empty (d := d)
    (q := p.unstackAll p.idle []) hopen hfree rfl (d.recycleEach p.idle w).2 calls
  rw [← acquire_of_nonePasses hopen hfree hidle hnone, hfail] at hlast
  rw [hlog]
  cases hlast with
  | failed hroom hconnect =>
    refine ⟨⟨hp.unstackAll_idle, hnone, hdemanded, hdemanded.touches, ?_⟩, hroom, hconnect⟩
    change (p.acquire d.logged key (w, [])).2.2.2 = calls ++ [.connect (.error e)]
    rw [acquire_of_nonePasses (d := d.logged) hopen hfree hidle (d.nonePasses_logged.mpr hnone),
      hlog]
    exact hattempts

/-! ### Main statement -/

variable {env : W → W → Prop} {config : Config} {w₀ : W} {hist : List (Moment W C)}

/-- **Trying again comes to the same as succeeding at once.** A borrower asks an open pool for a
connection, under a key that nobody holds or without one, and the factory fails. Then all that the
pool has lost is idle connections that have not passed the check (`ConnPool.Pool.FactoryFails`).

The borrower tries again in a world `u`, and the factory has been repaired. In another world `w'`,
which does not differ in anything else from that of the first request, the factory had been repaired
before, and the first request was successful. Either way the borrower gets the same connection, with
the same number and under the same key, from pools with the same books, and the worlds still differ
in the factory at most. The calls that have been made are the same, if one leaves out the attempt
that has failed. -/
theorem retry_as_at_once (hreached : Reached d env config w₀ hist (p, w))
    (hopen : p.closed = false) (hfree : ∀ k, key = some k → p.held.get? k = none)
    (hfail : p.acquire d key w = (.error (.factory e), q, v)) :
    ∃ calls, FactoryFails d key p w e q v calls ∧
      ∀ serves R, d.Repairable serves R → ∀ u w', R v u → serves u → R w w' → serves w' →
        ∃ g r u' v', q.acquire d key u = (.ok g, r, u') ∧ p.acquire d key w' = (.ok g, r, v') ∧
          R v' u' ∧ g.id = p.nextId ∧ r.held.get? (p.chooseKey key).1 = some g ∧
          r.borrower.get? g.id = some (p.chooseKey key).1 ∧
          q.calls d (.acquire key) u = [.connect (.ok g.conn)] ∧
          p.calls d (.acquire key) w' = calls ++ [.connect (.ok g.conn)] := by
  have hp : p.Consistent := hreached.consistent
  rw [← Option.bind_eq_none_iff] at hfree
  obtain ⟨hfails, hroom, hconnect⟩ := hp.factoryFails hopen hfree hfail
  refine ⟨_, hfails, fun serves R hd u w' hu hserves hw' hserves' => ?_⟩
  obtain ⟨houtcomes, hworld, hlog⟩ := hd.recycleEach e hw' rfl
  have hnone : d.NonePasses p.idle w' := by
    rw [Driver.NonePasses, houtcomes]
    exact hfails.none_passes
  have hidle : p.idle = p.idle ++ [] := (List.append_nil _).symm
  have hq : q = p.unstackAll p.idle [] := hfails.pool_eq.trans hp.unstackAll_idle.symm
  subst hq
  -- the world after the checks differs from that of the retry in the factory alone
  have hdiffer : R (d.recycleEach p.idle w').2 u :=
    hd.equiv.trans (hd.equiv.symm hworld) (hd.equiv.trans (hd.failed hconnect) hu)
  obtain ⟨c, v₁, u₁, hconnect₁, hconnect₂, hdiffer₁⟩ :=
    hd.opens hdiffer (hd.lasts.recycleEach p.idle w' hserves') hserves
  obtain ⟨now, v₂, u₂, hnow₁, hnow₂, hdiffer₂⟩ := hd.now e hdiffer₁
  obtain ⟨hheld, hborrower⟩ :=
    get?_checkOut (p.unstackAll p.idle []).number key ⟨p.nextId, c, now⟩
  refine ⟨_, _, u₂, v₂, acquire_of_connect hopen hfree rfl hroom hconnect₂ hnow₂, ?_, hdiffer₂, rfl,
    hheld, hborrower, ?_, ?_⟩
  · rw [acquire_of_nonePasses hopen hfree hidle hnone]
    exact acquire_of_connect hopen hfree rfl hroom hconnect₁ hnow₁
  · exact acquire_logged_of_connect (q := p.unstackAll p.idle []) hopen hfree rfl hroom hconnect₂
      hnow₂ []
  · change (p.acquire d.logged key (w', [])).2.2.2 = _
    rw [acquire_of_nonePasses (d := d.logged) hopen hfree hidle (d.nonePasses_logged.mpr hnone),
      hlog]
    exact acquire_logged_of_connect (q := p.unstackAll p.idle []) hopen hfree rfl hroom hconnect₁
      hnow₁ _

/-- Of three connections one is checked out, one has been lost sight of, and one has been closed by
the server, when the factory refuses to open another one. It refuses once, and when the borrower
tries again, at once, it gets the connection that it would have got at first. The factory has
counted one attempt more. -/
theorem retry_as_at_once_refused :
    ∃ hist p w e q v g r u' v', Reached (World.driver 0 .manual) (fun _ _ => True)
        { minConnections := 3, maxConnections := 4 } {} hist (p, w) ∧
      p.idleIds = [0, 1] ∧ (w.backend 0).refusals = 1 ∧
      p.acquire (World.driver 0 .manual) none w = (.error (.factory e), q, v) ∧
      FactoryFails (World.driver 0 .manual) none p w e q v [.close 0 (.ok ())] ∧
      q.acquire (World.driver 0 .manual) none v = (.ok g, r, u') ∧
      p.acquire (World.driver 0 .manual) none (w.updateBackend 0 ({ · with refusals := 0 })) =
        (.ok g, r, v') ∧
      g.id = 3 ∧ r.held.get? (.auto 0) = some g ∧ v'.Refitted u' ∧
      (v'.backend 0).attempts + 1 = (u'.backend 0).attempts ∧
      q.calls (World.driver 0 .manual) .get v = [.connect (.ok g.conn)] ∧
      p.calls (World.driver 0 .manual) .get (w.updateBackend 0 ({ · with refusals := 0 })) =
        [.close 0 (.ok ()), .connect (.ok g.conn)] := by
  have h : Reached (World.driver 0 .manual) (fun _ _ => True)
      { minConnections := 3, maxConnections := 4 } {} _ (_, _) :=
    ⟨_, _, rfl, (Run.start.serve (.acquire (some (.named "a")))).drift
      (w := { backends := [{ attempts := 3, opened := 3, refusals := 1 }]
              conns := [{ SimConn.born 0 1 {} with status := .unknown },
                { SimConn.born 0 2 {} with closed := true }, .born 0 3 {}] }) trivial⟩
  obtain ⟨calls, hfails, hretry⟩ :=
    retry_as_at_once h rfl (fun _ (hk : none = some _) => nomatch hk) rfl
  obtain rfl : calls = [.close 0 (.ok ())] := List.append_cancel_right hfails.calls_eq.symm
  have hd := World.driver_repairable 0 .manual
  obtain ⟨g, r, u', v', hagain, hfirst, hdiffer, hid, hheld, -, hcalls, hcalls'⟩ :=
    hretry (World.Accepts 0) World.Refitted hd _ _ (hd.equiv.refl _) ⟨rfl, rfl⟩
      (World.refitted_updateBackend _ 0 (f := ({ · with refusals := 0 })) ⟨_, _, _, rfl⟩) ⟨rfl, rfl⟩
  refine ⟨_, _, _, _, _, _, g, r, u', v', h, rfl, rfl, rfl, hfails, hagain, hfirst, hid, hheld,
    hdiffer, ?_, hcalls, hcalls'⟩
  obtain rfl : _ = u' := congrArg (fun s => s.2.2) hagain
  obtain rfl : _ = v' := congrArg (fun s => s.2.2) hfirst
  rfl

end Pool

end ConnPool
