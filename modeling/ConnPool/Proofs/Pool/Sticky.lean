import ConnPool.Proofs.Pool.Checkouts
import ConnPool.Proofs.Pool.Permits

/-!
# A borrower keeps its connection

A borrower that gives its name gets the same connection however often it asks, until it has handed
that connection back or the pool is closed. Two things have to be seen for this.

* **What the name holds stays there** (`ConnPool.Pool.Moment.held_of_not_ends`). The one way to
  lose a checkout that nobody has ended is to be overwritten, and overwritten is only ever what is
  held under the next key to issue. No name is an issued key, whatever it spells.
* **Whoever asks for it is answered out of the table** (`ConnPool.Pool.acquire_of_served`). The
  driver is not called, so it does not matter what has become of the connection, whether another
  could be opened and how many are checked out.
-/

namespace ConnPool

namespace Pool

variable {W C ε : Type} {d : Driver W C ε} {p q : Pool C} {w v : W} {k : Key} {h : Handle C}

/-- **A key that is served gets what it holds**, and nothing happens, whatever the driver. -/
theorem acquire_of_served (hopen : p.closed = false) (hk : p.held.get? k = some h) :
    p.acquire d (some k) w = (.ok h, p, w) := by
  simp only [acquire, hopen, Option.bind_some, hk, Bool.false_eq_true, if_false]

variable [DecidableEq C] {env : W → W → Prop} {config : Config} {w₀ : W}
  {past between : List (Moment W C)} {m : Moment W C} {name : String}

/-- **What is held under a name is held until its checkout is ended.** -/
theorem Moment.held_of_not_ends (hp : m.pool.Consistent)
    (hk : m.pool.held.get? (.named name) = some h) (hm : ¬m.Ends h) :
    (m.after d).1.held.get? (.named name) = some h := by
  rcases Moment.held_or_overwrites (d := d) hp hk hm with hheld | ⟨⟨hrequest, ⟨g, hg⟩, _⟩, _⟩
  · exact hheld
  · -- the borrower without a key is served under an issued one, which is no name
    rw [Moment.after, hrequest]
    refine (get?_held_acquire hg _).trans ?_
    rw [chooseKey_none, if_neg Key.noConfusion]
    exact hk

/-- The same goes for a run. -/
theorem Run.held_of_not_ends {s t : Pool C × W} (hrun : Run d env s between t)
    (hs : s.1.Consistent) (hk : s.1.held.get? (.named name) = some h)
    (hnever : ∀ m ∈ between, ¬m.Ends h) : t.1.held.get? (.named name) = some h := by
  refine (hrun.invariant
    (I := fun t => t.1.Consistent ∧ t.1.held.get? (.named name) = some h)
    (fun _ _ _ _ hp => hp) ?_ ⟨hs, hk⟩).2
  rintro m hm ⟨hp, hk⟩
  exact ⟨serve_invariant (I := fun s => s.1.Consistent) (fun _ _ hstep => hstep.consistent) hp,
    Moment.held_of_not_ends hp hk (hnever m hm)⟩

/-- **A borrower with a name keeps its connection.** Once it has been served, and as long as no
release has ended that checkout and the pool has not been closed, it gets the same connection
whenever it asks. Other borrowers may come and go in between, releases that name it may fail, and
the world may change as it likes. And asking changes nothing: the pool stays as it is, and so does
the world, whatever the driver and the world are by then. -/
theorem named_checkout_sticks (hreached : Reached d env config w₀ past (p, w))
    (hlent : (p.acquire d (some (.named name)) w).1 = .ok h)
    (hrun : Run d env (p.acquire d (some (.named name)) w).2 between (q, v))
    (hnever : ∀ m ∈ between, ¬m.Ends h) (hopen : q.closed = false) :
    q.held.get? (.named name) = some h ∧
      (∀ {V : Type} (d' : Driver V C ε) (v' : V),
        q.acquire d' (some (.named name)) v' = (.ok h, q, v')) ∧
      q.calls d (.acquire (some (.named name))) v = [] := by
  have hnext : Consistent (p.acquire d (some (.named name)) w).2.1 :=
    (hreached.serve (.acquire (some (.named name)))).consistent
  have hentered : (p.acquire d (some (.named name)) w).2.1.held.get? (.named name) = some h :=
    (get?_held_acquire hlent _).trans (if_pos rfl)
  have hheld : q.held.get? (.named name) = some h :=
    hrun.held_of_not_ends hnext hentered hnever
  refine ⟨hheld, fun d' v' => acquire_of_served hopen hheld, ?_⟩
  change (q.acquire d.logged (some (.named name)) (v, [])).2.2.2 = []
  rw [acquire_of_served hopen hheld]

/-- A borrower has been served, and so has another one under the name of an issued key. They use
the capacity up, and a third is turned away. Releases fail that name the first borrower with a
handle from elsewhere and with the handle of the second. Then the server closes the connection in
the middle of a transaction and opens no other. The borrower still gets it. -/
theorem named_checkout_sticks_when_closed :
    ∃ past p w between q v, Reached (World.driver 0 .manual) (fun _ _ => True)
        { minConnections := 1, maxConnections := 2 } {} past (p, w) ∧
      (p.acquire (World.driver 0 .manual) (some (.named "a")) w).1 =
        .ok ⟨0, 0, Instant.start⟩ ∧
      Run (World.driver 0 .manual) (fun _ _ => True)
        (p.acquire (World.driver 0 .manual) (some (.named "a")) w).2 between (q, v) ∧
      between.map Moment.request = [.prune, .release ⟨1, 1, Instant.start⟩ (some (.named "a")) true,
        .release ⟨0, 9, Instant.start⟩ (some (.named "a")) false, .acquire none,
        .acquire (some (.named "auto:0"))] ∧
      (∀ m ∈ between, ¬m.Ends ⟨0, 0, Instant.start⟩) ∧ q.closed = false ∧
      q.held.size = q.config.capacity ∧
      (World.driver 0 .manual).isClosed 0 v = (true, v) ∧
      (World.driver 0 .manual).status 0 v = (.inTransaction, v) ∧
      q.acquire (World.driver 0 .manual) (some (.named "a")) v =
        (.ok ⟨0, 0, Instant.start⟩, q, v) := by
  have h : Reached (World.driver 0 .manual) (fun _ _ => True)
      { minConnections := 1, maxConnections := 2 } {} _ (_, _) := ⟨_, _, rfl, .start⟩
  have hrun := fun s : Pool SimId × World => ((((((Run.start :
    Run (World.driver 0 .manual) (fun _ _ => True) s [] s).serve
      (.acquire (some (.named "auto:0")))).serve (.acquire none)).serve
      (.release ⟨0, 9, Instant.start⟩ (some (.named "a")) false)).serve
      (.release ⟨1, 1, Instant.start⟩ (some (.named "a")) true)).serve .prune).drift
      (w := { backends := [{ attempts := 2, opened := 2, refuseAll := true }]
              conns := [{ SimConn.born 0 1 {} with closed := true, status := .inTransaction },
                .born 0 2 {}] }) trivial
  refine have hnever := ?never; ⟨_, _, _, _, _, _, h, rfl, hrun _, rfl, hnever, rfl, rfl, rfl, rfl,
    (named_checkout_sticks h rfl (hrun _) hnever rfl).2.1 _ _⟩
  -- the two releases are not accepted, and the others are not releases
  rintro m hm ⟨g, key, force, hrequest, hsome, _⟩
  simp only [List.mem_cons, List.not_mem_nil, or_false] at hm
  rcases hm with rfl | rfl | rfl | rfl | rfl <;> cases hrequest <;> cases hsome

end Pool

end ConnPool
