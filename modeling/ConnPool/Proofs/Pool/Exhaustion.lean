import ConnPool.Proofs.Pool.Capacity
import ConnPool.Proofs.Pool.Returns

/-!
# When a pool is exhausted

A borrower is turned away for want of capacity only after the idle stack has been searched,
and the search loses every connection that fails the recycle check. It looks as if a borrower
could be turned away and idle connections be lost on the occasion. It cannot: where as many
connections are checked out as the capacity allows, nothing is idle
(`ConnPool.Pool.Within.idle_eq_nil`), and the search of an empty stack does nothing. So a pool
that is exhausted says so at once (`ConnPool.Pool.Within.acquire_of_full`).

It is exhausted no longer as soon as a connection has come back. That connection may be closed,
the pool may be filled up again, and there may be more releases, evictions and even a closing
before the next borrower comes – all of this leaves room (`ConnPool.Pool.Run.size_held_le`).
-/

namespace ConnPool

namespace Pool

variable {W C ε : Type} {d : Driver W C ε} {config : Config} {p : Pool C} {w : W}
  {key : Option Key}

/-! ### Full pools -/

/-- **Where everything the capacity allows is checked out, nothing is idle.** -/
theorem Within.idle_eq_nil (h : Within config p) (hfull : config.capacity ≤ p.held.size) :
    p.held.size = config.capacity ∧ p.idle = [] := by
  have hsize : p.idle.length + p.held.size ≤ config.capacity := h.size_le
  exact ⟨by omega, List.length_eq_zero_iff.mp (by omega)⟩

/-- **A full pool turns a borrower away at once.** -/
theorem Within.acquire_of_full (h : Within config p) (hopen : p.closed = false)
    (hfree : key.bind p.held.get? = none) (hfull : config.capacity ≤ p.held.size) :
    p.acquire d key w = (.error (.exhausted config.maxConnections), p, w) := by
  obtain rfl := h.config_eq
  have hreuse : p.reuse d w = (none, p, w) := by
    rw [reuse, (h.idle_eq_nil hfull).2, reuseFrom]
  simp only [acquire, hopen, hfree, hreuse, hfull, Bool.false_eq_true, if_false, if_true]

/-- A borrower that is turned away for want of capacity has no connection already, and there
is no room. -/
theorem Within.full_of_exhausted (h : Within config p) {max : UInt32}
    (hexhausted : (p.acquire d key w).1 = .error (.exhausted max)) :
    key.bind p.held.get? = none ∧ config.capacity ≤ p.held.size ∧ max = config.maxConnections := by
  obtain rfl := h.config_eq
  have hend := acquired d key p w
  generalize p.acquire d key w = result at hend hexhausted
  rcases hend with _ | _ | _ | ⟨_, hfree, _, _, hfull⟩ | _ | _
  · cases hexhausted
  · cases hexhausted
  · cases hexhausted
  · cases hexhausted
    exact ⟨hfree, hfull, rfl⟩
  · cases hexhausted
  · cases hexhausted

/-- **A pool is exhausted exactly if it is full** and holds nothing under the key. -/
theorem Within.exhausted_iff (h : Within config p) (hopen : p.closed = false) {max : UInt32} :
    (p.acquire d key w).1 = .error (.exhausted max) ↔
      max = config.maxConnections ∧ p.held.size = config.capacity ∧
        ∀ k, key = some k → p.held.get? k = none := by
  rw [← Option.bind_eq_none_iff]
  constructor
  · intro hexhausted
    obtain ⟨hfree, hfull, hmax⟩ := h.full_of_exhausted hexhausted
    exact ⟨hmax, (h.idle_eq_nil hfull).1, hfree⟩
  · rintro ⟨rfl, hfull, hfree⟩
    rw [h.acquire_of_full hopen hfree (Nat.le_of_eq hfull.symm)]

/-! ### Making room -/

variable [DecidableEq C] {env : W → W → Prop} {w₀ : W} {hist : List (Moment W C)}

/-- No request but an acquire checks anything out. -/
theorem Moment.size_held_le {m : Moment W C} (hm : ∀ key, m.request ≠ .acquire key) :
    (m.after d).1.held.size ≤ m.pool.held.size := by
  rcases m.held_after d with ⟨_, _, ⟨key, hacquire, _⟩, _⟩ | ⟨k, g, hk, _, hheld⟩ | ⟨_, hheld⟩
  · exact absurd hacquire (hm key)
  · have := Table.size_erase_add_one hk
    rw [hheld]
    omega
  · exact Nat.le_of_eq (by rw [hheld])

/-- **As long as nobody comes for a connection, no more are checked out.** -/
theorem Run.size_held_le {s t : Pool C × W} {between : List (Moment W C)}
    (hrun : Run d env s between t) (hnone : ∀ m ∈ between, ∀ key, m.request ≠ .acquire key) :
    t.1.held.size ≤ s.1.held.size := by
  refine hrun.invariant (I := fun t => t.1.held.size ≤ s.1.held.size) (fun _ _ _ _ hp => hp) ?_
    (Nat.le_refl _)
  intro m hm hp
  exact Nat.le_trans (Moment.size_held_le (hnone m hm)) hp

/-- A release that takes effect makes room. -/
theorem size_held_release {h : Handle C} {k : Key} (hk : p.checkout? h key = some k)
    (force : Bool) : (p.release d h key force w).2.1.held.size + 1 = p.held.size := by
  obtain ⟨_, g, hheld, _⟩ := checkout?_eq_some_iff.mp hk
  rw [held_release hk]
  exact Table.size_erase_add_one hheld

/-- **After a release that takes effect no borrower is turned away for want of capacity**, as long
as none has come in between. -/
theorem Reached.not_exhausted {h : Handle C} {key' : Option Key} {force : Bool} {k : Key}
    (hreached : Reached d env config w₀ hist (p, w))
    (hend : EndsCheckout d p w (.release h key force) k) {between : List (Moment W C)}
    {q : Pool C} {v : W} (hrun : Run d env (p.release d h key force w).2 between (q, v))
    (hnone : ∀ m ∈ between, ∀ key, m.request ≠ .acquire key) (max : UInt32) :
    (q.acquire d key' v).1 ≠ .error (.exhausted max) := by
  intro hexhausted
  have hroom := size_held_release (d := d) (w := w) (endsCheckout_release_iff.mp hend) force
  have hless : q.held.size ≤ (p.release d h key force w).2.1.held.size := hrun.size_held_le hnone
  have hbound : p.idle.length + p.held.size ≤ config.capacity := hreached.within.size_le
  have hafter : Within config q :=
    ((hreached.serve (.release h key force)).append hrun).within
  have hfull := (hafter.full_of_exhausted hexhausted).2.1
  omega

/-! ### Main statement -/

/-- **Exhaustion is exact, changes nothing, and does not last.** A borrower of an open pool is
turned away for want of capacity exactly if as many connections are checked out as the capacity
allows and none of them under its key. Then nothing is idle, nothing is called, and the pool and
the world are as they were. And after a release that takes effect no borrower is turned away for
want of capacity, whatever has become of the connection, of the attempts to fill the pool up and
of everything else before the borrower comes. -/
theorem exhausted_iff_full (hreached : Reached d env config w₀ hist (p, w))
    (hopen : p.closed = false) :
    (∀ key max, (p.acquire d key w).1 = .error (.exhausted max) ↔
        max = config.maxConnections ∧ p.held.size = config.capacity ∧
          ∀ k, key = some k → p.held.get? k = none) ∧
      (∀ key max, (p.acquire d key w).1 = .error (.exhausted max) →
        p.idle = [] ∧ p.calls d (.acquire key) w = [] ∧ (p.acquire d key w).2 = (p, w)) ∧
      ∀ h key force k, EndsCheckout d p w (.release h key force) k →
        ∀ between q v, Run d env (p.release d h key force w).2 between (q, v) →
          (∀ m ∈ between, ∀ key, m.request ≠ .acquire key) →
          ∀ key max, (q.acquire d key v).1 ≠ .error (.exhausted max) := by
  have hwithin : Within config p := hreached.within
  refine ⟨fun key max => hwithin.exhausted_iff hopen, fun key max hexhausted => ?_, ?_⟩
  · obtain ⟨hfree, hfull, _⟩ := hwithin.full_of_exhausted hexhausted
    refine ⟨(hwithin.idle_eq_nil hfull).2, ?_, ?_⟩
    · -- the driver with a log is turned away at once as well
      change (p.acquire d.logged key (w, [])).2.2.2 = []
      rw [hwithin.acquire_of_full hopen hfree hfull]
    · rw [hwithin.acquire_of_full hopen hfree hfull]
  · intro h key force k hend between q v hrun hnone key' max
    exact hreached.not_exhausted hend hrun hnone max

/-- A pool has lent all it may, one connection under an issued key that a borrower has made up,
and turns two borrowers away. A connection comes back broken and the factory refuses to open
another in its place; still the next borrower is not told that the pool is exhausted. -/
theorem exhausted_iff_full_until_returned :
    ∃ hist p w q v, Reached (World.driver 0 .manual) (fun _ _ => True)
        { minConnections := 2, maxConnections := 2 } {} hist (p, w) ∧ p.closed = false ∧
      (p.acquire (World.driver 0 .manual) none w).1 = .error (.exhausted 2) ∧
      (p.acquire (World.driver 0 .manual) none w).2 = (p, w) ∧
      EndsCheckout (World.driver 0 .manual) p w
        (.release ⟨1, 1, Instant.start⟩ none false) (.named "a") ∧
      p.release (World.driver 0 .manual) ⟨1, 1, Instant.start⟩ none false w = (.ok (), q, v) ∧
      q.idle = [] ∧ q.held.size = 1 ∧
      ∀ key max, (q.acquire (World.driver 0 .manual) key v).1 ≠ .error (.exhausted max) := by
  -- between the last loan and the release the link is cut and the backend begins to refuse
  have h : Reached (World.driver 0 .manual) (fun _ _ => True)
      { minConnections := 2, maxConnections := 2 } {} _ (_, _) :=
    ⟨_, _, rfl, ((Run.start.serve (.acquire (some (.named "a")))).serve
      (.acquire (some (.auto 7)))).drift (w :=
        { backends := [{ attempts := 2, opened := 2, refuseAll := true }]
          conns := [.born 0 1 {}, { SimConn.born 0 2 {} with closed := true }] }) trivial⟩
  obtain ⟨hexact, hatomic, hroom⟩ := exhausted_iff_full h rfl
  have hfull := (hexact none 2).mpr ⟨rfl, rfl, fun _ hk => by cases hk⟩
  refine ⟨_, _, _, _, _, h, rfl, hfull, (hatomic none 2 hfull).2.2,
    endsCheckout_release_iff.mpr ?found, rfl, rfl, rfl, ?_⟩
  case found => rfl
  exact hroom ⟨1, 1, Instant.start⟩ none false (.named "a") (endsCheckout_release_iff.mpr rfl)
    [] _ _ .start fun _ hm => absurd hm List.not_mem_nil

end Pool

end ConnPool
