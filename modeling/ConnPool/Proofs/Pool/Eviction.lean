import ConnPool.Proofs.Closing
import ConnPool.Proofs.Pool.Ownership

/-!
# What is evicted

A connection is **overdue** at a reading of the clock if it has idled for the timeout by then
(`ConnPool.Pool.Overdue`). Pruning evicts the connections that are overdue and no others. It goes
by the stack as it finds it and by one reading of the clock, and nothing that happens to the
connections on the way changes who is evicted: one that is closed already is evicted, and so is
one whose close fails.

The main statement, `ConnPool.Pool.evicts_exactly_the_overdue`, is about all pools that can be
reached, in whatever world. The connections keep their order, and those that are kept keep their
stamps, so that there is nothing to evict any more as long as the clock shows the same.
-/

namespace ConnPool

theorem Config.evictsIdle_iff {c : Config} : c.evictsIdle = true ↔ c.idleTimeout.nanos ≠ 0 := by
  rw [evictsIdle, decide_eq_true_eq, ne_eq, ne_eq]
  exact not_congr ⟨congrArg Duration.nanos, congrArg Duration.mk⟩

namespace Pool

variable {W C ε : Type} {d : Driver W C ε} {p q : Pool C} {w u v : W} {now : Instant}
  {g : Handle C} {closes : Closes C ε}

/-! ### Overdue connections -/

/-- **A connection is overdue**: it has been idle for the timeout, or for longer. A stamp that
lies ahead of the clock counts for no time at all. -/
def Overdue (p : Pool C) (now : Instant) (g : Handle C) : Prop :=
  ∃ since, p.idleSince? g.id = some since ∧
    p.config.idleTimeout.nanos ≤ now.nanos - since.nanos

/-- This is what a pool looks for. -/
theorem expired_iff : p.expired now g = true ↔ p.Overdue now g := by
  rw [expired, Option.any_eq_true]
  refine exists_congr fun since => and_congr_right fun _ => ?_
  exact decide_eq_true_iff

instance (p : Pool C) (now : Instant) (g : Handle C) : Decidable (p.Overdue now g) :=
  decidable_of_iff _ expired_iff

theorem decide_overdue (p : Pool C) (now : Instant) (g : Handle C) :
    decide (p.Overdue now g) = p.expired now g := by
  rw [Bool.eq_iff_iff, decide_eq_true_iff, expired_iff]

/-- The overdue connections, the one that has waited longest first. -/
def overdue (p : Pool C) (now : Instant) : List (Handle C) :=
  p.idleHandles.filter fun g => p.Overdue now g

theorem mem_overdue : g ∈ p.overdue now ↔ g ∈ p.idle ∧ p.Overdue now g := by
  rw [overdue, List.mem_filter, idleHandles, List.mem_reverse, decide_eq_true_eq]

/-- The pool sorts them out from the top of the stack downwards. -/
theorem overdue_eq (p : Pool C) (now : Instant) :
    p.overdue now = (p.idle.filter (p.expired now)).reverse := by
  simp only [overdue, idleHandles, List.filter_reverse, decide_overdue]

/-! ### Pruning -/

/-- A pool that is closed, or does not evict, is left alone. -/
theorem prune_of_inactive (h : p.closed = true ∨ p.config.idleTimeout.nanos = 0) (w : W) :
    p.prune d w = (⟨0, []⟩, p, w) := by
  have hskip : (p.closed || !p.config.evictsIdle) = true := by
    rcases h with hclosed | hzero
    · rw [hclosed, Bool.true_or]
    · have hkeeps : p.config.evictsIdle = false :=
        Bool.eq_false_iff.mpr fun hevicts => Config.evictsIdle_iff.mp hevicts hzero
      rw [hkeeps, Bool.not_false, Bool.or_true]
  rw [prune, if_pos hskip]

/-- **What a prune comes to**, in a pool that is open and evicts. -/
theorem prune_of_active (hopen : p.closed = false) (hevicts : p.config.idleTimeout.nanos ≠ 0)
    (hnow : d.now w = (now, u)) :
    p.prune d w =
      (⟨(p.overdue now).length, (d.closeEach (p.overdue now) u).1.failures⟩,
        { p with
          idle := p.idle.filter fun g => ¬p.Overdue now g
          stamps := p.stamps.eraseAll ((p.overdue now).reverse.map Handle.id) },
        (d.closeEach (p.overdue now) u).2) := by
  have hactive : (p.closed || !p.config.evictsIdle) = false := by
    rw [hopen, Bool.false_or, Config.evictsIdle_iff.mpr hevicts, Bool.not_true]
  have hkept : p.idle.filter (not ∘ p.expired now) = p.idle.filter fun g => ¬p.Overdue now g := by
    simp only [decide_not, decide_overdue]
    rfl
  simp only [prune, hactive, hnow, List.partition_eq_filter_filter, hkept, overdue_eq,
    List.length_reverse, List.reverse_reverse, Bool.false_eq_true, if_false]

/-- **Where nothing is overdue**, a prune evicts nothing and closes nothing. -/
theorem prune_of_overdue_eq_nil (hnone : p.overdue now = []) (hnow : d.now w = (now, u)) :
    p.prune d w = (⟨0, []⟩, p, w) ∨ p.prune d w = (⟨0, []⟩, p, u) := by
  by_cases hinactive : p.closed = true ∨ p.config.idleTimeout.nanos = 0
  · exact Or.inl (prune_of_inactive hinactive w)
  · obtain ⟨hopen, hevicts⟩ := not_or.mp hinactive
    refine Or.inr ?_
    have hkept : p.idle.filter (fun g => ¬p.Overdue now g) = p.idle := by
      refine List.filter_eq_self.mpr fun g hg => decide_eq_true fun hoverdue => ?_
      exact absurd (mem_overdue.mpr ⟨hg, hoverdue⟩) (hnone ▸ List.not_mem_nil)
    rw [prune_of_active (Bool.eq_false_iff.mpr hopen) hevicts hnow, hkept, hnone]
    simp only [List.reverse_nil, List.map_nil, Table.eraseAll_nil]
    rfl

/-! ### Main statement -/

/-- **A pool has evicted what is overdue**: from `p` in the world `u`, after the clock has been
read, to `q` in the world `v`, with a report. -/
structure Evicts (d : Driver W C ε) (p : Pool C) (now : Instant) (u : W) (closes : Closes C ε)
    (report : EvictionReport ε) (q : Pool C) (v : W) : Prop where
  /-- The connections that are not overdue are idle as before and in the same order, and no
  others. -/
  kept_eq : q.idleHandles = p.idleHandles.filter fun g => ¬p.Overdue now g
  /-- The stamps are those of before, -/
  stamps_eq : ∀ id ∉ (p.overdue now).map Handle.id, q.idleSince? id = p.idleSince? id
  /-- but those who are gone have none. -/
  unstamped : ∀ g ∈ p.overdue now, q.idleSince? g.id = none
  /-- None of these is kept anywhere, whether it could be closed or not. -/
  loose : ∀ g ∈ p.overdue now, q.Loose g.id
  /-- The rest of the books is as it was. -/
  books_eq : q = { p with idle := q.idle, stamps := q.stamps }
  /-- Their number is reported. -/
  evicted_eq : report.evicted = (p.overdue now).length
  /-- They are closed one after the other, those excepted that say that they are closed. -/
  closed_each : d.ClosesEach (p.overdue now) u closes v
  /-- So the closes keep to their order, -/
  in_order : (closes.map Prod.fst).Sublist (p.overdue now)
  /-- and none of them is closed twice. -/
  closed_once : (closes.map fun a => a.1.id).Nodup
  /-- The closes that have failed are reported. -/
  failures_eq : report.failures = closes.failures

theorem Consistent.evicts (hp : p.Consistent) (hopen : p.closed = false)
    (hevicts : p.config.idleTimeout.nanos ≠ 0) (hnow : d.now w = (now, u))
    (heach : d.ClosesEach (p.overdue now) u closes (d.closeEach (p.overdue now) u).2)
    (hfailures : (d.closeEach (p.overdue now) u).1.failures = closes.failures) :
    Evicts d p now u closes (p.prune d w).1 (p.prune d w).2.1 (p.prune d w).2.2 := by
  have hnodup : (p.idleHandles.map Handle.id).Nodup := by
    rw [idleHandles, List.map_reverse]
    exact List.nodup_reverse.mpr hp.idle_nodup
  rw [prune_of_active hopen hevicts hnow]
  refine
    { kept_eq := List.filter_reverse.symm
      stamps_eq := fun id hid => ?stamps_eq
      unstamped := fun g hg => ?unstamped
      loose := fun g hg => ?loose
      books_eq := rfl
      evicted_eq := rfl
      closed_each := heach
      in_order := heach.sublist
      closed_once := ?closed_once
      failures_eq := hfailures }
  case stamps_eq =>
    refine (Table.get?_eraseAll _ _ _).trans (if_neg ?_)
    rwa [List.map_reverse, List.mem_reverse]
  case closed_once =>
    have hids := (heach.sublist.trans List.filter_sublist).map Handle.id
    rw [List.map_map] at hids
    exact hnodup.sublist hids
  case unstamped =>
    refine (Table.get?_eraseAll _ _ _).trans (if_pos ?_)
    rw [List.map_reverse, List.mem_reverse]
    exact List.mem_map_of_mem hg
  case loose =>
    obtain ⟨hidle, hoverdue⟩ := mem_overdue.mp hg
    have hid : g.id ∈ p.idle.map Handle.id := List.mem_map_of_mem hidle
    refine ⟨hp.idle_lt hid, fun hkept => ?_, fun hheld hsame => hp.apart hheld (hsame ▸ hid)⟩
    -- whoever is kept under the number of one that is gone would be that one
    obtain ⟨h, hh, hsame⟩ := List.mem_map.mp hkept
    obtain ⟨hh, hfresh⟩ := List.mem_filter.mp hh
    obtain rfl : h = g := List.inj_on_of_nodup_map hp.idle_nodup hh hidle hsame
    exact of_decide_eq_true hfresh hoverdue

/-- What is left is not overdue. -/
theorem Evicts.overdue_eq_nil {report : EvictionReport ε}
    (h : Evicts d p now u closes report q v) : q.overdue now = [] := by
  refine List.filter_eq_nil_iff.mpr fun g hg hoverdue => ?_
  obtain ⟨since, hsince, hlong⟩ := of_decide_eq_true hoverdue
  have hconfig : q.config = p.config := congrArg (fun q => q.config) h.books_eq
  have hid : g.id ∉ (p.overdue now).map Handle.id := by
    intro hid
    obtain ⟨f, hf, hsame⟩ := List.mem_map.mp hid
    rw [← hsame, h.unstamped f hf] at hsince
    cases hsince
  rw [h.kept_eq, List.mem_filter] at hg
  exact of_decide_eq_true hg.2 ⟨since, h.stamps_eq g.id hid ▸ hsince, hconfig ▸ hlong⟩

variable [DecidableEq C] {env : W → W → Prop} {config : Config} {w₀ : W} {hist : List (Moment W C)}

/-- Where nothing is overdue, nothing happens, and nothing is called. -/
theorem nothing_to_evict (hnone : q.overdue now = []) (hsame : (d.now u).1 = now) :
    (q.prune d u).1 = ⟨0, []⟩ ∧ (q.prune d u).2.1 = q ∧ q.calls d .prune u = [] := by
  have hnow : d.now u = (now, (d.now u).2) := Prod.ext hsame rfl
  have hlogged : d.logged.now (u, []) = (now, (d.now u).2, []) := Prod.ext hsame rfl
  have hcalls : (q.prune d.logged (u, [])).2.2.2 = [] := by
    rcases prune_of_overdue_eq_nil hnone hlogged with h | h <;> rw [h]
  rcases prune_of_overdue_eq_nil hnone hnow with h | h <;>
    exact ⟨congrArg Prod.fst h, congrArg (fun s => s.2.1) h, hcalls⟩

/-- **A prune evicts exactly the overdue connections.** Whatever a pool has been through, and
whatever the world and the clock in it have become: if the pool is open and evicts, the overdue
connections are evicted and the others are not; each of them is closed in its turn, unless it says
that it is closed already, and no other call is made. If it is pruned again while the clock shows
the same, nothing happens. And nothing happens to a pool that is closed or does not evict. -/
theorem evicts_exactly_the_overdue (hreached : Reached d env config w₀ hist (p, w)) :
    (p.closed = false → p.config.idleTimeout.nanos ≠ 0 → ∀ now u, d.now w = (now, u) →
      ∃ closes report q v, p.prune d w = (report, q, v) ∧
        Evicts d p now u closes report q v ∧ p.calls d .prune w = closes.calls ∧
        ∀ u', (d.now u').1 = now → (q.prune d u').1 = ⟨0, []⟩ ∧ (q.prune d u').2.1 = q ∧
          q.calls d .prune u' = []) ∧
      (p.closed = true ∨ p.config.idleTimeout.nanos = 0 →
        p.prune d w = (⟨0, []⟩, p, w) ∧ p.calls d .prune w = []) := by
  constructor
  · intro hopen hevicts now u hnow
    obtain ⟨closes, heach, hfailures, hlog⟩ := d.closesEach (p.overdue now) u []
    have hdone := hreached.consistent.evicts hopen hevicts hnow heach hfailures
    have hlogged : d.logged.now (w, []) = (now, u, []) := by
      simp only [Driver.logged, hnow]
    refine ⟨closes, _, _, _, rfl, hdone, ?_, ?_⟩
    · change (p.prune d.logged (w, [])).2.2.2 = closes.calls
      rw [prune_of_active hopen hevicts hlogged]
      exact hlog
    · intro u' hsame
      exact nothing_to_evict hdone.overdue_eq_nil hsame
  · intro hinactive
    refine ⟨prune_of_inactive hinactive w, ?_⟩
    change (p.prune d.logged (w, [])).2.2.2 = []
    rw [prune_of_inactive hinactive (w, [])]

/-- Of five connections three have idled for exactly the timeout when the pool is pruned. One of
them has been closed by the server, and another does not let itself be closed. The fourth has idled
for one nanosecond less. The fifth has been put back when the clock was ahead. If the pool is closed
instead, nothing is evicted. -/
theorem evicts_exactly_the_overdue_at_the_boundary :
    ∃ hist p w report q v, Reached (World.driver 0 .manual) (fun _ _ => True)
        { minConnections := 5, maxConnections := 5, idleTimeout := ⟨5⟩ } {} hist (p, w) ∧
      p.closed = false ∧ w.manual = ⟨5⟩ ∧ p.idleIds = [0, 1, 2, 3, 4] ∧
      p.idleIds.map p.idleSince? = [some ⟨0⟩, some ⟨0⟩, some ⟨0⟩, some ⟨1⟩, some ⟨9⟩] ∧
      p.prune (World.driver 0 .manual) w = (report, q, v) ∧
      report = ⟨3, [⟨2, .closeRefused 3⟩]⟩ ∧ q.idleIds = [3, 4] ∧
      p.calls (World.driver 0 .manual) .prune w =
        [.close 0 (.ok ()), .close 2 (.error (.closeRefused 3))] ∧
      (q.prune (World.driver 0 .manual) v).1 = ⟨0, []⟩ ∧
      (q.prune (World.driver 0 .manual) v).2.1 = q ∧
      ((p.closeAll (World.driver 0 .manual) w).2.1.prune (World.driver 0 .manual)
        (p.closeAll (World.driver 0 .manual) w).2.2).1 = ⟨0, []⟩ := by
  have h : Reached (World.driver 0 .manual) (fun _ _ => True)
      { minConnections := 5, maxConnections := 5, idleTimeout := ⟨5⟩ } {} _ (_, _) :=
    ⟨_, _, rfl, (((((Run.start.serve (.acquire (some (.named "a")))).serve
      (.acquire (some (.named "b")))).drift
      (w := { backends := [{ attempts := 5, opened := 5 }]
              conns := [.born 0 1 {}, .born 0 2 {}, .born 0 3 {}, .born 0 4 {}, .born 0 5 {}]
              manual := ⟨1⟩ }) trivial).serve (.release ⟨3, 3, Instant.start⟩ none false)).drift
      (w := { backends := [{ attempts := 5, opened := 5 }]
              conns := [.born 0 1 {}, .born 0 2 {}, .born 0 3 {}, .born 0 4 {}, .born 0 5 {}]
              manual := ⟨9⟩ }) trivial).serve (.release ⟨4, 4, Instant.start⟩ none false) |>.drift
      (w := { backends := [{ attempts := 5, opened := 5 }]
              conns := [.born 0 1 {}, .born 0 2 { severed := true },
                { SimConn.born 0 3 {} with onClose := .refuses }, .born 0 4 {}, .born 0 5 {}]
              manual := ⟨5⟩ }) trivial⟩
  obtain ⟨closes, report, q, v, hprune, hdone, hcalls, hagain⟩ :=
    (evicts_exactly_the_overdue h).1 rfl (by decide) ⟨5⟩ _ rfl
  have hmanual : v.manual = ⟨5⟩ := (congrArg (fun s => s.2.2.manual) hprune).symm
  obtain ⟨hagain, hsame, _⟩ := hagain v hmanual
  refine ⟨_, _, _, report, q, v, h, rfl, rfl, rfl, rfl, hprune, ?_, ?_, rfl, hagain, hsame, ?_⟩
  · exact (congrArg (fun s => s.1) hprune).symm
  · exact (congrArg (fun s => s.2.1.idleIds) hprune).symm
  · exact congrArg Prod.fst ((evicts_exactly_the_overdue (h.serve .closeAll)).2 (Or.inl rfl)).1

end Pool

end ConnPool
