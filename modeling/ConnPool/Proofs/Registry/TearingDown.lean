import ConnPool.Proofs.Fleet.Shutdown
import ConnPool.Proofs.Pool.Shutdown
import ConnPool.Proofs.Registry.Providing

/-!
# Tearing a registry down

A registry is torn down by closing its pools one after the other. A table suggests no order for
this, and none for the connections that are checked out of one of the pools either.
`ConnPool.Registry.TearsDown` allows for all of them, and the main statement,
`ConnPool.Registry.torn_down_in_any_order`, says that they come to the same: what is reported for a
dsn is what its pool would have reported if it had been closed alone, and in the end the same
connections are closed. So it also comes to the same as removing one dsn after the other
(`ConnPool.Registry.removeEach`).

This is so although the pools may share a backend, and some may have been closed before. What
matters is that no two of them own the same connection (`ConnPool.Registry.Run.separate`): a pool
owns only what it has opened, and no pool is registered for two dsns.
-/

namespace ConnPool

open Fleet (Changes ShutDownEach Separate)

namespace Registry

variable {env : World → World → Prop} {r : Registry} {f f' f₀ : Fleet} {dsn : String} {i : PoolId}
  {hist : History} {l order : List (String × PoolId)}
  {reports : List (String × ClosingReport Fault)}

/-! ### One pool after the other -/

/-- **The pools of some registrations are shut down** one after the other. There is a report for
each dsn. -/
structure TearsDown (order : List (String × PoolId)) (f : Fleet)
    (reports : List (String × ClosingReport Fault)) (f' : Fleet) : Prop where
  dsns_eq : reports.map Prod.fst = order.map Prod.fst
  shutDown : ShutDownEach (order.map Prod.snd) f (reports.map Prod.snd) f'

/-- Closing them does that. -/
theorem tearsDown_closeEach (hl : ∀ e ∈ l, e.2 < f.members.length) :
    TearsDown l f (closeEach l f).1 (closeEach l f).2 := by
  induction l generalizing f with
  | nil => exact ⟨rfl, .nil⟩
  | cons e l ih =>
    obtain ⟨he, hl⟩ := List.forall_mem_cons.mp hl
    have hchanges : Changes (fun _ _ => False) f (f.closeAll e.2).2 := Fleet.changes_closeAll f e.2
    have hrest := ih fun e' he' =>
      Nat.lt_of_lt_of_le (hl e' he') (Fleet.length_le_of_changes hchanges)
    exact ⟨congrArg (e.1 :: ·) hrest.dsns_eq, .cons (Fleet.shutsDown_closeAll he) hrest.shutDown⟩

/-- Removes some dsns one after the other. -/
def removeEach : List String → Registry → Fleet →
    List (Option (ClosingReport Fault)) × Registry × Fleet
  | [], r, f => ([], r, f)
  | dsn :: rest, r, f =>
    match r.remove dsn f with
    | (report, r, f) =>
      match removeEach rest r f with
      | (reports, r, f) => (report :: reports, r, f)

theorem remove_of_registered (hget : r.get? dsn = some i) (f : Fleet) :
    r.remove dsn f =
      (some (f.closeAll i).1, { pools := r.pools.erase dsn }, (f.closeAll i).2) := by
  simp only [remove, hget]

theorem remove_of_unregistered (hget : r.get? dsn = none) (f : Fleet) :
    r.remove dsn f = (none, r, f) := by
  simp only [remove, hget]

/-- **Removing some dsns is closing their pools**, and forgetting them. -/
theorem removeEach_eq (hl : ∀ e ∈ l, r.get? e.1 = some e.2) (hnodup : (l.map Prod.fst).Nodup)
    (f : Fleet) : removeEach (l.map Prod.fst) r f =
      ((closeEach l f).1.map fun e => some e.2, { pools := r.pools.eraseAll (l.map Prod.fst) },
        (closeEach l f).2) := by
  induction l generalizing r f with
  | nil =>
    rw [List.map_nil, Table.eraseAll_nil]
    rfl
  | cons e l ih =>
    obtain ⟨he, hl⟩ := List.forall_mem_cons.mp hl
    obtain ⟨hne, hnodup⟩ := List.nodup_cons.mp hnodup
    have hrest : ∀ e' ∈ l, ({ pools := r.pools.erase e.1 } : Registry).get? e'.1 = some e'.2 :=
      fun e' he' => Table.get?_erase_eq_some_iff.mpr
        ⟨fun heq => hne (heq ▸ List.mem_map_of_mem he'), hl e' he'⟩
    simp only [List.map_cons, removeEach, remove_of_registered he, ih hrest hnodup, closeEach]
    rw [Table.erase_eq_eraseAll, Table.eraseAll_eraseAll, List.singleton_append]

/-! ### The pools are separate -/

/-- All that a run does to the fleet are changes. -/
theorem Run.changes {s : Registry × Fleet} (h : Run env f₀ hist s) : Changes env f₀ s.2 := by
  induction h with
  | start => exact .refl
  | elsewhere _ hstep ih => exact ih.tail hstep
  | provide _ dsn config maker ih => exact ih.trans (changes_provide _ _ dsn config maker)
  | remove _ dsn ih => exact ih.trans (changes_remove _ _ dsn)
  | closeAll _ ih => exact ih.trans (changes_closeAll _ _)

/-- **No two pools of a registry own the same connection.** -/
theorem Run.separate (h : Run (World.Event fun _ _ => True) {} hist (r, f)) :
    f.Separate (r.pools.entries.map Prod.snd) := by
  obtain ⟨log, hrecorded⟩ := Fleet.Recorded.start.changes h.changes
  have hparted := hrecorded.parted
  have hknows : Knows hist r f := h.knows
  have howns : ∀ {i g}, g ∈ f.handles i → ∃ m, f.member? i = some m ∧ m.pool.Has g := by
    intro i g hg
    rw [Fleet.handles] at hg
    cases hm : f.member? i with
    | none =>
      rw [hm] at hg
      cases hg
    | some m =>
      rw [hm] at hg
      exact ⟨m, rfl, (Pool.mem_idleHandles_append_iff m.pool.heldHandles_perm).mp hg⟩
  refine List.pairwise_flatMap.mpr ⟨fun i _ => ?_, ?_⟩
  · rw [Fleet.handles]
    cases hm : f.member? i with
    | none => exact .nil
    | some m =>
      refine (hparted.apart hm).distinct (fun g hg => ?_)
        ((hparted.consistent hm).nodup_idleHandles_append m.pool.heldHandles_perm)
      exact (Pool.mem_idleHandles_append_iff m.pool.heldHandles_perm).mp hg
  · -- different dsns, so different pools
    refine List.pairwise_map.mpr ((List.pairwise_map.mp r.pools.nodup).imp_of_mem ?_)
    intro e e' he he' hne g hg g' hg' hconn
    obtain ⟨m, hm, hhas⟩ := howns hg
    obtain ⟨m', hm', hhas'⟩ := howns hg'
    have hopened := hparted.opened_of_owns hm hhas.owns
    have hopened' := hparted.opened_of_owns hm' hhas'.owns
    have hsame : e.2 = e'.2 := hparted.opened_once (hconn ▸ hopened) hopened'
    have hget : r.get? e.1 = some e.2 := Table.get?_eq_some_iff.mpr he
    have hget' : r.get? e'.1 = some e.2 := hsame ▸ Table.get?_eq_some_iff.mpr he'
    exact hne (hknows.dsn_eq (hknows.provided hget) (hknows.provided hget'))

/-! ### What it comes to -/

/-- Closing the pools of some registrations closes these, and no others. -/
theorem isClosed_closeEach_iff (l : List (String × PoolId)) (f : Fleet) (j : PoolId) :
    (closeEach l f).2.isClosed j = true ↔
      f.isClosed j = true ∨ (j ∈ l.map Prod.snd ∧ j < f.members.length) := by
  induction l generalizing f with
  | nil => simp [closeEach]
  | cons e l ih =>
    have hlength : (f.closeAll e.2).2.members.length = f.members.length := by
      rw [Fleet.closeAll_eq, List.length_modify]
    refine (ih (f.closeAll e.2).2).trans ?_
    rw [hlength, Fleet.closeAll_eq_serve, Fleet.isClosed_serve, List.map_cons, List.mem_cons]
    tauto

/-- **There is a report for each dsn**, and each is what its pool would have reported if it had
been closed alone. -/
structure EachAlone (r : Registry) (f : Fleet)
    (reports : List (String × ClosingReport Fault)) : Prop where
  once : (reports.map Prod.fst).Nodup
  dsns : ∀ dsn, dsn ∈ reports.map Prod.fst ↔ ∃ i, r.get? dsn = some i
  alone : ∀ dsn report, (dsn, report) ∈ reports → ∃ i, r.get? dsn = some i ∧
    (r.remove dsn f).1 = some (f.closeAll i).1 ∧ (f.closeAll i).1.Agrees report

theorem TearsDown.eachAlone (h : TearsDown order f reports f')
    (horder : order.Perm r.pools.entries) (hsep : f.Separate (order.map Prod.snd)) :
    EachAlone r f reports where
  once := by
    rw [h.dsns_eq]
    exact (horder.map Prod.fst).nodup_iff.mpr r.pools.nodup
  dsns dsn := by
    rw [h.dsns_eq, (horder.map Prod.fst).mem_iff, List.mem_map]
    refine ⟨?_, ?_⟩
    · rintro ⟨⟨_, i⟩, hmem, rfl⟩
      exact ⟨i, Table.get?_eq_some_iff.mpr hmem⟩
    · rintro ⟨i, hget⟩
      exact ⟨(dsn, i), Table.get?_eq_some_iff.mp hget, rfl⟩
  alone dsn report hmem := by
    -- the report is at the same place as the registration
    obtain ⟨k, hk, hreport⟩ := List.getElem_of_mem hmem
    have hlength : reports.length = order.length := by
      simpa only [List.length_map] using congrArg List.length h.dsns_eq
    have hk' : k < order.length := hlength ▸ hk
    have hdsn : dsn = order[k].1 := by
      have hsame := congrArg (fun l => l[k]?) h.dsns_eq
      simpa [hk, hk', hreport] using hsame
    have hget : r.get? dsn = some order[k].2 :=
      hdsn ▸ Table.get?_eq_some_iff.mpr (horder.mem_iff.mp (List.getElem_mem hk'))
    refine ⟨order[k].2, hget, ?_, ?_⟩
    · rw [remove_of_registered hget]
    · have hagrees := (h.shutDown.agrees hsep).get (i := k) (by simpa using hk') (by simpa using hk)
      simpa [hreport] using hagrees

/-- **A dsn is forgotten**, and its pool closed. -/
structure Forgets (r : Registry) (f : Fleet) (dsn : String) (i : PoolId) : Prop where
  answer : (r.remove dsn f).1 = some (f.closeAll i).1
  get?_eq : ∀ other, (r.remove dsn f).2.1.get? other = if other = dsn then none else r.get? other
  /-- This pool is closed, and no other is. -/
  isClosed : ∀ j, (r.remove dsn f).2.2.isClosed j = true ↔ f.isClosed j = true ∨ j = i
  /-- The other pools and their connections are as they were. -/
  others : ∀ j m, j ≠ i → f.member? j = some m → (r.remove dsn f).2.2.member? j = some m ∧
    ∀ c, m.pool.Owns c → (r.remove dsn f).2.2.world.conn? c = f.world.conn? c

theorem Run.forgets (h : Run (World.Event fun _ _ => True) {} hist (r, f))
    (hget : r.get? dsn = some i) : Forgets r f dsn i := by
  have hknows : Knows hist r f := h.knows
  have hi : i < f.members.length := hknows.present (hknows.provided hget)
  obtain ⟨log, hrecorded⟩ := Fleet.Recorded.start.changes h.changes
  have hremove := remove_of_registered hget f
  exact {
    answer := congrArg Prod.fst hremove
    get?_eq := fun other => by
      rw [hremove]
      exact Table.get?_erase _ _ _
    isClosed := fun j => by
      rw [isClosed_remove, hget, Option.some_inj]
      refine or_congr_right ⟨fun hj => hj.1.symm, ?_⟩
      rintro rfl
      exact ⟨rfl, hi⟩
    others := fun j m hj hm => by
      obtain ⟨hsame, hconns⟩ := hrecorded.parted.serve_other hj hm .closeAll
      rw [hremove, Fleet.closeAll_eq_serve]
      exact ⟨hsame, fun c hc => (hconns c hc).2⟩ }

/-! ### Main statement -/

/-- **A registry may be torn down in any order.** Its pools can be closed one after the other, or
its dsns removed, and to tear it down is to do that in one of the orders. Whichever it is, and
whatever the order in which each pool closes what is checked out of it, there is one report for each
dsn, with what its pool would have reported in the beginning; the same pools are closed, each
connection is left in the same state, and the registry is empty. To remove one dsn is to close and
to forget its pool and no other, and to remove a dsn that is not registered is to do nothing. -/
theorem torn_down_in_any_order (h : Run (World.Event fun _ _ => True) {} hist (r, f)) :
    (∀ order, order.Perm r.pools.entries →
      TearsDown order f (closeEach order f).1 (closeEach order f).2 ∧
        removeEach (order.map Prod.fst) r f =
          ((closeEach order f).1.map fun e => some e.2, {}, (closeEach order f).2)) ∧
      (r.registrations.Perm r.pools.entries ∧ r.closeAll f =
        ((closeEach r.registrations f).1, {}, (closeEach r.registrations f).2)) ∧
      (∀ order reports f', order.Perm r.pools.entries → TearsDown order f reports f' →
        EachAlone r f reports ∧ f'.members = (r.closeAll f).2.2.members ∧
          (r.closeAll f).2.2.world.Reordered f'.world ∧
          ∀ j, f'.isClosed j = true ↔ f.isClosed j = true ∨ ∃ dsn, r.get? dsn = some j) ∧
      ∀ dsn, (r.get? dsn = none → r.remove dsn f = (none, r, f)) ∧
        ∀ i, r.get? dsn = some i → Forgets r f dsn i := by
  have hknows : Knows hist r f := h.knows
  have hpresent : ∀ {dsn i}, r.get? dsn = some i → i < f.members.length :=
    fun hget => hknows.present (hknows.provided hget)
  have hregistered : ∀ {order : List (String × PoolId)}, order.Perm r.pools.entries →
      ∀ e ∈ order, r.get? e.1 = some e.2 := fun horder e he =>
    Table.get?_eq_some_iff.mpr (horder.mem_iff.mp he)
  have hdown : ∀ {order : List (String × PoolId)}, order.Perm r.pools.entries →
      TearsDown order f (closeEach order f).1 (closeEach order f).2 := fun horder =>
    tearsDown_closeEach fun e he => hpresent (hregistered horder e he)
  have hsorted : r.registrations.Perm r.pools.entries := List.mergeSort_perm _ _
  refine ⟨fun order horder => ⟨hdown horder, ?_⟩, ⟨hsorted, rfl⟩,
    fun order reports f' horder htears => ?_, fun dsn =>
      ⟨fun hget => remove_of_unregistered hget f, fun i hget => h.forgets hget⟩⟩
  · have hperm : (order.map Prod.fst).Perm (r.pools.entries.map Prod.fst) := horder.map Prod.fst
    rw [removeEach_eq (hregistered horder) (hperm.nodup_iff.mpr r.pools.nodup)]
    have hempty : r.pools.eraseAll (order.map Prod.fst) = ∅ := by
      refine Table.eq_empty fun dsn => (Table.get?_eraseAll _ _ _).trans ?_
      split
      · rfl
      · rename_i hdsn
        exact Table.get?_eq_none_iff.mpr fun hmem => hdsn (hperm.mem_iff.mpr hmem)
    rw [hempty]
  · have hsep : ∀ {order : List (String × PoolId)}, order.Perm r.pools.entries →
        f.Separate (order.map Prod.snd) := fun horder =>
      h.separate.perm (horder.symm.map Prod.snd)
    -- in the order of the dsns it comes to the same
    obtain ⟨hmembers, hworld⟩ := (hdown hsorted).shutDown.reordered htears.shutDown
      ((hsorted.trans horder.symm).map Prod.snd) (hsep hsorted)
    refine ⟨htears.eachAlone horder (hsep horder), hmembers, hworld, fun j => ?_⟩
    have hsame : f'.isClosed j = (closeEach r.registrations f).2.isClosed j := by
      rw [Fleet.isClosed, Fleet.member?, hmembers]
      rfl
    rw [hsame, isClosed_closeEach_iff]
    refine or_congr_right ⟨?_, ?_⟩
    · rintro ⟨hmem, _⟩
      obtain ⟨⟨dsn, _⟩, he, rfl⟩ := List.mem_map.mp hmem
      exact ⟨dsn, mem_registrations.mp he⟩
    · rintro ⟨dsn, hget⟩
      exact ⟨List.mem_map_of_mem (mem_registrations.mpr hget), hpresent hget⟩

/-- Three pools share a backend. The connection of the first is checked out and refuses to be
closed; the second pool has been closed by a borrower, with its connection; that of the third is
idle. If the dsns are removed in another order than theirs, each reports what it would have
reported alone. -/
theorem torn_down_in_any_order_with_refusal :
    ∃ hist r f order f', Run (World.Event fun _ _ => True) {} hist (r, f) ∧
      order = [("c", 2), ("b", 1), ("a", 0)] ∧ order.Perm r.pools.entries ∧
      f.isClosed 1 = true ∧
      removeEach ["c", "b", "a"] r f =
        ([some ⟨1, []⟩, some ⟨0, []⟩, some ⟨0, [⟨0, .closeRefused 1⟩]⟩], {}, f') ∧
      EachAlone r f [("c", ⟨1, []⟩), ("b", ⟨0, []⟩), ("a", ⟨0, [⟨0, .closeRefused 1⟩]⟩)] ∧
      (f'.world.backend 0).closeLog = [2, 3] ∧
      (r.closeAll f).2.2.world.Reordered f'.world ∧ Forgets r f "a" 0 := by
  obtain ⟨hist, r, f, h, hpools, hclosed, hreports, hlog⟩ : ∃ hist r f,
      Run (World.Event fun _ _ => True) {} hist (r, f) ∧
      r.pools.entries = [("c", 2), ("b", 1), ("a", 0)] ∧ f.isClosed 1 = true ∧
      (closeEach [("c", 2), ("b", 1), ("a", 0)] f).1 =
        [("c", ⟨1, []⟩), ("b", ⟨0, []⟩), ("a", ⟨0, [⟨0, .closeRefused 1⟩]⟩)] ∧
      ((closeEach [("c", 2), ("b", 1), ("a", 0)] f).2.world.backend 0).closeLog = [2, 3] :=
    ⟨_, _, _, (((((Run.start.provide "a" {} fun _ => 0).provide "b" {} fun _ => 0).provide
      "c" {} fun _ => 0).elsewhere (.serve 0 (.acquire none) _)).elsewhere
      (.serve 1 .closeAll _)).elsewhere (.drift _ (.adjust 0
        (f := fun k => { k with onClose := .refuses })
        ⟨fun _ => rfl, fun _ => rfl, fun _ => rfl, fun _ => id⟩ _)),
      rfl, by decide +kernel, by decide +kernel, by decide +kernel⟩
  obtain ⟨hclosing, _, hagree, hforgets⟩ := torn_down_in_any_order h
  obtain ⟨htears, hremove⟩ := hclosing _ (.of_eq hpools.symm)
  obtain ⟨heach, _, hworld, _⟩ := hagree _ _ _ (.of_eq hpools.symm) htears
  rw [hreports] at heach hremove
  refine ⟨hist, r, f, _, _, h, rfl, .of_eq hpools.symm, hclosed, hremove, heach, hlog, hworld,
    (hforgets "a").2 0 (Table.get?_eq_some_iff.mpr ?_)⟩
  rw [hpools]
  decide

end Registry

end ConnPool
