import ConnPool.Proofs.Pool.Eviction
import ConnPool.Proofs.Pool.Stamps

/-!
# The order of the idle stack

The idle connections stand on the stack in the order in which they have been put there. So their
stamps, read from the bottom of the stack to its top, are some of the readings of the clock, in
the order in which the pool has made them. This is so of every clock, and it is what all steps of
a pool keep (`ConnPool.Pool.Move.timely`). If the clock never goes back, the readings do not
decrease, and then the stamps do not either. Likewise a connection is opened at an earlier reading
than it is put on the stack (`ConnPool.Pool.Dated`).

A driver that writes down the readings of its clock is `ConnPool.Driver.timed`. A pool cannot tell
it from the driver it is made of, so the readings of a run can be computed from its history
(`ConnPool.Pool.readings`).

On an ordered stack, the overdue connections are those at the bottom, and a prune cuts them off.
-/

namespace ConnPool

/-- A test that never succeeds again once it has failed cuts a list in two. -/
theorem filter_append_filter_not {α : Type} {f : α → Bool} {l : List α}
    (hl : l.Pairwise fun a b => f b = true → f a = true) :
    (l.filter f) ++ (l.filter fun a => !f a) = l := by
  induction l with
  | nil => rfl
  | cons a l ih =>
    obtain ⟨ha, hl⟩ := List.pairwise_cons.mp hl
    cases hf : f a with
    | true =>
      rw [List.filter_cons_of_pos hf, List.filter_cons_of_neg (by simp [hf]), List.cons_append,
        ih hl]
    | false =>
      have hnone : ∀ b ∈ a :: l, f b = false := by
        refine List.forall_mem_cons.mpr ⟨hf, fun b hb => Bool.eq_false_iff.mpr fun hfb => ?_⟩
        exact Bool.false_ne_true (hf.symm.trans (ha b hb hfb))
      rw [List.filter_eq_nil_iff.mpr fun b hb => by simp [hnone b hb], List.nil_append,
        List.filter_eq_self.mpr fun b hb => by simp [hnone b hb]]

/-! ### The readings of a clock -/

namespace Driver

variable {W C ε : Type} {d : Driver W C ε}

/-- **A driver that writes down the readings of its clock**: the same driver, except that beside
the world it keeps a list of them, the latest last. -/
def timed (d : Driver W C ε) : Driver (W × List Instant) C ε where
  connect s := match d.connect s.1 with
    | (result, w) => (result, w, s.2)
  close c s := match d.close c s.1 with
    | (result, w) => (result, w, s.2)
  isClosed c s := match d.isClosed c s.1 with
    | (answer, w) => (answer, w, s.2)
  status c s := match d.status c s.1 with
    | (answer, w) => (answer, w, s.2)
  rollback c s := match d.rollback c s.1 with
    | (result, w) => (result, w, s.2)
  now s := match d.now s.1 with
    | (reading, w) => (reading, w, s.2 ++ [reading])

theorem projects_timed (d : Driver W C ε) : d.timed.Projects Prod.fst d where
  connect _ := rfl
  close _ _ := rfl
  isClosed _ _ := rfl
  status _ _ := rfl
  rollback _ _ := rfl
  now _ := rfl

/-- What the clock shows is written down. -/
theorem now_timed {s s' : W × List Instant} {reading : Instant}
    (h : d.timed.now s = (reading, s')) : s'.2 = s.2 ++ [reading] := by
  cases h
  rfl

theorem mem_of_now_timed {s s' : W × List Instant} {reading : Instant}
    (h : d.timed.now s = (reading, s')) : reading ∈ s'.2 :=
  now_timed h ▸ List.mem_append_right s.2 List.mem_cons_self

/-- **Nothing is crossed out.** -/
theorem follows_timed (d : Driver W C ε) : d.timed.Follows fun s s' => s.2.Sublist s'.2 := by
  refine Along.follows (R := fun s s' : W × List Instant => s.2.Sublist s'.2) ?_ fun h => ?_
  · exact
      { refl := fun s => List.Sublist.refl s.2
        trans := List.Sublist.trans
        close := fun h => by cases h; exact List.Sublist.refl _
        isClosed := fun h => by cases h; exact List.Sublist.refl _
        status := fun h => by cases h; exact List.Sublist.refl _
        rollback := fun h => by cases h; exact List.Sublist.refl _
        now := fun h => now_timed h ▸ List.sublist_append_left _ _ }
  · cases h
    exact List.Sublist.refl _

end Driver

/-- **A request is genuine**: the handle it hands back is the one that is checked out, if the two
mean the same connection. Handles are made by pools alone and copied as they are, so this is the
case wherever they cannot be forged. The handles of other pools are genuine as well. -/
def Request.Genuine {C : Type} [DecidableEq C] (r : Request (Handle C)) (p : Pool C) : Prop :=
  ∀ h key force, r = .release h key force →
    ∀ k g, p.held.get? k = some g → g.isSame h = true → h = g

namespace Pool

variable {W C ε : Type} {d : Driver W C ε} {p : Pool C} {w : W} {g : Handle C}
  {l l' : List Instant} {now : Instant}

/-! ### The stamps on the stack -/

theorem mem_idleIds {id : ConnId} : id ∈ p.idleIds ↔ id ∈ p.idle.map Handle.id := by
  rw [idleIds, idleHandles, List.map_reverse, List.mem_reverse]

/-- The stamps of the idle connections, from the bottom of the stack to its top. -/
def idleStamps (p : Pool C) : List Instant := p.idleIds.filterMap p.idleSince?

/-- In a consistent pool no idle connection is without a stamp. -/
theorem Consistent.map_some_idleStamps (hp : p.Consistent) :
    p.idleStamps.map some = p.idleIds.map p.idleSince? := by
  rw [idleStamps, List.map_filterMap_some_eq_filter_map_isSome, List.filter_eq_self]
  intro stamp hstamp
  obtain ⟨id, hid, rfl⟩ := List.mem_map.mp hstamp
  exact (hp.stamped id).mpr (mem_idleIds.mp hid)

/-- **If the stamps are in order, the overdue connections are at the bottom of the stack.** -/
theorem Consistent.overdue_append (hp : p.Consistent) (horder : p.idleStamps.Pairwise (· ≤ ·))
    (now : Instant) :
    p.overdue now ++ (p.idleHandles.filter fun g => ¬p.Overdue now g) = p.idleHandles := by
  -- whoever stands below an overdue connection has idled for longer
  have hbelow : p.idleHandles.Pairwise fun g h =>
      decide (p.Overdue now h) = true → decide (p.Overdue now g) = true := by
    rw [idleStamps, List.pairwise_filterMap, idleIds, List.pairwise_map] at horder
    refine horder.imp_of_mem fun {g h} hg _ hle hoverdue => ?_
    obtain ⟨t, ht, hlong⟩ := of_decide_eq_true hoverdue
    obtain ⟨s, hs⟩ := Option.isSome_iff_exists.mp ((hp.stamped g.id).mpr
      (List.mem_map_of_mem (List.mem_reverse.mp hg)))
    refine decide_eq_true ⟨s, hs, Nat.le_trans hlong ?_⟩
    exact Nat.sub_le_sub_left (hle s hs t ht) now.nanos
  simp only [overdue, decide_not]
  exact filter_append_filter_not hbelow

/-- So a prune cuts off the bottom, whatever the driver and the clock. -/
theorem Consistent.exists_append_prune (hp : p.Consistent)
    (horder : p.idleStamps.Pairwise (· ≤ ·)) (d : Driver W C ε) (w : W) :
    ∃ gone, p.idleHandles = gone ++ (p.prune d w).2.1.idleHandles ∧
      (p.prune d w).1.evicted = gone.length := by
  by_cases hinactive : p.closed = true ∨ p.config.idleTimeout.nanos = 0
  · rw [prune_of_inactive hinactive]
    exact ⟨[], rfl, rfl⟩
  · obtain ⟨hopen, hevicts⟩ := not_or.mp hinactive
    obtain ⟨now, u, hnow⟩ : ∃ now u, d.now w = (now, u) := ⟨_, _, rfl⟩
    rw [prune_of_active (Bool.eq_false_iff.mpr hopen) hevicts hnow]
    refine ⟨p.overdue now, ?_, rfl⟩
    rw [← hp.overdue_append horder now, idleHandles, idleHandles, List.filter_reverse]

/-! ### Stamps in the order of the readings -/

/-- **A pool is timely**: the stamps of the idle connections are some of the readings, in the
order of the readings. -/
structure Timely (p : Pool C) (readings : List Instant) : Prop where
  consistent : p.Consistent
  stamps : p.idleStamps.Sublist readings

theorem timely_fresh (config : Config) : Timely (fresh config : Pool C) [] :=
  ⟨consistent_fresh config, .slnil⟩

theorem Timely.mono (h : Timely p l) (hle : l.Sublist l') : Timely p l' :=
  ⟨h.consistent, h.stamps.trans hle⟩

/-- Taking a connection off the stack takes its stamp off. -/
theorem Timely.unstack (h : Timely p l) (above below : List (Handle C))
    (hidle : p.idle = above ++ g :: below) : Timely (p.unstack g (above ++ below)) l := by
  obtain ⟨hrest, hl⟩ := h.consistent.unstack above below hidle
  have hids : (p.unstack g (above ++ below)).idleIds.Sublist p.idleIds := by
    rw [idleIds, idleIds, idleHandles, idleHandles, hidle]
    refine List.Sublist.map _ (List.Sublist.reverse ?_)
    exact (List.sublist_cons_self g below).append_left above
  have hsame : (p.unstack g (above ++ below)).idleStamps =
      (p.unstack g (above ++ below)).idleIds.filterMap p.idleSince? := by
    refine List.filterMap_congr fun id hid => (Table.get?_erase _ _ _).trans (if_neg ?_)
    rintro rfl
    exact hl.not_idle (mem_idleIds.mp hid)
  refine ⟨hrest, ?_⟩
  rw [hsame]
  exact (hids.filterMap _).trans h.stamps

/-- Putting one on top puts its stamp on top, and this is the latest reading. -/
theorem Timely.stack (h : Timely p l) (hl : p.Loose g.id) (now : Instant) :
    Timely (p.stack g now) (l ++ [now]) := by
  have hids : (p.stack g now).idleIds = p.idleIds ++ [g.id] := by
    rw [idleIds, idleHandles, idleIds, idleHandles, Pool.stack, List.reverse_cons, List.map_append]
    rfl
  have hnew : (p.stack g now).idleSince? g.id = some now :=
    (Table.get?_insert _ _ _ _).trans (if_pos rfl)
  have hold : p.idleIds.filterMap (p.stack g now).idleSince? = p.idleStamps := by
    refine List.filterMap_congr fun id hid => (Table.get?_insert _ _ _ _).trans (if_neg ?_)
    rintro rfl
    exact hl.not_idle (mem_idleIds.mp hid)
  refine ⟨h.consistent.stack hl now, ?_⟩
  rw [idleStamps, hids, List.filterMap_append, hold, List.filterMap_cons_some hnew,
    List.filterMap_nil]
  exact h.stamps.append_right [now]

/-- Giving a number away does not matter. -/
theorem Timely.number (h : Timely p l) : Timely p.number l := ⟨h.consistent.number.1, h.stamps⟩

theorem Opens.timely {t t' : Pool C × W × List Instant} (hstep : Opens d.timed t t')
    (h : Timely t.1 (l ++ t.2.2)) : Timely t'.1 (l ++ t'.2.2) := by
  have hle := (hstep.follows d.follows_timed).append_left l
  cases hstep with
  | failed _ _ _ => exact h.mono hle
  | added _ _ hconnect hnow hsince =>
    have hread := d.follows_timed.trans (d.follows_timed.connect hconnect)
      (d.follows_timed.now hnow)
    rw [Driver.now_timed hsince, ← List.append_assoc]
    refine Timely.stack ?_ h.consistent.number.2 _
    exact h.number.mono (hread.append_left l)

/-! ### Connections are opened before they are idle -/

/-- **A pool is dated**: every connection has been opened at one of the readings, and if it is idle
it has been put on the stack at a later one. -/
structure Dated (p : Pool C) (readings : List Instant) : Prop where
  consistent : p.Consistent
  idle : ∀ g ∈ p.idle, ∀ t, p.idleSince? g.id = some t → [g.createdAt, t].Sublist readings
  held : ∀ {k : Key} {g : Handle C}, p.held.get? k = some g → g.createdAt ∈ readings

theorem dated_fresh (config : Config) : Dated (fresh config : Pool C) [] where
  consistent := consistent_fresh config
  idle _ hg := absurd hg List.not_mem_nil
  held h := by cases h

theorem Dated.mono (h : Dated p l) (hle : l.Sublist l') : Dated p l' where
  consistent := h.consistent
  idle g hg t ht := (h.idle g hg t ht).trans hle
  held hk := hle.subset (h.held hk)

/-- A connection that is taken off the stack has been opened at one of the readings. -/
theorem Dated.unstack (h : Dated p l) (above below : List (Handle C))
    (hidle : p.idle = above ++ g :: below) :
    Dated (p.unstack g (above ++ below)) l ∧ g.createdAt ∈ l := by
  have hmem : g ∈ p.idle := hidle ▸ List.mem_append_right above List.mem_cons_self
  refine ⟨⟨(h.consistent.unstack above below hidle).1, fun f hf t ht => ?_, h.held⟩, ?_⟩
  · refine h.idle f ?_ t (Table.get?_erase_eq_some_iff.mp ht).2
    rw [hidle]
    exact ((List.sublist_cons_self g below).append_left above).subset hf
  · obtain ⟨t, ht⟩ := Option.isSome_iff_exists.mp
      ((h.consistent.stamped g.id).mpr (List.mem_map_of_mem hmem))
    exact (h.idle g hmem t ht).subset List.mem_cons_self

theorem Dated.number (h : Dated p l) : Dated p.number l :=
  ⟨h.consistent.number.1, h.idle, h.held⟩

theorem Dated.stack (h : Dated p l) (hl : p.Loose g.id) (hg : g.createdAt ∈ l) (now : Instant) :
    Dated (p.stack g now) (l ++ [now]) := by
  refine ⟨h.consistent.stack hl now, fun f hf t ht => ?_,
    fun hk => List.mem_append_left [now] (h.held hk)⟩
  rcases Table.get?_insert_eq_some_iff.mp ht with ⟨hid, rfl⟩ | ⟨hne, hold⟩
  · -- no other connection has its number
    have hfg : f = g := by
      refine (List.mem_cons.mp hf).resolve_right fun hf => ?_
      exact hl.not_idle (hid ▸ List.mem_map_of_mem hf)
    rw [hfg]
    exact (List.singleton_sublist.mpr hg).append_right [now]
  · have hf : f ∈ p.idle := (List.mem_cons.mp hf).resolve_left fun hfg => hne (hfg ▸ rfl)
    exact (h.idle f hf t hold).trans (List.sublist_append_left l [now])

theorem Dated.checkOut (h : Dated p l) (hl : p.Loose g.id) (hg : g.createdAt ∈ l)
    (key : Option Key) : Dated (p.checkOut key g) l := by
  refine ⟨h.consistent.checkOut hl key, h.idle, fun hk => ?_⟩
  rcases Table.get?_insert_eq_some_iff.mp hk with ⟨_, rfl⟩ | ⟨_, hk⟩
  · exact hg
  · exact h.held hk

theorem Opens.dated {t t' : Pool C × W × List Instant} (hstep : Opens d.timed t t')
    (h : Dated t.1 (l ++ t.2.2)) : Dated t'.1 (l ++ t'.2.2) := by
  have hle := (hstep.follows d.follows_timed).append_left l
  cases hstep with
  | failed _ _ _ => exact h.mono hle
  | @added p w w₁ w₂ w₃ conn now since _ _ hconnect hnow hsince =>
    have hread := d.follows_timed.trans (d.follows_timed.connect hconnect)
      (d.follows_timed.now hnow)
    have hcreated : now ∈ l ++ w₂.2 := List.mem_append_right l (Driver.mem_of_now_timed hnow)
    rw [Driver.now_timed hsince, ← List.append_assoc]
    exact (h.number.mono (hread.append_left l)).stack h.consistent.number.2 hcreated since

/-! ### Steps -/

variable [DecidableEq C]

/-- **Every step keeps a pool timely.** -/
theorem Move.timely {r : Request (Handle C)} {t t' : Pool C × W × List Instant}
    (hstep : Move d.timed r t t') (h : Timely t.1 (l ++ t.2.2)) :
    Timely t'.1 (l ++ t'.2.2) := by
  have hle := (hstep.follows d.follows_timed).append_left l
  have hp' : t'.1.Consistent := hstep.consistent h.consistent
  cases hstep with
  | discard _ hdrop =>
    cases hdrop with
    | mk htop _ _ => exact (h.unstack [] _ htop).mono hle
  | reuse _ _ htop _ _ => exact ⟨hp', ((h.unstack [] _ htop).mono hle).stamps⟩
  | fail _ _ _ _ => exact h.mono hle
  | lend _ _ _ _ _ _ => exact ⟨hp', (h.mono hle).stamps⟩
  | @giveBack _ _ _ _ _ k _ hk hs =>
    obtain ⟨hrest, hl⟩ := h.consistent.checkIn hk
    rcases hs with _ | _ | ⟨_, hcheck, _, hnow⟩
    · exact ⟨hp', (h.mono hle).stamps⟩
    · exact ⟨hp', (h.mono hle).stamps⟩
    · have hread := d.follows_timed.recycle hcheck
      rw [Driver.now_timed hnow, ← List.append_assoc]
      refine Timely.stack ⟨hrest, ?_⟩ hl _
      exact (h.mono (hread.append_left l)).stamps
  | refill hopens => exact hopens.timely h
  | look _ => exact h.mono hle
  | evict _ hidle => exact (h.unstack _ _ hidle).mono hle
  | shut _ => exact h.mono hle
  | close => exact ⟨hp', (h.mono hle).stamps⟩

theorem Dated.checkIn {key : Option Key} {k : Key} (h : Dated p l)
    (hk : p.checkout? g key = some k) : Dated (p.checkIn k g) l :=
  ⟨(h.consistent.checkIn hk).1, h.idle, fun hk => h.held (Table.get?_erase_eq_some_iff.mp hk).2⟩

/-- **Every step of a genuine request keeps a pool dated.** -/
theorem Move.dated {r : Request (Handle C)} {t t' : Pool C × W × List Instant}
    (hstep : Move d.timed r t t') (hr : r.Genuine t.1) (h : Dated t.1 (l ++ t.2.2)) :
    Dated t'.1 (l ++ t'.2.2) := by
  have hle := (hstep.follows d.follows_timed).append_left l
  cases hstep with
  | discard _ hdrop =>
    cases hdrop with
    | mk htop _ _ => exact (h.unstack [] _ htop).1.mono hle
  | reuse _ _ htop _ _ =>
    obtain ⟨hrest, hcreated⟩ := h.unstack [] _ htop
    exact (hrest.checkOut (h.consistent.unstack [] _ htop).2 hcreated _).mono hle
  | fail _ _ _ _ => exact h.mono hle
  | @lend _ p w w₁ w₂ conn now _ _ _ _ _ hnow =>
    have hcreated : now ∈ l ++ w₂.2 := List.mem_append_right l (Driver.mem_of_now_timed hnow)
    exact (h.number.mono hle).checkOut h.consistent.number.2 hcreated _
  | @giveBack g key force p w k _ hk hs =>
    obtain ⟨_, f, hheld, hid, hconn⟩ := checkout?_eq_some_iff.mp hk
    obtain rfl : g = f := hr g key force rfl k f hheld (Handle.isSame_iff.mpr ⟨hid, hconn⟩)
    have hback := h.checkIn hk
    rcases hs with _ | _ | ⟨_, hcheck, _, hnow⟩
    · exact hback.mono hle
    · exact hback.mono hle
    · have hread := (d.follows_timed.recycle hcheck).append_left l
      rw [Driver.now_timed hnow, ← List.append_assoc]
      exact (hback.mono hread).stack (h.consistent.checkIn hk).2 (hread.subset (h.held hheld)) _
  | refill hopens => exact hopens.dated h
  | look _ => exact h.mono hle
  | evict _ hidle => exact (h.unstack _ _ hidle).1.mono hle
  | shut _ => exact h.mono hle
  | close =>
    have hsame := h.mono hle
    exact ⟨{ hsame.consistent with }, hsame.idle, hsame.held⟩

/-- In the course of a request it stays genuine. -/
theorem Move.genuine {r : Request (Handle C)} {s s' : Pool C × W} (hstep : Move d r s s')
    (h : r.Genuine s.1) : r.Genuine s'.1 := by
  intro g key force hrequest k f hk
  cases hstep with
  | giveBack _ hs =>
    rw [hs.held_eq] at hk
    exact h g key force hrequest k f (Table.get?_erase_eq_some_iff.mp hk).2
  | refill hopens =>
    rw [opens_held_eq (.single hopens)] at hk
    exact h g key force hrequest k f hk
  | _ => cases hrequest

/-- The very handle that is checked out may be handed back. -/
theorem Consistent.genuine (hp : p.Consistent) {k : Key} (hk : p.held.get? k = some g)
    (key : Option Key) (force : Bool) : (Request.release g key force).Genuine p := by
  intro h key force hrequest k' f hk' hsame
  cases hrequest
  obtain rfl : k' = k := hp.held_inj hk' hk (Handle.isSame_iff.mp hsame).1
  exact Option.some_inj.mp (hk.symm.trans hk')

/-! ### The readings of a run -/

/-- The readings that a pool makes at a moment. -/
def Moment.readings (d : Driver W C ε) (m : Moment W C) : List Instant :=
  (m.pool.serve d.timed m.request (m.world, [])).2.2.2

/-- **The readings of a run**: those made when the pool is built, and those of every moment. -/
def readings (d : Driver W C ε) (config : Config) (w₀ : W) (hist : List (Moment W C)) :
    List Instant :=
  (build d.timed config (w₀, [])).2.2 ++ hist.reverse.flatMap (Moment.readings d)

variable {env : W → W → Prop} {config : Config} {w₀ : W} {hist : List (Moment W C)}
  {I : Pool C → List Instant → Prop} {m : Moment W C}

/-- What every step keeps together with the readings so far, a moment keeps. -/
theorem Moment.readings_invariant (hmove : ∀ t t', Move d.timed m.request t t' →
      I t.1 (l ++ t.2.2) → I t'.1 (l ++ t'.2.2)) (h : I m.pool l) :
    I (m.after d).1 (l ++ m.readings d) := by
  have hsame : (m.after d).1 = (m.pool.serve d.timed m.request (m.world, [])).2.1 :=
    congrArg (fun s => s.2.1) (serve_project d.projects_timed m.request m.pool (m.world, []))
  rw [hsame]
  refine serve_invariant (d := d.timed) (I := fun t => I t.1 (l ++ t.2.2)) hmove ?_
  rwa [List.append_nil]

/-- **What holds of the empty pool without a reading**, and is kept by every attempt to fill it up
and by every moment, holds of every pool that is reached, with the readings of the run. -/
theorem Reached.readings_invariant {s : Pool C × W} (h : Reached d env config w₀ hist s)
    (hfresh : I (fresh config) [])
    (hopens : ∀ t t', Opens d.timed t t' → I t.1 t.2.2 → I t'.1 t'.2.2)
    (hserve : ∀ m ∈ hist, ∀ l, I m.pool l → I (m.after d).1 (l ++ m.readings d)) :
    I s.1 (readings d config w₀ hist) := by
  obtain ⟨p₀, w₁, hbuild, hrun⟩ := h
  induction hrun with
  | start =>
    have hsame := build_project d.projects_timed config (w₀, [])
    obtain ⟨hresult, -⟩ := Prod.mk.inj (hsame.symm.trans hbuild)
    have hfill := (build_opens (Prod.ext hresult rfl : build d.timed config (w₀, []) = (_, _))).2
    rw [readings, List.reverse_nil, List.flatMap_nil, List.append_nil]
    exact steps_invariant (I := fun t => I t.1 t.2.2) hopens hfill hfresh
  | drift _ _ ih => exact ih hserve
  | @serve hist s _ r ih =>
    have hpast := ih fun m hm => hserve m (List.mem_cons_of_mem _ hm)
    have hnext := hserve _ List.mem_cons_self _ hpast
    rw [readings, List.reverse_cons, List.flatMap_append, List.flatMap_singleton,
      ← List.append_assoc]
    exact hnext

/-- The books are in order at every moment of a run. -/
theorem Reached.consistent_of_mem {s : Pool C × W} (h : Reached d env config w₀ hist s)
    (hm : m ∈ hist) : m.pool.Consistent := by
  obtain ⟨p₀, w₁, hbuild, hrun⟩ := h
  obtain ⟨past, _, hpast⟩ := hrun.of_mem hm
  exact Reached.consistent ⟨p₀, w₁, hbuild, hpast⟩

/-- **Every pool is timely**, whatever its clock. -/
theorem Reached.timely {s : Pool C × W} (h : Reached d env config w₀ hist s) :
    Timely s.1 (readings d config w₀ hist) :=
  h.readings_invariant (timely_fresh config) (fun _ _ hstep => hstep.timely (l := []))
    fun _ _ _ hp => Moment.readings_invariant (fun _ _ hstep => hstep.timely) hp

/-- Every pool is dated that gets its own handles back. -/
theorem Reached.dated {s : Pool C × W} (h : Reached d env config w₀ hist s)
    (hgenuine : ∀ m ∈ hist, m.request.Genuine m.pool) :
    Dated s.1 (readings d config w₀ hist) := by
  refine h.readings_invariant (dated_fresh config) (fun _ _ hstep => hstep.dated (l := []))
    fun m hm l hp => ?_
  refine (Moment.readings_invariant (I := fun p l => Dated p l ∧ m.request.Genuine p) ?_
    ⟨hp, hgenuine m hm⟩).1
  rintro t t' hstep ⟨hp, hr⟩
  exact ⟨hstep.dated hr hp, hstep.genuine hr⟩

/-! ### Main statement -/

/-- **The idle stack is in order.** If the clock has not gone back in the course of a run, then
each idle connection is stamped with the reading at which it has last been put on the stack, the
stamps do not decrease from the bottom of the stack to its top, and no connection has a stamp from
before it was opened, provided that the handles handed back are the pool's own. So whatever the
clock shows next, a prune evicts the connections at the bottom of the stack and keeps those at its
top. -/
theorem idle_stack_in_order (hreached : Reached d env config w₀ hist (p, w))
    (hclock : (readings d config w₀ hist).Pairwise (· ≤ ·)) :
    (∀ g ∈ p.idle, ∃ t ∈ readings d config w₀ hist, p.idleSince? g.id = some t ∧
        LastShelved d config w₀ hist g.id t ∧
        ((∀ m ∈ hist, m.request.Genuine m.pool) → g.createdAt ≤ t)) ∧
      (∃ stamps : List Instant, p.idleIds.map p.idleSince? = stamps.map some ∧
        stamps.Pairwise (· ≤ ·)) ∧
      ∀ {V : Type} (d' : Driver V C ε) (v : V), ∃ gone,
        p.idleHandles = gone ++ (p.prune d' v).2.1.idleHandles ∧
          (p.prune d' v).1.evicted = gone.length := by
  have htimely : Timely p (readings d config w₀ hist) := hreached.timely
  have hp : p.Consistent := htimely.consistent
  have horder : p.idleStamps.Pairwise (· ≤ ·) := hclock.sublist htimely.stamps
  refine ⟨fun g hg => ?_, ⟨p.idleStamps, hp.map_some_idleStamps.symm, horder⟩, fun d' v =>
    hp.exists_append_prune horder d' v⟩
  have hid : g.id ∈ p.idle.map Handle.id := List.mem_map_of_mem hg
  obtain ⟨t, ht⟩ := Option.isSome_iff_exists.mp ((hp.stamped g.id).mpr hid)
  have hmem : t ∈ p.idleStamps := List.mem_filterMap.mpr ⟨g.id, mem_idleIds.mpr hid, ht⟩
  refine ⟨t, htimely.stamps.subset hmem, ht, hreached.lastShelved ht, fun hgenuine => ?_⟩
  have hdated := (hreached.dated hgenuine).idle g hg t ht
  exact (List.pairwise_cons.mp (hclock.sublist hdated)).1 t List.mem_cons_self

/-- Of three connections two are lent, and come back in the order in which they were taken. The one
that is back first is below the other now, and its stamp is not the one from when it was opened.
When two have idled for the timeout, they are the two at the bottom. -/
theorem idle_stack_in_order_after_returns :
    ∃ hist p w v gone, Reached (World.driver 0 .manual) (fun _ _ => True)
        { minConnections := 3, maxConnections := 4, idleTimeout := ⟨5⟩ } {} hist (p, w) ∧
      (readings (World.driver 0 .manual)
        { minConnections := 3, maxConnections := 4, idleTimeout := ⟨5⟩ } {} hist).Pairwise (· ≤ ·) ∧
      (∀ m ∈ hist, m.request.Genuine m.pool) ∧
      p.idleIds = [0, 2, 1] ∧ p.idleIds.map p.idleSince? = [some ⟨0⟩, some ⟨2⟩, some ⟨4⟩] ∧
      (∀ g ∈ p.idle, ∃ t, p.idleSince? g.id = some t ∧ LastShelved (World.driver 0 .manual)
        { minConnections := 3, maxConnections := 4, idleTimeout := ⟨5⟩ } {} hist g.id t ∧
        g.createdAt ≤ t) ∧
      v.manual = ⟨7⟩ ∧ (p.prune (World.driver 0 .manual) v).2.1.idleIds = [1] ∧
      p.idleHandles = gone ++ (p.prune (World.driver 0 .manual) v).2.1.idleHandles ∧
      gone.length = 2 := by
  have h : Reached (World.driver 0 .manual) (fun _ _ => True)
      { minConnections := 3, maxConnections := 4, idleTimeout := ⟨5⟩ } {} _ (_, _) :=
    ⟨_, _, rfl, (((((Run.start.serve (.acquire (some (.named "a")))).serve
      (.acquire (some (.named "b")))).drift
      (w := { backends := [{ attempts := 3, opened := 3 }]
              conns := [.born 0 1 {}, .born 0 2 {}, .born 0 3 {}]
              manual := ⟨2⟩ }) trivial).serve (.release ⟨2, 2, Instant.start⟩ none false)).drift
      (w := { backends := [{ attempts := 3, opened := 3 }]
              conns := [.born 0 1 {}, .born 0 2 {}, .born 0 3 {}]
              manual := ⟨4⟩ }) trivial).serve (.release ⟨1, 1, Instant.start⟩ none false)⟩
  obtain ⟨hentry, _, hprune⟩ := idle_stack_in_order h (by decide)
  obtain ⟨gone, hgone, hevicted⟩ := hprune (World.driver 0 .manual)
    { backends := [{ attempts := 3, opened := 3 }]
      conns := [.born 0 1 {}, .born 0 2 {}, .born 0 3 {}]
      manual := ⟨7⟩ }
  refine have hgenuine := ?genuine; ⟨_, _, _, _, gone, h, by decide, hgenuine, rfl, rfl,
    fun g hg => ?entered, rfl, rfl, hgone, hevicted.symm⟩
  case genuine =>
    -- both handles are those that are checked out, and the other requests hand none back
    intro m hm
    have hp : m.pool.Consistent := h.consistent_of_mem hm
    simp only [List.mem_cons, List.not_mem_nil, or_false] at hm
    rcases hm with rfl | rfl | rfl | rfl
    · exact hp.genuine (k := .named "b") rfl none false
    · exact hp.genuine (k := .named "a") rfl none false
    · intro _ _ _ hrequest
      cases hrequest
    · intro _ _ _ hrequest
      cases hrequest
  case entered =>
    exact (hentry g hg).imp fun t hentered =>
      ⟨hentered.2.1, hentered.2.2.1, hentered.2.2.2 hgenuine⟩

end Pool

end ConnPool
