import ConnPool.Proofs.Fleet
import ConnPool.Proofs.Pool.Calls
import ConnPool.Proofs.Pool.Eviction

/-!
# Pruning pool after pool

To prune a pool concerns this pool and its connections. The other pools stay as they are,
and no pool is opened or closed by it.

On the manual clock it is enough to prune a pool once. As long as the clock stands still, a
pool that has just been pruned has nothing left to evict, and pruning other pools changes
nothing about that. So of any number of prunes only the first of each pool counts, if the pool
is on the manual clock (`ConnPool.Fleet.pruneEach_firsts`). On the wall clock, time goes on
from prune to prune, and every one of them may count.
-/

namespace ConnPool

/-! ### Pruning one pool -/

namespace Pool

variable {W C ε : Type} {d : Driver W C ε} {p : Pool C} {w : W} {now : Instant}

theorem closed_prune (d : Driver W C ε) (p : Pool C) (w : W) :
    (p.prune d w).2.1.closed = p.closed := by
  rw [prune]
  split <;> rfl

/-- A pool has nothing to evict at a reading of the clock. -/
def Settled (p : Pool C) (now : Instant) : Prop :=
  p.closed = false → p.config.evictsIdle = true → ∀ h ∈ p.idle, p.expired now h = false

/-- Pruning a pool that has nothing to evict does nothing, if the clock does not mind being
read. -/
theorem prune_of_settled (hnow : d.now w = (now, w)) (h : p.Settled now) :
    (p.prune d w).2 = (p, w) := by
  by_cases hinactive : p.closed = true ∨ p.config.idleTimeout.nanos = 0
  · rw [prune_of_inactive hinactive]
  · obtain ⟨hopen, hevicts⟩ := not_or.mp hinactive
    have hfresh := h (Bool.eq_false_iff.mpr hopen) (Config.evictsIdle_iff.mpr hevicts)
    have hnone : p.overdue now = [] := by
      rw [overdue_eq, List.reverse_eq_nil_iff, List.filter_eq_nil_iff]
      exact fun g hg => Bool.not_eq_true _ ▸ hfresh g hg
    rcases prune_of_overdue_eq_nil hnone hnow with h | h <;> rw [h]

/-- A stamp that is gone makes nothing expire. -/
theorem expired_of_eraseAll {l : List ConnId} {idle : List (Handle C)} {h : Handle C}
    (hexpired : Pool.expired { p with idle, stamps := p.stamps.eraseAll l } now h = true) :
    p.expired now h = true := by
  rw [expired, Option.any_eq_true] at hexpired ⊢
  obtain ⟨since, hsince, hold⟩ := hexpired
  refine ⟨since, ?_, hold⟩
  rw [Table.get?_eq_some_iff] at hsince ⊢
  exact (List.mem_filter.mp hsince).1

/-- **A pool that has been pruned has nothing left to evict** at that reading of the clock. -/
theorem settled_prune (hnow : (d.now w).1 = now) : (p.prune d w).2.1.Settled now := by
  rw [prune]
  split
  · rename_i hidle
    intro hclosed hevicts
    rw [hclosed, hevicts] at hidle
    cases hidle
  · subst hnow
    simp only [List.partition_eq_filter_filter]
    intro _ _ h hmem
    obtain ⟨_, hkept⟩ := List.mem_filter.mp hmem
    refine Bool.eq_false_iff.mpr fun hexpired => ?_
    rw [Function.comp_apply, expired_of_eraseAll hexpired] at hkept
    cases hkept

end Pool

/-- **No pool moves the manual clock.** -/
theorem World.driver_follows_manual (b : Nat) (clock : ClockKind) :
    (driver b clock).Follows fun w w' => w'.manual = w.manual := by
  refine Driver.Along.follows (R := fun w w' : World => w'.manual = w.manual) ?_
    fun {w w' _} h => ?_
  · constructor
    · exact fun _ => rfl
    · exact fun h h' => h'.trans h
    · intro c w w' result h
      obtain rfl : (w.close c).2 = w' := congrArg Prod.snd h
      rcases close_cases w c with ⟨_, hw⟩ | ⟨_, _, _, hw⟩ <;> rw [hw]
      rfl
    · intro c w w' answer h
      cases h
      rfl
    · intro c w w' answer h
      cases h
      rfl
    · intro c w w' result h
      obtain rfl : (w.rollback c).2 = w' := congrArg Prod.snd h
      rcases rollback_cases w c with hw | ⟨_, _, hw⟩ <;> rw [hw]
      rfl
    · intro w w' reading h
      obtain rfl : (w.now clock).2 = w' := congrArg Prod.snd h
      cases clock <;> rfl
  · obtain rfl : (w.connect b).2 = w' := congrArg Prod.snd h
    rcases connect_cases w b with ⟨_, _, hw⟩ | hw <;> rw [hw] <;> rfl

namespace Fleet

variable {f : Fleet} {i j : PoolId} {m : Member}

/-- Pruning a pool comes down to what the pool does. -/
theorem prune_of_member (hm : f.member? i = some m) :
    (f.prune i).2 =
      { world := (m.pool.prune m.driver f.world).2.2
        members := f.members.set i { m with pool := (m.pool.prune m.driver f.world).2.1 } } := by
  rw [prune, act, hm]

theorem prune_of_absent (hm : f.member? i = none) : (f.prune i).2 = f := by
  rw [prune, act, hm]

/-- What becomes of a pool when it is pruned. -/
theorem member?_prune_self (hm : f.member? i = some m) :
    (f.prune i).2.member? i =
      some { m with pool := (m.pool.prune m.driver f.world).2.1 } := by
  obtain ⟨hlt, _⟩ := List.getElem?_eq_some_iff.mp hm
  rw [prune_of_member hm]
  exact List.getElem?_set_self hlt

/-- **Pruning one pool leaves the others alone.** -/
theorem member?_prune_of_ne (hij : i ≠ j) : (f.prune i).2.member? j = f.member? j := by
  cases hm : f.member? i with
  | none => rw [prune_of_absent hm]
  | some m =>
    rw [prune_of_member hm]
    exact List.getElem?_set_ne hij

/-- No pool is opened or closed by pruning. -/
theorem isClosed_prune (f : Fleet) (i j : PoolId) : (f.prune i).2.isClosed j = f.isClosed j := by
  by_cases hij : i = j
  · subst hij
    cases hm : f.member? i with
    | none => rw [prune_of_absent hm]
    | some m =>
      rw [isClosed, member?_prune_self hm, isClosed, hm, Option.any_some, Option.any_some,
        Pool.closed_prune]
  · rw [isClosed, member?_prune_of_ne hij, isClosed]

theorem manual_prune (f : Fleet) (i : PoolId) : (f.prune i).2.world.manual = f.world.manual := by
  have hstep : Change (fun _ _ => False) f (f.serve i .prune).2 := .serve i .prune f
  rw [prune_eq_serve]
  exact hstep.world World.driver_follows_manual fun _ _ => False.elim

/-! ### Pruning many pools -/

/-- Prunes the pools of a list, one after the other. -/
def pruneEach (l : List PoolId) (f : Fleet) : Fleet := l.foldl (fun f i => (f.prune i).2) f

@[simp] theorem pruneEach_nil (f : Fleet) : f.pruneEach [] = f := rfl

@[simp] theorem pruneEach_cons (i : PoolId) (l : List PoolId) (f : Fleet) :
    f.pruneEach (i :: l) = (f.prune i).2.pruneEach l := rfl

theorem pruneEach_append (l l' : List PoolId) (f : Fleet) :
    f.pruneEach (l ++ l') = (f.pruneEach l).pruneEach l' := List.foldl_append

/-- A pool that is not in the list stays as it is. -/
theorem member?_pruneEach {l : List PoolId} (hj : j ∉ l) (f : Fleet) :
    (f.pruneEach l).member? j = f.member? j := by
  induction l generalizing f with
  | nil => rfl
  | cons i l ih =>
    obtain ⟨hne, hrest⟩ := not_or.mp (mt List.mem_cons.mpr hj)
    exact (ih hrest (f.prune i).2).trans (member?_prune_of_ne (Ne.symm hne))

/-! ### Pools on the manual clock -/

/-- Whether a pool is on the manual clock. -/
def onManual (f : Fleet) (i : PoolId) : Bool := (f.member? i).all fun m => m.clock = .manual

theorem onManual_iff :
    f.onManual i = true ↔ ∀ m, f.member? i = some m → m.clock = .manual := by
  rw [onManual]
  cases f.member? i <;> simp

/-- Pruning changes no clock. -/
theorem onManual_prune (f : Fleet) (i j : PoolId) :
    (f.prune i).2.onManual j = f.onManual j := by
  by_cases hij : i = j
  · subst hij
    cases hm : f.member? i with
    | none => rw [prune_of_absent hm]
    | some m => rw [onManual, member?_prune_self hm, onManual, hm]; rfl
  · rw [onManual, member?_prune_of_ne hij, onManual]

/-- A pool is on the manual clock and has nothing to evict as long as the clock stands. -/
def Rested (i : PoolId) (f : Fleet) : Prop :=
  ∀ m, f.member? i = some m → m.clock = .manual ∧ m.pool.Settled f.world.manual

/-- Pruning a rested pool does nothing. -/
theorem Rested.prune_eq (h : Rested i f) : (f.prune i).2 = f := by
  cases hm : f.member? i with
  | none => exact prune_of_absent hm
  | some m =>
    obtain ⟨hclock, hsettled⟩ := h m hm
    have hsame : (m.pool.prune m.driver f.world).2 = (m.pool, f.world) := by
      refine Pool.prune_of_settled ?_ hsettled
      rw [Member.driver, hclock]
      rfl
    obtain ⟨hlt, hget⟩ := List.getElem?_eq_some_iff.mp hm
    rw [prune_of_member hm, hsame, ← hget, List.set_getElem_self hlt]

/-- **A pool on the manual clock that has been pruned is rested.** -/
theorem rested_prune (h : f.onManual i = true) : Rested i (f.prune i).2 := by
  intro m hm
  rw [manual_prune]
  cases hold : f.member? i with
  | none =>
    rw [prune_of_absent hold, hold] at hm
    cases hm
  | some n =>
    have hclock : n.clock = .manual := onManual_iff.mp h n hold
    rw [member?_prune_self hold, Option.some_inj] at hm
    subst hm
    refine ⟨hclock, Pool.settled_prune ?_⟩
    rw [Member.driver, hclock]
    rfl

/-- Pruning whatever pool does not disturb the rest of another. -/
theorem Rested.prune (h : Rested i f) (j : PoolId) : Rested i (f.prune j).2 := by
  by_cases hij : j = i
  · subst hij
    rwa [h.prune_eq]
  · intro m hm
    rw [manual_prune]
    rw [member?_prune_of_ne hij] at hm
    exact h m hm

/-- A rested pool may be left out. -/
theorem Rested.pruneEach_filter (h : Rested i f) (l : List PoolId) :
    f.pruneEach (l.filter (· ≠ i)) = f.pruneEach l := by
  induction l generalizing f with
  | nil => rfl
  | cons j l ih =>
    by_cases hij : j = i
    · subst hij
      rw [List.filter_cons_of_neg (by simp), ih h, pruneEach_cons, h.prune_eq]
    · rw [List.filter_cons_of_pos (by simpa using hij), pruneEach_cons, pruneEach_cons,
        ih (h.prune j)]

/-- The pools of a list, each of those on the manual clock only where it comes first. -/
def firsts (f : Fleet) (l : List PoolId) : List PoolId :=
  l.eraseDupsBy fun j i => j = i && f.onManual i

theorem firsts_cons (f : Fleet) (i : PoolId) (l : List PoolId) :
    f.firsts (i :: l) =
      i :: f.firsts (if f.onManual i then l.filter (· ≠ i) else l) := by
  rw [firsts, List.eraseDupsBy_cons, firsts]
  congr 2
  cases f.onManual i <;> simp

/-- If all of them are on the manual clock, this drops all repetitions. -/
theorem firsts_eq_eraseDups {f : Fleet} :
    ∀ {l : List PoolId}, (∀ i ∈ l, f.onManual i = true) → f.firsts l = l.eraseDups
  | [], _ => rfl
  | i :: l, h => by
    have hrest : ∀ j ∈ l.filter (· ≠ i), f.onManual j = true := fun j hj =>
      h j (List.mem_cons_of_mem i (List.mem_filter.mp hj).1)
    rw [firsts_cons, if_pos (h i List.mem_cons_self), firsts_eq_eraseDups hrest,
      List.eraseDups_cons]
    congr 3
    funext j
    exact decide_not
termination_by l => l.length
decreasing_by
  exact Nat.lt_succ_of_le (List.length_filter_le _ l)

/-- No pool is left out. -/
theorem mem_firsts {f : Fleet} : ∀ {l : List PoolId}, i ∈ f.firsts l ↔ i ∈ l
  | [] => Iff.rfl
  | j :: l => by
    rw [firsts_cons, List.mem_cons, List.mem_cons, mem_firsts]
    by_cases hij : i = j
    · simp [hij]
    · split <;> simp [hij]
termination_by l => l.length
decreasing_by
  split
  · exact Nat.lt_succ_of_le (List.length_filter_le _ l)
  · exact Nat.lt_succ_self _

/-- A pool on the manual clock is there once. -/
theorem count_firsts {f : Fleet} (h : f.onManual i = true) :
    ∀ {l : List PoolId}, i ∈ l → (f.firsts l).count i = 1
  | j :: l, hi => by
    rw [firsts_cons]
    by_cases hij : j = i
    · subst hij
      have hgone : j ∉ f.firsts (l.filter (· ≠ j)) := by
        rw [mem_firsts, List.mem_filter]
        simp
      rw [if_pos h, List.count_cons_self, List.count_eq_zero_of_not_mem hgone]
    · have hrest : i ∈ l := (List.mem_cons.mp hi).resolve_left fun heq => hij heq.symm
      rw [List.count_cons_of_ne hij]
      refine count_firsts h ?_
      split
      · exact List.mem_filter.mpr ⟨hrest, by simpa using Ne.symm hij⟩
      · exact hrest
termination_by l => l.length
decreasing_by
  split
  · exact Nat.lt_succ_of_le (List.length_filter_le _ l)
  · exact Nat.lt_succ_self _

/-- **Of all the prunes of a pool on the manual clock only the first counts.** -/
theorem pruneEach_firsts : ∀ (l : List PoolId) (f : Fleet), f.pruneEach (f.firsts l) = f.pruneEach l
  | [], _ => rfl
  | i :: l, f => by
    have hclocks : ∀ l, f.firsts l = (f.prune i).2.firsts l := fun l => by
      simp only [firsts, onManual_prune]
    rw [firsts_cons, pruneEach_cons, pruneEach_cons, hclocks]
    split
    · rename_i hmanual
      rw [pruneEach_firsts, (rested_prune hmanual).pruneEach_filter]
    · exact pruneEach_firsts l _
termination_by l => l.length
decreasing_by
  · exact Nat.lt_succ_self _
  · exact Nat.lt_succ_of_le (List.length_filter_le _ l)

end Fleet

end ConnPool
