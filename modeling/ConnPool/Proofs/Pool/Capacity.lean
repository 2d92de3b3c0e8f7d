import ConnPool.Pool.Status
import ConnPool.Proofs.Pool.Runs
import ConnPool.Simulation.World
import Mathlib.Order.Basic

/-!
# Capacity

A pool looks at its capacity in one place only: before it opens a connection for a
borrower. It hands out idle connections without asking, so that no more are checked out
than the capacity allows is not kept from step to step by itself. What is kept is a
bound on the sum: `ConnPool.Pool.Within` says that the idle connections and those that
are checked out are together no more than the capacity. Handing out an idle connection
moves it from one side of the sum to the other, and filling a pool up stops at the
floor, which valid settings have below the capacity.
-/

namespace ConnPool

/-- A count below the size of a word is reported as it is. -/
theorem clampWord_toNat {n : Nat} (h : n < UInt32.size) : (clampWord n).toNat = n := by
  have hmin : min n (UInt32.size - 1) = n := Nat.min_eq_left (by omega)
  rw [clampWord, hmin]
  exact UInt32.toNat_ofNat_of_lt h

namespace Pool

variable {W C ε : Type} {d : Driver W C ε}

/-- **A pool is within its capacity**: it has been built with some valid settings, and it
owns no more connections than they allow. -/
structure Within (config : Config) (p : Pool C) : Prop where
  /-- The settings are those the pool was built with. -/
  config_eq : p.config = config
  /-- They are valid. -/
  valid : config.Valid
  /-- The pool owns no more connections than the capacity. -/
  size_le : p.size ≤ config.capacity

variable {config : Config}

theorem within_fresh (hvalid : config.Valid) : Within config (fresh config : Pool C) where
  config_eq := rfl
  valid := hvalid
  size_le := Nat.zero_le _

/-- A pool that owns no more than before and has kept its settings is still within its
capacity. -/
theorem Within.of_le {p q : Pool C} (h : Within config p) (hconfig : q.config = p.config)
    (hsize : q.size ≤ p.size) : Within config q where
  config_eq := hconfig.trans h.config_eq
  valid := h.valid
  size_le := Nat.le_trans hsize h.size_le

theorem size_unstack_lt {p : Pool C} {h : Handle C} (above below : List (Handle C))
    (hidle : p.idle = above ++ h :: below) : (p.unstack h (above ++ below)).size < p.size := by
  simp only [size, unstack, hidle, List.length_append, List.length_cons]
  omega

theorem size_stack (p : Pool C) (h : Handle C) (now : Instant) :
    (p.stack h now).size = p.size + 1 := by
  simp only [size, stack, List.length_cons]
  omega

theorem size_checkOut_le (p : Pool C) (key : Option Key) (h : Handle C) :
    (p.checkOut key h).size ≤ p.size + 1 := by
  have := p.held.size_insert_le (p.chooseKey key).1 h
  simp only [size, checkOut]
  omega

/-- Filling up stays below the floor, and the floor is below the capacity. -/
theorem Opens.within {s s' : Pool C × W} (hstep : Opens d s s') (h : Within config s.1) :
    Within config s'.1 := by
  cases hstep with
  | failed _ _ _ => exact h
  | added _ hshort _ _ _ =>
    have hfloor := h.config_eq ▸ hshort
    exact ⟨h.config_eq, h.valid,
      (size_stack _ _ _).trans_le (Nat.le_trans hfloor h.valid.2)⟩

theorem Drop.within {s s' : Pool C × W} (hstep : Drop d s s') (h : Within config s.1) :
    Within config s'.1 := by
  cases hstep with
  | mk htop _ _ => exact h.of_le rfl (Nat.le_of_lt (size_unstack_lt [] _ htop))

variable [DecidableEq C]

theorem size_checkIn_lt {p : Pool C} {h : Handle C} {key : Option Key} {k : Key}
    (hk : p.checkout? h key = some k) : (p.checkIn k h).size < p.size := by
  obtain ⟨_, g, hheld, _⟩ := checkout?_eq_some_iff.mp hk
  have := Table.size_erase_add_one hheld
  simp only [size, checkIn]
  omega

/-- **Every step of a request stays within the capacity.** -/
theorem Move.within {r : Request (Handle C)} {s s' : Pool C × W} (hstep : Move d r s s')
    (h : Within config s.1) : Within config s'.1 := by
  cases hstep with
  | discard _ hdrop => exact hdrop.within h
  | reuse _ _ htop _ _ =>
    -- one connection changes sides, and an entry under its key may go as well
    have hless := size_unstack_lt [] _ htop
    exact h.of_le rfl (Nat.le_trans (size_checkOut_le _ _ _) hless)
  | fail _ _ _ _ => exact h
  | @lend key p w w₁ w₂ conn now _ _ hempty hroom _ _ =>
    -- nothing is idle, so there is as much room as the held table leaves
    have hroom' : p.held.size < config.capacity := h.config_eq ▸ hroom
    have hsize : p.number.size = p.held.size := by
      simp only [size, number, hempty, List.length_nil, Nat.zero_add]
    have hmore := size_checkOut_le p.number key ⟨p.nextId, conn, now⟩
    exact ⟨h.config_eq, h.valid, Nat.le_trans hmore (hsize ▸ hroom')⟩
  | @giveBack g key force p w k s hk hs =>
    have hless := size_checkIn_lt hk
    cases hs with
    | letGo _ => exact h.of_le rfl (Nat.le_of_lt hless)
    | rejected _ _ _ => exact h.of_le rfl (Nat.le_of_lt hless)
    | shelved _ _ _ _ => exact h.of_le rfl ((size_stack _ _ _).trans_le hless)
  | refill hopens => exact hopens.within h
  | look _ => exact h
  | evict _ hidle => exact h.of_le rfl (Nat.le_of_lt (size_unstack_lt _ _ hidle))
  | shut _ => exact h
  | close => exact h.of_le rfl (Nat.le_refl _)

theorem Reached.within {env : W → W → Prop} {w₀ : W} {hist : List (Moment W C)} {s : Pool C × W}
    (h : Reached d env config w₀ hist s) : Within config s.1 :=
  h.pool_invariant within_fresh (fun _ _ hstep => hstep.within) fun _ _ _ hstep => hstep.within

/-- **A pool never owns more connections than its capacity**, neither idle and checked
out together nor, then, checked out alone; and its status reports their numbers as they
are. -/
theorem size_le_capacity {env : W → W → Prop} {w₀ w : W} {hist : List (Moment W C)} {p : Pool C}
    (h : Reached d env config w₀ hist (p, w)) :
    p.idle.length + p.held.size ≤ config.capacity ∧
      p.held.size ≤ config.capacity ∧
      p.status.available.toNat = p.idle.length ∧
      p.status.inUse.toNat = p.held.size ∧
      p.status.total.toNat = p.status.available.toNat + p.status.inUse.toNat ∧
      p.status.total.toNat ≤ config.capacity := by
  have hsize : p.idle.length + p.held.size ≤ config.capacity := h.within.size_le
  have hword : config.capacity < UInt32.size := config.maxConnections.toNat_lt_size
  have hidle : p.status.available.toNat = p.idle.length := clampWord_toNat (by omega)
  have hheld : p.status.inUse.toNat = p.held.size := clampWord_toNat (by omega)
  have htotal : p.status.total.toNat = p.status.available.toNat + p.status.inUse.toNat := by
    refine clampWord_toNat ?_
    change p.status.available.toNat + p.status.inUse.toNat < UInt32.size
    omega
  refine ⟨hsize, by omega, hidle, hheld, htotal, ?_⟩
  rw [htotal, hidle, hheld]
  exact hsize

/-- A pool of two connections lends both, one of them under a key a borrower has made up,
and has nothing left for a third. -/
theorem size_le_capacity_when_exhausted :
    ∃ hist p w, Reached (World.driver 0 .manual) (fun _ _ => True)
        { minConnections := 1, maxConnections := 2 } {} hist (p, w) ∧
      p.idle.length + p.held.size ≤ 2 ∧ p.status.inUse = 2 ∧ p.status.total.toNat ≤ 2 ∧
      (p.acquire (World.driver 0 .manual) none w).1 = .error (.exhausted 2) := by
  have h : Reached (World.driver 0 .manual) (fun _ _ => True)
      { minConnections := 1, maxConnections := 2 } {} _ (_, _) :=
    ⟨_, _, rfl, (Run.start.serve (.acquire none)).serve (.acquire (some (.auto 7)))⟩
  obtain ⟨hsize, _, _, _, _, htotal⟩ := size_le_capacity h
  exact ⟨_, _, _, h, hsize, rfl, htotal, rfl⟩

end Pool

end ConnPool
