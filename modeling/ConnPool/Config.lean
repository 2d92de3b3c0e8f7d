import ConnPool.Time
import ConnPool.Text.Layout

/-!
# Pool configuration

A pool has a **floor**, the number of connections it tries to have open at all
times, and a **capacity**, the number it may have checked out at once. Between the
two it grows on demand, and a connection that has idled for the idle timeout is
evicted again. A timeout of zero switches that eviction off: such a pool keeps
nothing above its floor in the first place.

`ConnPool.Config.validate` refuses the two shapes no pool can honour, an empty
capacity and a floor above the capacity, and looks for them in that order.
-/

namespace ConnPool

/-- What can be wrong with a configuration. -/
inductive ConfigDefect where
  /-- No connection may ever be checked out. -/
  | noCapacity
  /-- The floor lies above the capacity. -/
  | floorAboveCapacity
  /-- A defect a caller has found on its own, in its words. -/
  | other (text : String)
  deriving DecidableEq

/-- The wording of a defect. -/
def ConfigDefect.message : ConfigDefect → String
  | noCapacity => "max_connections must be greater than 0"
  | floorAboveCapacity => "min_connections cannot be greater than max_connections"
  | other text => text

/-- The settings of a pool. -/
structure Config where
  /-- The floor: how many connections the pool tries to have open. -/
  minConnections : UInt32 := 1
  /-- The capacity: how many connections may be checked out at once. -/
  maxConnections : UInt32 := 10
  /-- How long a connection may idle before it is evicted; zero switches eviction off. -/
  idleTimeout : Duration := Duration.ofSecs 600
  deriving DecidableEq

instance : Inhabited Config := ⟨{}⟩

namespace Config

/-- The floor as a number. -/
def floor (c : Config) : Nat := c.minConnections.toNat

/-- The capacity as a number. -/
def capacity (c : Config) : Nat := c.maxConnections.toNat

/-- Whether connections that idle for long are evicted. -/
def evictsIdle (c : Config) : Bool := c.idleTimeout ≠ Duration.zero

/-- Looks for a defect, a missing capacity before a misplaced floor. -/
def validate (c : Config) : Except ConfigDefect Unit :=
  if c.maxConnections = 0 then .error .noCapacity
  else if c.maxConnections < c.minConnections then .error .floorAboveCapacity
  else .ok ()

/-- A configuration a pool can be built from. -/
def Valid (c : Config) : Prop := 0 < c.capacity ∧ c.floor ≤ c.capacity

instance (c : Config) : Decidable c.Valid := inferInstanceAs (Decidable (_ ∧ _))

/-- **Validation accepts exactly the configurations a pool can honour.** -/
theorem validate_eq_ok_iff {c : Config} : c.validate = .ok () ↔ c.Valid := by
  unfold validate Valid capacity floor
  by_cases h : c.maxConnections = 0
  · simp [h]
  · have hpos : 0 < c.maxConnections.toNat :=
      Nat.pos_of_ne_zero fun hz => h (UInt32.toNat_inj.1 hz)
    by_cases h' : c.maxConnections < c.minConnections
    · have := UInt32.lt_iff_toNat_lt.1 h'
      simp only [h, h', if_true, if_false, reduceCtorEq, false_iff]
      omega
    · have : ¬c.maxConnections.toNat < c.minConnections.toNat := fun hlt =>
        h' (UInt32.lt_iff_toNat_lt.2 hlt)
      simp only [h, h', if_false, true_iff]
      omega

/-- The configuration as a record. -/
def layout (c : Config) : Layout :=
  .record "PoolConfig"
    [("min_connections", .number c.floor),
     ("max_connections", .number c.capacity),
     ("idle_timeout", .atom c.idleTimeout.text)] false

end Config

end ConnPool
