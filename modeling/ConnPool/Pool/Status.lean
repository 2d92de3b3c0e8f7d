import ConnPool.Pool.Basic

/-!
# What a pool says about itself

`ConnPool.Pool.Status` is a summary of a pool for people and monitors. Its counts are
32-bit words, as the settings are, so a count that does not fit is reported as the
largest word (`ConnPool.clampWord`) – within the capacity that never happens.

A pool may have one owner, be shared within a thread, or be shared between threads
(`ConnPool.Sharing`). It serves requests alike and differs in how it is shown: all
show their status, and a pool of one owner its settings as well.
-/

namespace ConnPool

/-! ### Status -/

/-- A count as a 32-bit word, or the largest word if it does not fit. -/
def clampWord (n : Nat) : UInt32 := UInt32.ofNat (min n (UInt32.size - 1))

/-- A summary of a pool. -/
structure Pool.Status where
  /-- How many connections are idle. -/
  available : UInt32
  /-- How many connections are checked out. -/
  inUse : UInt32
  /-- How many connections the pool owns. -/
  total : UInt32
  /-- The floor. -/
  minConnections : UInt32
  /-- The capacity. -/
  maxConnections : UInt32
  /-- Whether the pool has been closed. -/
  closed : Bool
  deriving DecidableEq

namespace Pool.Status

/-- How much of the capacity is checked out, in percent. -/
def utilization (s : Pool.Status) : Float :=
  if s.maxConnections = 0 then 0.0
  else s.inUse.toNat.toFloat / s.maxConnections.toNat.toFloat * 100.0

/-- A status as a record. -/
def layout (s : Pool.Status) : Layout :=
  .record "PoolStatus"
    [("available", .number s.available.toNat),
     ("in_use", .number s.inUse.toNat),
     ("total", .number s.total.toNat),
     ("min", .number s.minConnections.toNat),
     ("max", .number s.maxConnections.toNat),
     ("closed", .flag s.closed)] false

end Pool.Status

/-- The status of a pool. -/
def Pool.status {C : Type} (p : Pool C) : Pool.Status :=
  let available := clampWord p.idle.length
  let inUse := clampWord p.held.size
  { available, inUse
    total := clampWord (available.toNat + inUse.toNat)
    minConnections := p.config.minConnections
    maxConnections := p.config.maxConnections
    closed := p.closed }

/-! ### Sharing -/

/-- How a pool is shared. -/
inductive Sharing where
  /-- Not at all: it has one owner. -/
  | exclusive
  /-- Within one thread. -/
  | oneThread
  /-- Between threads. -/
  | manyThreads
  deriving DecidableEq

/-- A pool as a record. What it does not show of itself is summed up. -/
def Sharing.layout {C : Type} (p : Pool C) : Sharing → Layout
  | exclusive => .record "PoolCore" [("config", p.config.layout), ("status", p.status.layout)] true
  | oneThread => .record "SimplePool" [("status", p.status.layout)] true
  | manyThreads => .record "ThreadedPool" [("status", p.status.layout)] true

end ConnPool
