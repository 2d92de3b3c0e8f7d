import ConnPool.Pool.Request
import ConnPool.Pool.Status
import ConnPool.Simulation.World

/-!
# Fleets

A fleet is a number of pools in one simulated world. They may share a backend, and so
its counters and its failures, but a connection belongs to the pool that opened it.
Pools are never taken out of a fleet, so a pool's place in it is its identity: a
closed pool is still there for the late releases of its borrowers.
-/

namespace ConnPool

/-- The identity of a pool: its place in the fleet. -/
abbrev PoolId := Nat

/-- A pool of a fleet. -/
structure Member where
  /-- Its bookkeeping. -/
  pool : Pool SimId
  /-- How it is shared. -/
  sharing : Sharing
  /-- The backend it opens its connections at. -/
  backend : Nat
  /-- The clock it reads. -/
  clock : ClockKind

/-- How a pool of the fleet reaches its backend and its clock. -/
def Member.driver (m : Member) : Driver World SimId Fault := World.driver m.backend m.clock

/-- Pools in a world. -/
structure Fleet where
  /-- The world of the pools. -/
  world : World := {}
  /-- The pools, in the order in which they were built. -/
  members : List Member := []

namespace Fleet

/-- A pool of the fleet. -/
def member? (f : Fleet) (i : PoolId) : Option Member := f.members[i]?

/-- Whether a pool of the fleet is closed. -/
def isClosed (f : Fleet) (i : PoolId) : Bool := (f.member? i).any fun m => m.pool.closed

/-- Has an operation act on one pool, if it is there, with that pool's driver. -/
def act {α : Type} (i : PoolId) (absent : α)
    (op : Driver World SimId Fault → Pool SimId → World → α × Pool SimId × World)
    (f : Fleet) : α × Fleet :=
  match f.member? i with
  | none => (absent, f)
  | some m =>
    match op m.driver m.pool f.world with
    | (a, p, w) => (a, { world := w, members := f.members.set i { m with pool := p } })

/-- Has one pool answer a request. -/
def serve (i : PoolId) (r : Request (Handle SimId)) (f : Fleet) :
    Option (Response SimId Fault) × Fleet :=
  f.act i none fun d p w =>
    match p.serve d r w with
    | (answer, p, w) => (some answer, p, w)

/-- Evicts the connections of one pool that have idled too long. -/
def prune (i : PoolId) (f : Fleet) : EvictionReport Fault × Fleet :=
  f.act i ⟨0, []⟩ fun d p w => p.prune d w

/-- Closes one pool. -/
def closeAll (i : PoolId) (f : Fleet) : ClosingReport Fault × Fleet :=
  f.act i ⟨0, []⟩ fun d p w => p.closeAll d w

/-- Builds a pool and adds it to the fleet. -/
def build (sharing : Sharing) (config : Config) (backend : Nat) (clock : ClockKind) (f : Fleet) :
    Except (Refusal Fault) PoolId × Fleet :=
  match Pool.build (World.driver backend clock) config f.world with
  | (.error e, w) => (.error e, { f with world := w })
  | (.ok pool, w) =>
    (.ok f.members.length,
      { world := w, members := f.members ++ [{ pool, sharing, backend, clock }] })

/-- Changes how a pool is shared. -/
def share (i : PoolId) (sharing : Sharing) (f : Fleet) : Fleet :=
  { f with members := f.members.modify i fun m => { m with sharing } }

end Fleet

end ConnPool
