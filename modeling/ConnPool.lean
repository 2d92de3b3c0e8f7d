import ConnPool.Session.Play
import ConnPool.Proofs.Driver
import ConnPool.Proofs.Pool.Outcomes
import ConnPool.Proofs.Pool.Moves
import ConnPool.Proofs.Pool.Runs
import ConnPool.Proofs.Pool.Keys
import ConnPool.Proofs.Pool.Capacity
import ConnPool.Proofs.Pool.Ownership
import ConnPool.Proofs.Pool.Lockstep
import ConnPool.Proofs.Pool.Checkouts
import ConnPool.Proofs.Pool.Projection
import ConnPool.Proofs.Pool.Leaks
import ConnPool.Proofs.Pool.Closed
import ConnPool.Proofs.Pool.Faultless
import ConnPool.Proofs.Pool.Calls
import ConnPool.Proofs.Simulation.World
import ConnPool.Proofs.Simulation.Events
import ConnPool.Proofs.Simulation.Ledger
import ConnPool.Proofs.Simulation.Acts
import ConnPool.Proofs.Simulation.Accounts
import ConnPool.Proofs.Simulation.Faultless
import ConnPool.Proofs.Pool.Clients
import ConnPool.Proofs.Pool.Permits
import ConnPool.Proofs.Pool.Apart
import ConnPool.Proofs.Simulation.Touches
import ConnPool.Proofs.Fleet.Parted
import ConnPool.Proofs.Fleet
import ConnPool.Proofs.Fleet.Pruning
import ConnPool.Proofs.Fleet.Operations
import ConnPool.Proofs.Pruner
import ConnPool.Proofs.Waiting
import ConnPool.Proofs.Registry
import ConnPool.Proofs.Session.Changes
import ConnPool.Proofs.Session.Closes
import ConnPool.Proofs.Session.Frames
import ConnPool.Proofs.Session.Unattended
import ConnPool.Proofs.Session.Pruners
import ConnPool.Proofs.Pool.Renaming
import ConnPool.Proofs.Pool.Shuffles
import ConnPool.Proofs.Pool.Names
import ConnPool.Proofs.Pool.Returns
import ConnPool.Proofs.Pool.Exhaustion
import ConnPool.Proofs.Recycling
import ConnPool.Proofs.Simulation.Restoring
import ConnPool.Proofs.Pool.Search
import ConnPool.Proofs.Pool.Disposal
import ConnPool.Proofs.Pool.Refilling
import ConnPool.Proofs.Pool.Sticky
import ConnPool.Proofs.Closing
import ConnPool.Proofs.Pool.Eviction
import ConnPool.Proofs.Pool.Stamps
import ConnPool.Proofs.Pool.IdleOrder
import ConnPool.Proofs.Pool.Surplus
import ConnPool.Proofs.Pool.RoundTrip
import ConnPool.Proofs.Repairing
import ConnPool.Proofs.Simulation.Backends
import ConnPool.Proofs.Simulation.Repairing
import ConnPool.Proofs.Pool.Retrying
import ConnPool.Proofs.Pool.Shutdown
import ConnPool.Proofs.Pool.Issuing
import ConnPool.Proofs.Fleet.Closes
import ConnPool.Proofs.Registry.Providing
import ConnPool.Proofs.Fleet.Shutdown
import ConnPool.Proofs.Registry.TearingDown
import ConnPool.Proofs.Endings
import ConnPool.Proofs.Session.ClosedPools
import ConnPool.Proofs.Session.PrunerSteps
import ConnPool.Proofs.Session.Acts
import ConnPool.Proofs.Session.Accounts
import ConnPool.Proofs.Simulation.Refusals
import ConnPool.Proofs.Session.Refusals
import ConnPool.Proofs.Session.Endings
