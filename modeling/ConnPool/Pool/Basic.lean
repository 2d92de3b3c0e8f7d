import ConnPool.Config
import ConnPool.Handle
import ConnPool.Key
import ConnPool.Table

/-!
# The state of a pool

A pool owns two collections of connections. The **idle stack** holds the connections
nobody uses; the one put there last is taken first. The **held table** holds the
connections that are checked out, each under the key of its borrower. Two more tables
go by the numbers of connections: one remembers since when a connection has been idle,
the other finds the borrower of a connection that is handed back without a key.

The four are kept side by side, and every operation changes each of them on its own.
That they agree is no part of the type: a stamp without a connection can be written
down, and that no pool ever gets there is something to be proved.

Nothing in this state can be seen from the backend, and nothing of the backend is in
it: whether a connection is open, or in the middle of a transaction, is a question
for the driver.
-/

namespace ConnPool

/-- The bookkeeping of a pool of connections. -/
structure Pool (C : Type) where
  /-- The settings the pool was built with. -/
  config : Config
  /-- The idle stack, the connection to be taken next first. -/
  idle : List (Handle C)
  /-- The reading of the clock when each idle connection was put on the idle stack. -/
  stamps : Table ConnId Instant
  /-- The connections checked out, by the key of their borrower. -/
  held : Table Key (Handle C)
  /-- The key each connection was last checked out under, until it is handed back. -/
  borrower : Table ConnId Key
  /-- Whether the pool has been closed. -/
  closed : Bool
  /-- The next key to issue to a caller that gives none. -/
  nextKey : Nat
  /-- The number of the next connection to be opened. -/
  nextId : ConnId

namespace Pool

variable {C : Type}

/-- A pool that has not opened anything yet. -/
def fresh (config : Config) : Pool C where
  config := config
  idle := []
  stamps := ∅
  held := ∅
  borrower := ∅
  closed := false
  nextKey := 0
  nextId := 0

/-! ### Views -/

/-- The idle connections, the one that has waited longest first. -/
def idleHandles (p : Pool C) : List (Handle C) := p.idle.reverse

/-- The numbers of the idle connections, the one that has waited longest first. -/
def idleIds (p : Pool C) : List ConnId := p.idleHandles.map Handle.id

/-- Since when a connection has been on the idle stack, if the pool knows. -/
def idleSince? (p : Pool C) (id : ConnId) : Option Instant := p.stamps.get? id

/-- The connections checked out, by ascending number. -/
def heldHandles (p : Pool C) : List (Handle C) :=
  p.held.values.mergeSort fun h k => h.id ≤ k.id

/-- The key a checked-out connection is held under. -/
def key? (p : Pool C) (id : ConnId) : Option Key := p.borrower.get? id

/-- The number of connections the pool owns. -/
def size (p : Pool C) : Nat := p.idle.length + p.held.size

end Pool

end ConnPool
