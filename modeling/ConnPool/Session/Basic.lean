import ConnPool.Pruner
import ConnPool.Registry

/-!
# Sessions and what they show

A session is a service with a registry on top, and the names its script has given to
connections. A name keeps meaning the same connection after the connection has been
handed back, so a script can hold on to what it no longer owns.

What a session shows after a step is a `ConnPool.Reply`: the answer to the step, the
pool the step worked on (`ConnPool.PoolView`), and the backends with the closes that
have reached them during the step. Readings of the wall clock are never shown; a view
says that there is one and no more.
-/

namespace ConnPool

/-! ### Names -/

/-- What a name of a script means. -/
inductive Binding where
  /-- A connection of a pool, by a handle whose times are readings of a clock. -/
  | pooled (handle : Handle SimId) (clock : ClockKind)
  /-- A connection outside any pool. -/
  | bare (conn : SimId)

namespace Binding

/-- The connection a name means. -/
def conn : Binding → SimId
  | pooled h _ => h.conn
  | bare c => c

/-- The handle a name means. -/
def handle? : Binding → Option (Handle SimId)
  | pooled h _ => some h
  | bare _ => none

end Binding

/-! ### Sessions -/

/-- The state of a session. -/
structure Session where
  /-- The pools, their world and their pruners. -/
  service : Service := {}
  /-- The registry. -/
  registry : Registry := {}
  /-- The names the script has bound. -/
  names : Table String Binding := ∅

namespace Session

/-- The pools and their world. -/
def fleet (s : Session) : Fleet := s.service.fleet

/-- The world of the pools. -/
def world (s : Session) : World := s.service.fleet.world

/-- The session with another fleet. -/
def withFleet (s : Session) (f : Fleet) : Session :=
  { s with service := { s.service with fleet := f } }

/-- The session with another world. -/
def withWorld (s : Session) (w : World) : Session := s.withFleet { s.fleet with world := w }

/-- Binds a name, if one is given. -/
def bind (s : Session) (name : Option String) (b : Binding) : Session :=
  match name with
  | none => s
  | some name => { s with names := s.names.insert name b }

/-- The handle a name means. -/
def handle? (s : Session) (name : String) : Option (Handle SimId) :=
  (s.names.get? name).bind Binding.handle?

end Session

/-! ### Views of pools -/

/-- A reading of a clock as it is shown. -/
inductive Reading where
  /-- A reading of the manual clock. -/
  | shown (t : Instant)
  /-- A reading of the wall clock. -/
  | hidden
  deriving DecidableEq

/-- A reading of a clock as it is shown. -/
def Reading.ofInstant (clock : ClockKind) (t : Instant) : Reading :=
  match clock with
  | .manual => shown t
  | .wall => hidden

/-- What is shown of a pool. -/
structure PoolView where
  /-- The idle connections, the one that has waited longest first, each with the time
  since when it has. -/
  idle : List (ConnId × Option Reading)
  /-- The connections checked out, by ascending number, each with its key. -/
  used : List (ConnId × Option Key)
  /-- Whether the pool is closed. -/
  closed : Bool

/-- A reading of a clock as a pool shows it. A pool on the wall clock shows no reading at
all, not even one of the manual clock that came with the handle of another pool. -/
def Member.reading (m : Member) (clock : ClockKind) (t : Instant) : Reading :=
  match m.clock with
  | .manual => .ofInstant clock t
  | .wall => .hidden

/-- The view of a pool. -/
def Member.view (m : Member) : PoolView where
  idle := m.pool.idleIds.map fun id =>
    (id, (m.pool.idleSince? id).map (m.reading m.clock))
  used := m.pool.heldHandles.map fun h => (h.id, m.pool.key? h.id)
  closed := m.pool.closed

/-! ### Answers and replies -/

/-- The answer to a step. -/
inductive Answer where
  /-- It is done. -/
  | done
  /-- There is nothing to tell. -/
  | nothing
  /-- The step addresses something that does not exist. -/
  | invalid
  /-- A pool turned the request down. -/
  | refused (error : Refusal Fault)
  /-- Something went wrong with a connection. -/
  | faulted (fault : Fault)
  /-- A pool handed out a connection. -/
  | lent (id : ConnId) (serial : Nat)
  /-- A pool evicted connections. -/
  | pruned (report : EvictionReport Fault)
  /-- A pool was closed. -/
  | closed (report : ClosingReport Fault)
  /-- The status of a pool. -/
  | status (status : Pool.Status)
  /-- Yes or no. -/
  | flag (value : Bool)
  /-- The settings of a pool. -/
  | config (config : Config)
  /-- A text. -/
  | text (text : String)
  /-- What a pool knows about a connection. -/
  | handle (id : ConnId) (key : Option Key) (since : Option Reading) (created : Reading)
  /-- How two handles compare. -/
  | comparison (same idEq idLt : Bool)
  /-- A connection was opened outside any pool. -/
  | opened (serial : Nat)
  /-- The outcome of a recycle check. -/
  | recycled (outcome : RecycleOutcome)
  /-- The state of a connection. -/
  | conn (conn : SimConn)
  /-- A reading of the manual clock. -/
  | elapsed (t : Instant)
  /-- The registry provided a pool, or did not; `asked` is the dsn its maker was asked for. -/
  | provided (result : Except (Refusal Fault) PoolId) (asked : Option String)
  /-- The registry found a pool. -/
  | found (i : PoolId)
  /-- The registry closed its pools. -/
  | tornDown (reports : List (String × ClosingReport Fault))
  /-- The dsns of the registry. -/
  | dsns (names : List String)
  /-- A pruner was started. -/
  | spawned (j : Nat)

/-- What a session shows after a step. -/
structure Reply where
  /-- The answer to the step. -/
  answer : Answer
  /-- The pool the step worked on, if it worked on one. -/
  pool : Option (PoolId × PoolView)
  /-- The backends after the step. -/
  backends : List Backend
  /-- For each backend the serial numbers of the connections closed during the step. -/
  closes : List (List Nat)

end ConnPool
