import ConnPool.Pruner

/-!
# The steps of a session

A session drives a service by a script. Each step of the script addresses one of the
parts of the service – a pool, a connection, a backend, the registry, a pruner, a
clock – and what can be asked of a part is an inductive type of its own.

Scripts mean connections by names, which the steps that hand one out bind.
-/

namespace ConnPool

/-- What a script can ask of a pool. -/
inductive PoolStep where
  /-- Answer a request; `bind` names the connection it hands out. -/
  | request (r : Request String) (bind : Option String)
  /-- Turn a pool shared within one thread into a pool of one owner. -/
  | unwrap
  /-- Turn a pool of one owner into a shared one. -/
  | wrap (sharing : Sharing)
  /-- Tell the status. -/
  | status
  /-- Tell whether the pool is closed. -/
  | isClosed
  /-- Tell the settings. -/
  | config
  /-- Show the pool as a record, spread over several lines or not. -/
  | show (spread : Bool)
  /-- Tell what the pool knows about a connection. -/
  | inspect (name : String)

/-- What a script can do with a connection. -/
inductive ConnStep where
  /-- Change the status of its transaction. -/
  | setStatus (status : TxStatus)
  /-- Cut its link, as the server would. -/
  | sever
  /-- Change how it takes to being closed and rolled back. -/
  | comply (onClose onRollback : Compliance)
  /-- Close it. -/
  | close
  /-- Roll it back. -/
  | rollback
  /-- Run the recycle check on it. -/
  | recycle
  /-- Tell its state. -/
  | inspect

/-- What a script can ask of a backend. -/
inductive BackendStep where
  /-- Open a connection outside any pool; `bind` names it. -/
  | connect (bind : Option String)
  /-- Refuse the next so many connect attempts. -/
  | refuseNext (n : Nat)
  /-- Refuse every connect attempt, or no longer do so. -/
  | refuseAll (on : Bool)
  /-- Report every close as failed, or no longer do so. -/
  | failClose (on : Bool)
  /-- Let every rollback fail, or no longer do so. -/
  | failRollback (on : Bool)
  /-- Change the condition of new connections. -/
  | birth (birth : Birth)

/-- What a script can ask of the registry. -/
inductive RegistryStep where
  /-- Provide the pool of a dsn, opening its connections at a backend. -/
  | provide (dsn : String) (config : Config) (backend : Nat)
  /-- Find the pool of a dsn. -/
  | get (dsn : String)
  /-- Close and forget the pool of a dsn. -/
  | remove (dsn : String)
  /-- Close and forget every pool. -/
  | closeAll
  /-- Tell the dsns. -/
  | dsns
  /-- Show the registry as a record, spread over several lines or not. -/
  | show (spread : Bool)

/-- What a script can ask of a pruner through its handle. -/
inductive PrunerStep where
  /-- Tell whether it has ended. -/
  | finished
  /-- Stop it. -/
  | shutdown
  /-- Wait for its end, at most for a number of milliseconds. -/
  | join (limit : Nat)

/-- A step of a script. -/
inductive Step where
  /-- Build a pool. -/
  | build (sharing : Sharing) (config : Config) (backend : Nat) (clock : ClockKind)
  /-- Ask something of a pool. -/
  | pool (i : PoolId) (step : PoolStep)
  /-- Do something with a connection. -/
  | conn (name : String) (step : ConnStep)
  /-- Compare two handles. -/
  | compare (name other : String)
  /-- Ask something of a backend. -/
  | backend (b : Nat) (step : BackendStep)
  /-- Move the manual clock. -/
  | advance (span : Duration)
  /-- Ask something of the registry. -/
  | registry (step : RegistryStep)
  /-- Start a pruner on a pool. -/
  | spawnPruner (i : PoolId) (interval : Duration)
  /-- Ask something of a pruner. -/
  | pruner (j : Nat) (step : PrunerStep)
  /-- Let some milliseconds of virtual time pass, with an eye on a pool. -/
  | wait (i : PoolId) (span : Nat)

end ConnPool
