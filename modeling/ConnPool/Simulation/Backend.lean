import ConnPool.Driver

/-!
# Simulated backends

A simulated backend opens connections that do nothing, and counts what is done to
them. It can be told to fail: to refuse the next so many connect attempts or all of
them, and to report an error for every close or every rollback. A close that is
reported to fail has closed its connection all the same.

The number of refusals to come is a **budget**: `ConnPool.Backend.attempt` spends one
of it on each attempt it refuses on that account, and none while every attempt is
refused anyway.

`ConnPool.Fault` lists what can go wrong, with its wording.
-/

namespace ConnPool

/-! ### Faults -/

/-- What can go wrong with a simulated backend. -/
inductive Fault where
  /-- The backend refused a connect attempt, counted from one. -/
  | connectRefused (attempt : Nat)
  /-- The backend reported an error for closing a connection. -/
  | closeFailed (serial : Nat)
  /-- The backend reported an error for rolling a connection back. -/
  | rollbackFailed (serial : Nat)
  /-- A connection would not be closed. -/
  | closeRefused (serial : Nat)
  /-- A connection would not be rolled back. -/
  | rollbackRefused (serial : Nat)
  deriving DecidableEq

/-- The wording of a fault. -/
def Fault.message : Fault → String
  | connectRefused attempt => "mock connection refused (attempt " ++ toString attempt ++ ")"
  | closeFailed serial => "mock close failed for connection " ++ toString serial
  | rollbackFailed serial => "mock rollback failed for connection " ++ toString serial
  | closeRefused serial => "close refused by " ++ toString serial
  | rollbackRefused serial => "rollback refused by " ++ toString serial

instance : ToString Fault := ⟨Fault.message⟩

/-! ### Backends -/

/-- The condition in which a backend delivers new connections. -/
structure Birth where
  /-- The status to begin with, if not idle. -/
  status : Option TxStatus := none
  /-- Whether the link is cut from the start. -/
  severed : Bool := false
  deriving DecidableEq

/-- A simulated backend: what it has counted and how it is told to behave. -/
structure Backend where
  /-- Connect attempts, successful or not. -/
  attempts : Nat := 0
  /-- Connections opened; the serial number of the latest. -/
  opened : Nat := 0
  /-- Closes that reached the backend. -/
  closed : Nat := 0
  /-- Rollbacks that succeeded. -/
  rollbacks : Nat := 0
  /-- How many connect attempts are still to be refused. -/
  refusals : Nat := 0
  /-- Whether every connect attempt is refused. -/
  refuseAll : Bool := false
  /-- Whether every close is reported to fail. -/
  failClose : Bool := false
  /-- Whether every rollback fails. -/
  failRollback : Bool := false
  /-- The serial numbers of the connections closed, in the order of the closes. -/
  closeLog : List Nat := []
  /-- The condition of new connections. -/
  birth : Birth := {}
  deriving DecidableEq

instance : Inhabited Backend := ⟨{}⟩

namespace Backend

/-- A connect attempt: the serial number of the connection, or a refusal. -/
def attempt (b : Backend) : Except Fault Nat × Backend :=
  let number := b.attempts + 1
  if b.refuseAll then (.error (.connectRefused number), { b with attempts := number })
  else if b.refusals = 0 then
    (.ok (b.opened + 1), { b with attempts := number, opened := b.opened + 1 })
  else
    (.error (.connectRefused number),
      { b with attempts := number, refusals := b.refusals - 1 })

/-- A close of a connection, as the backend counts it. -/
def recordClose (serial : Nat) (b : Backend) : Backend :=
  { b with closed := b.closed + 1, closeLog := b.closeLog ++ [serial] }

/-- A successful rollback, as the backend counts it. -/
def recordRollback (b : Backend) : Backend := { b with rollbacks := b.rollbacks + 1 }

end Backend

/-! ### Connections -/

/-- How a connection takes to being told to close, or to roll back. -/
inductive Compliance where
  /-- It does as it is told. -/
  | obeys
  /-- It reports an error and does nothing. -/
  | refuses
  /-- It reports success and does nothing. -/
  | ignores
  deriving DecidableEq, Inhabited

/-- A simulated connection. -/
structure SimConn where
  /-- The backend that opened it. -/
  backend : Nat
  /-- Its serial number there. -/
  serial : Nat
  /-- Whether it is closed, by either side. -/
  closed : Bool := false
  /-- Where its transaction stands. -/
  status : TxStatus := .idle
  /-- How many closes of it have reached the backend. -/
  closes : Nat := 0
  /-- How it takes to being closed. -/
  onClose : Compliance := .obeys
  /-- How it takes to being rolled back. -/
  onRollback : Compliance := .obeys
  deriving DecidableEq

/-- A connection as a backend delivers it. -/
def SimConn.born (backend serial : Nat) (birth : Birth) : SimConn :=
  { backend, serial, closed := birth.severed, status := birth.status.getD .idle }

end ConnPool
