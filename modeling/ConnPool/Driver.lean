import ConnPool.Time

/-!
# Drivers

A pool never looks inside a connection. All it can do is what `ConnPool.Driver`
lists: open one, ask whether it is closed and where its transaction stands, roll that
transaction back, close it – and read a clock. Each of these acts on a world `W`
that the pool does not know either, and answers together with the world after it.
A driver is an arbitrary value of that type: a query may answer differently every
time, a close may leave its connection open, a clock may run backwards. What is
proved of a pool over such a driver holds whatever the backend does.

Two short procedures are all a pool does to a connection it has.

* `ConnPool.Driver.recycle` makes a connection fit to be handed out again, or gets
  rid of it. It is run on every connection that enters or leaves the idle stack,
  except that a freshly opened one enters it as it is.
* `ConnPool.Driver.shut` closes a connection that is not closed yet.

Both ask before they close, so neither closes a connection that reports itself
closed.
-/

namespace ConnPool

/-! ### What a connection reports -/

/-- Where the transaction of a connection stands. -/
inductive TxStatus where
  /-- No transaction; the connection can be handed out as it is. -/
  | idle
  /-- A command is being executed. -/
  | active
  /-- Inside a transaction. -/
  | inTransaction
  /-- Inside a transaction that has failed. -/
  | inError
  /-- Not known; the link to the server is presumed lost. -/
  | unknown
  deriving DecidableEq, Inhabited

namespace TxStatus

/-- Whether a connection in this state can be reused without a rollback. -/
def isIdle : TxStatus → Bool
  | idle => true
  | _ => false

/-- The display text of a status. -/
def display : TxStatus → String
  | idle => "idle"
  | active => "active"
  | inTransaction => "in_transaction"
  | inError => "in_error"
  | unknown => "unknown"

/-- Every status. -/
def all : List TxStatus := [idle, active, inTransaction, inError, unknown]

/-- The status with a display text. -/
def ofDisplay? (text : String) : Option TxStatus := all.find? fun s => s.display = text

end TxStatus

/-! ### The interface -/

/-- How a pool reaches its backend and its clock. `W` is the state of everything
outside the pool, `C` the connections and `ε` what can go wrong with them. -/
structure Driver (W C ε : Type) where
  /-- Opens a connection. -/
  connect : W → Except ε C × W
  /-- Closes a connection. -/
  close : C → W → Except ε Unit × W
  /-- Whether a connection has been closed, by either side. -/
  isClosed : C → W → Bool × W
  /-- Where the transaction of a connection stands. -/
  status : C → W → TxStatus × W
  /-- Abandons the transaction of a connection. -/
  rollback : C → W → Except ε Unit × W
  /-- Reads the clock. -/
  now : W → Instant × W

/-- The outcome of a recycle check. The first two let the connection live on; after
the other three it is not to be used any more. -/
inductive RecycleOutcome where
  /-- The connection is idle. -/
  | reusable
  /-- A transaction left open has been rolled back. -/
  | rolledBack
  /-- The connection was closed already. -/
  | alreadyClosed
  /-- The state of its transaction was unknown; it has been closed. -/
  | statusUnknown
  /-- A transaction left open could not be rolled back; the connection has been closed. -/
  | rollbackFailed
  deriving DecidableEq

/-- Whether the connection has passed the check. -/
def RecycleOutcome.isReusable : RecycleOutcome → Bool
  | reusable => true
  | rolledBack => true
  | _ => false

namespace Driver

variable {W C ε : Type}

/-! ### What a pool does to a connection -/

/-- **The recycle check.** A closed connection is dropped, one in an unknown state
closed; any other that is not idle is rolled back, and closed if that fails. Errors
of those closes are ignored, the connection is lost either way. -/
def recycle (d : Driver W C ε) (c : C) (w : W) : RecycleOutcome × W :=
  match d.isClosed c w with
  | (true, w) => (.alreadyClosed, w)
  | (false, w) =>
    match d.status c w with
    | (.idle, w) => (.reusable, w)
    | (.unknown, w) => (.statusUnknown, (d.close c w).2)
    | (_, w) =>
      match d.rollback c w with
      | (.ok _, w) => (.rolledBack, w)
      | (.error _, w) => (.rollbackFailed, (d.close c w).2)

/-- Closes a connection unless it is closed already. The answer says whether it was
this call that closed it. -/
def shut (d : Driver W C ε) (c : C) (w : W) : Except ε Bool × W :=
  match d.isClosed c w with
  | (true, w) => (.ok false, w)
  | (false, w) =>
    match d.close c w with
    | (.ok _, w) => (.ok true, w)
    | (.error e, w) => (.error e, w)

end Driver

end ConnPool
