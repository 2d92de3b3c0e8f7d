import ConnPool.Simulation.Backend

/-!
# Simulated worlds

A world is all that lies outside the pools: the backends, every connection any of
them has ever opened, and the clocks. A connection is meant by its place in the
world's list of connections, so two references are equal exactly if they mean one
connection, whoever holds them.

There are two clocks. The **manual** clock stands still until it is moved. The
**wall** clock runs by itself; as no answer shows its readings, all it has to do is
to run, and it advances by a microsecond with each reading.

`ConnPool.World.driver` is what makes a world usable: the driver of a pool that opens
its connections at one backend and reads one of the two clocks.
-/

namespace ConnPool

/-- A reference to a simulated connection. -/
abbrev SimId := Nat

/-- The clocks of a simulated world. -/
inductive ClockKind where
  /-- The clock that is moved by hand. -/
  | manual
  /-- The clock that runs by itself. -/
  | wall
  deriving DecidableEq

/-- All that lies outside the pools. -/
structure World where
  /-- The backends. -/
  backends : List Backend := []
  /-- Every connection ever opened, in the order of opening. -/
  conns : List SimConn := []
  /-- The reading of the manual clock. -/
  manual : Instant := Instant.start
  /-- The latest reading of the wall clock. -/
  wall : Instant := Instant.start
  deriving DecidableEq

namespace World

/-! ### Parts of a world -/

/-- A backend; one that has not been mentioned yet is as new. -/
def backend (w : World) (b : Nat) : Backend := w.backends.getD b {}

/-- Brings the backends up to a number into being. -/
def mention (b : Nat) (w : World) : World :=
  { w with backends := w.backends ++ List.replicate (b + 1 - w.backends.length) {} }

/-- Changes a backend. -/
def updateBackend (b : Nat) (f : Backend → Backend) (w : World) : World :=
  { w with backends := (w.mention b).backends.modify b f }

/-- The connection a reference means. -/
def conn? (w : World) (c : SimId) : Option SimConn := w.conns[c]?

/-- Changes a connection. -/
def updateConn (c : SimId) (f : SimConn → SimConn) (w : World) : World :=
  { w with conns := w.conns.modify c f }

/-! ### What is done to connections -/

/-- Opens a connection at a backend. -/
def connect (b : Nat) (w : World) : Except Fault SimId × World :=
  match (w.backend b).attempt with
  | (result, after) =>
    let w := w.updateBackend b fun _ => after
    match result with
    | .error e => (.error e, w)
    | .ok serial =>
      (.ok w.conns.length, { w with conns := w.conns ++ [.born b serial after.birth] })

/-- Closes a connection. A close that reaches the backend is counted and logged there,
and closes the connection even if the backend reports an error. -/
def close (c : SimId) (w : World) : Except Fault Unit × World :=
  match w.conn? c with
  | none => (.ok (), w)
  | some k =>
    match k.onClose with
    | .refuses => (.error (.closeRefused k.serial), w)
    | .ignores => (.ok (), w)
    | .obeys =>
      let after := (w.updateConn c fun k =>
          { k with closed := true, closes := k.closes + 1 }).updateBackend
        k.backend (Backend.recordClose k.serial)
      if (w.backend k.backend).failClose then (.error (.closeFailed k.serial), after)
      else (.ok (), after)

/-- Rolls a connection back. -/
def rollback (c : SimId) (w : World) : Except Fault Unit × World :=
  match w.conn? c with
  | none => (.ok (), w)
  | some k =>
    match k.onRollback with
    | .refuses => (.error (.rollbackRefused k.serial), w)
    | .ignores => (.ok (), w)
    | .obeys =>
      if (w.backend k.backend).failRollback then (.error (.rollbackFailed k.serial), w)
      else
        (.ok (), (w.updateConn c fun k => { k with status := .idle }).updateBackend
          k.backend Backend.recordRollback)

/-- Whether a connection is closed. -/
def isClosed (c : SimId) (w : World) : Bool := (w.conn? c).all SimConn.closed

/-- Where the transaction of a connection stands. -/
def status (c : SimId) (w : World) : TxStatus := ((w.conn? c).map SimConn.status).getD .unknown

/-! ### Clocks -/

/-- Reads a clock. -/
def now (clock : ClockKind) (w : World) : Instant × World :=
  match clock with
  | .manual => (w.manual, w)
  | .wall =>
    let reading := w.wall + (⟨1000⟩ : Duration)
    (reading, { w with wall := reading })

/-- Moves the manual clock. -/
def advance (span : Duration) (w : World) : World := { w with manual := w.manual + span }

/-! ### The driver -/

/-- **The driver of a pool** on a backend and a clock. -/
def driver (b : Nat) (clock : ClockKind) : Driver World SimId Fault where
  connect := connect b
  close := close
  isClosed c w := (w.isClosed c, w)
  status c w := (w.status c, w)
  rollback := rollback
  now := now clock

end World

end ConnPool
