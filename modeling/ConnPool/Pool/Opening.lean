import ConnPool.Driver
import ConnPool.Refusal
import ConnPool.Pool.Basic

/-!
# Opening connections

A pool opens a connection on two occasions: to serve a borrower when no idle one will
do, and to get back to its floor. The second is `ConnPool.Pool.refill`. It knows
beforehand how many connections are missing, opens them one after the other onto the
idle stack, and gives up at the first that fails – the next release tries again.

A connection gets its number only when it has been opened, so a failed attempt
leaves no gap in the numbers.
-/

namespace ConnPool

namespace Pool

variable {W C ε : Type}

/-- Gives the next number away. -/
def number (p : Pool C) : Pool C := { p with nextId := p.nextId + 1 }

/-- Opens a connection and gives it the next number. -/
def connect (d : Driver W C ε) (p : Pool C) (w : W) : Except ε (Handle C) × Pool C × W :=
  match d.connect w with
  | (.error e, w) => (.error e, p, w)
  | (.ok conn, w) =>
    match d.now w with
    | (now, w) => (.ok ⟨p.nextId, conn, now⟩, p.number, w)

/-- Puts a connection on top of the idle stack, with a stamp. -/
def stack (p : Pool C) (h : Handle C) (now : Instant) : Pool C :=
  { p with idle := h :: p.idle, stamps := p.stamps.insert h.id now }

/-- Puts a connection on top of the idle stack. -/
def shelve (d : Driver W C ε) (h : Handle C) (p : Pool C) (w : W) : Pool C × W :=
  match d.now w with
  | (now, w) => (p.stack h now, w)

/-- Opens a number of connections onto the idle stack, up to the first that fails. -/
def openIdle (d : Driver W C ε) : Nat → Pool C → W → Pool C × W
  | 0, p, w => (p, w)
  | missing + 1, p, w =>
    match p.connect d w with
    | (.error _, p, w) => (p, w)
    | (.ok h, p, w) =>
      match p.shelve d h w with
      | (p, w) => openIdle d missing p w

/-- Opens the connections that are missing to the floor. -/
def refill (d : Driver W C ε) (p : Pool C) (w : W) : Pool C × W :=
  openIdle d (p.config.floor - p.size) p w

/-- **A new pool**, filled up to its floor as far as the factory allows. Only settings
that no pool can honour are refused. -/
def build (d : Driver W C ε) (config : Config) (w : W) :
    Except (Refusal ε) (Pool C) × W :=
  match config.validate with
  | .error defect => (.error (.configuration defect), w)
  | .ok _ =>
    match (fresh config).refill d w with
    | (p, w) => (.ok p, w)

end Pool

end ConnPool
