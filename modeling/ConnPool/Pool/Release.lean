import ConnPool.Pool.Opening

/-!
# Handing a connection back

A release has to say which checkout it ends. It does so by the connection, and either
by the borrower's key or – without one – by the key the pool remembers for the
connection. If that key does not hold this very connection, the release is refused
and changes nothing at all. On a closed pool there is nobody left to complain to, and
the same release is accepted without effect.

A release that takes effect ends the checkout whatever happens next. The connection
goes back on the idle stack if it is still of use: the pool is open, the borrower has
not asked for it to be closed, a pool without idle eviction is short of its floor, and
the recycle check passes. Then the pool gets back to its floor.
-/

namespace ConnPool

namespace Pool

variable {W C ε : Type}

/-- Closes a connection the pool lets go of, whatever comes of it. -/
def letGo (d : Driver W C ε) (h : Handle C) (w : W) : W := (d.shut h.conn w).2

/-- Whether a pool without idle eviction has all the idle connections it keeps. -/
def hasSurplus (p : Pool C) : Bool :=
  !p.config.evictsIdle && p.config.floor ≤ p.idle.length

/-- Ends the checkout of a connection under a key. -/
def checkIn (p : Pool C) (key : Key) (h : Handle C) : Pool C :=
  { p with held := p.held.erase key, borrower := p.borrower.erase h.id }

/-- Puts a connection that has come back on the idle stack if it passes the recycle
check. -/
def shelveIfUsable (d : Driver W C ε) (h : Handle C) (p : Pool C) (w : W) : Pool C × W :=
  match d.recycle h.conn w with
  | (outcome, w) => if outcome.isReusable then p.shelve d h w else (p, w)

/-- What becomes of a connection that has come back. -/
def dispose (d : Driver W C ε) (h : Handle C) (force : Bool) (p : Pool C) (w : W) :
    Pool C × W :=
  if force || p.closed || p.hasSurplus then (p, letGo d h w) else p.shelveIfUsable d h w

variable [DecidableEq C]

/-- The key whose checkout a release ends: the one it names or else the one remembered
for the connection, if this very connection is held under it. -/
def checkout? (p : Pool C) (h : Handle C) (key : Option Key) : Option Key :=
  (key.or (p.borrower.get? h.id)).filter fun k =>
    (p.held.get? k).any fun held => held.isSame h

/-- **Hands a connection back**, to be closed if `force` is set. -/
def release (d : Driver W C ε) (h : Handle C) (key : Option Key) (force : Bool) (p : Pool C)
    (w : W) : Except (Refusal ε) Unit × Pool C × W :=
  match p.checkout? h key with
  | none => (if p.closed then .ok () else .error .unknownHandle, p, w)
  | some k =>
    match (p.checkIn k h).dispose d h force w with
    | (p, w) =>
      if p.closed then (.ok (), p, w)
      else
        match p.refill d w with
        | (p, w) => (.ok (), p, w)

end Pool

end ConnPool
