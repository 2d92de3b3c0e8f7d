import ConnPool.Pool.Opening

/-!
# Checking a connection out

`ConnPool.Pool.acquire` serves a borrower in one of three ways, in this order.

1. A key that is already served gets its connection again, and nothing else happens.
2. Otherwise idle connections are taken off the stack until one passes the recycle
   check. Those that fail it are lost on the way, also when none is left in the end.
3. Otherwise a connection is opened, unless as many are checked out as the capacity
   allows.

A borrower that gives no key is served under one the pool issues. It is issued last,
so a request that fails does not use it up.
-/

namespace ConnPool

namespace Pool

variable {W C ε : Type}

/-- Takes a connection off the idle stack, together with its stamp; `rest` is what
is left of the stack. -/
def unstack (p : Pool C) (h : Handle C) (rest : List (Handle C)) : Pool C :=
  { p with idle := rest, stamps := p.stamps.erase h.id }

/-- Takes the connections of a stack off it until one passes the recycle check. Answers
with that connection, if there is one. -/
def reuseFrom (d : Driver W C ε) :
    List (Handle C) → Pool C → W → Option (Handle C) × Pool C × W
  | [], p, w => (none, p, w)
  | h :: rest, p, w =>
    match d.recycle h.conn w with
    | (outcome, w) =>
      if outcome.isReusable then (some h, p.unstack h rest, w)
      else reuseFrom d rest (p.unstack h rest) w

/-- Takes idle connections off the stack until one passes the recycle check. -/
def reuse (d : Driver W C ε) (p : Pool C) (w : W) : Option (Handle C) × Pool C × W :=
  reuseFrom d p.idle p w

/-- The key to serve a borrower under, and the next key to issue after that. -/
def chooseKey (p : Pool C) : Option Key → Key × Nat
  | some key => (key, p.nextKey)
  | none => (.auto p.nextKey, p.nextKey + 1)

/-- Enters a connection as checked out. -/
def checkOut (p : Pool C) (key : Option Key) (h : Handle C) : Pool C :=
  { p with
    held := p.held.insert (p.chooseKey key).1 h
    borrower := p.borrower.insert h.id (p.chooseKey key).1
    nextKey := (p.chooseKey key).2 }

/-- **Checks a connection out**, under a key or, without one, under a key issued for
the occasion. -/
def acquire (d : Driver W C ε) (key : Option Key) (p : Pool C) (w : W) :
    Except (Refusal ε) (Handle C) × Pool C × W :=
  if p.closed then (.error .closed, p, w)
  else
    match key.bind p.held.get? with
    | some h => (.ok h, p, w)
    | none =>
      match p.reuse d w with
      | (some h, p, w) => (.ok h, p.checkOut key h, w)
      | (none, p, w) =>
        if p.config.capacity ≤ p.held.size then
          (.error (.exhausted p.config.maxConnections), p, w)
        else
          match p.connect d w with
          | (.error e, p, w) => (.error (.factory e), p, w)
          | (.ok h, p, w) => (.ok h, p.checkOut key h, w)

end Pool

end ConnPool
