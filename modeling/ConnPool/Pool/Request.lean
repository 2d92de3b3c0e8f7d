import ConnPool.Pool.Acquire
import ConnPool.Pool.Closing
import ConnPool.Pool.Release

/-!
# Requests and runs

Everything that changes a pool after it has been built is one of four requests:
acquire, release, prune, close. `ConnPool.Pool.serve` answers a request, and a run of
a pool is a sequence of them. The type of handles is left open, because those who
write requests down – a script, say – may name a connection in a way of their own.

The everyday vocabulary of borrowers is defined from the four: *get* a connection,
*put* it back, *discard* it.
-/

namespace ConnPool

/-- What can be asked of a pool; `H` is how the request means a connection. -/
inductive Request (H : Type) where
  /-- Check a connection out. -/
  | acquire (key : Option Key)
  /-- Hand a connection back. -/
  | release (handle : H) (key : Option Key) (force : Bool)
  /-- Evict the connections that have idled too long. -/
  | prune
  /-- Close the pool. -/
  | closeAll
  deriving DecidableEq

namespace Request

variable {H : Type}

/-- Check a connection out for an anonymous borrower. -/
def get : Request H := acquire none

/-- Check a connection out for a borrower with a name. -/
def getKeyed (name : String) : Request H := acquire (some (.named name))

/-- Hand a connection back for reuse. -/
def put (handle : H) : Request H := release handle none false

/-- Hand a connection back to be closed. -/
def discard (handle : H) : Request H := release handle none true

end Request

/-- The answer to a request. -/
inductive Response (C ε : Type) where
  /-- The connection checked out, or why there is none. -/
  | acquired (result : Except (Refusal ε) (Handle C))
  /-- Whether the connection could be handed back. -/
  | released (result : Except (Refusal ε) Unit)
  /-- What has been evicted. -/
  | pruned (report : EvictionReport ε)
  /-- What has been closed. -/
  | closed (report : ClosingReport ε)

namespace Pool

variable {W C ε : Type} [DecidableEq C]

/-- **Answers a request.** -/
def serve (d : Driver W C ε) : Request (Handle C) → Pool C → W → Response C ε × Pool C × W
  | .acquire key, p, w =>
    match p.acquire d key w with
    | (result, p, w) => (.acquired result, p, w)
  | .release h key force, p, w =>
    match p.release d h key force w with
    | (result, p, w) => (.released result, p, w)
  | .prune, p, w =>
    match p.prune d w with
    | (report, p, w) => (.pruned report, p, w)
  | .closeAll, p, w =>
    match p.closeAll d w with
    | (report, p, w) => (.closed report, p, w)

end Pool

end ConnPool
