import ConnPool.Config

/-!
# Refusals

`ConnPool.Refusal` names the causes for which a pool turns a request down. It is
stated over the type `ε` of what goes wrong in the backend, and only one constructor
carries such a thing: a factory that failed to open a connection is the *source* of
the refusal. Since a refusal is again something that can go wrong, a factory built on
another pool nests them, `Refusal (Refusal ε)`, and the wording nests with the type.

A refusal is **transient** if the same request may succeed later without anyone
changing the request.
-/

namespace ConnPool

/-- Why a pool turns a request down. -/
inductive Refusal (ε : Type) where
  /-- The pool has been closed. -/
  | closed
  /-- As many connections are checked out as the capacity `max` allows. -/
  | exhausted (max : UInt32)
  /-- The connection to be released is not checked out in this pool under that key. -/
  | unknownHandle
  /-- A connection was needed and the factory failed to open it. -/
  | factory (source : ε)
  /-- The pool cannot be built with these settings. -/
  | configuration (defect : ConfigDefect)
  deriving DecidableEq

namespace Refusal

variable {ε : Type}

/-- The wording of a refusal, given that of its source. -/
def message [ToString ε] : Refusal ε → String
  | closed => "pool is closed"
  | exhausted max =>
    "connection pool exhausted (" ++ toString max.toNat ++ " connections in use)"
  | unknownHandle => "trying to release a connection the pool does not track"
  | factory source => "failed to create connection: " ++ toString source
  | configuration defect => "pool configuration error: " ++ defect.message

instance [ToString ε] : ToString (Refusal ε) := ⟨message⟩

/-- Whether the same request may succeed later. -/
def isTransient : Refusal ε → Bool
  | exhausted _ => true
  | factory _ => true
  | _ => false

/-- What went wrong in the backend, if that is the cause. -/
def source? : Refusal ε → Option ε
  | factory source => some source
  | _ => none

end Refusal

end ConnPool
