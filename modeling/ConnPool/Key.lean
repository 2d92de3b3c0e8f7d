/-!
# Borrower keys

A key says on whose behalf a connection is checked out: asking again under a key
that is already served gives the same connection. A caller chooses a name; for a
caller that gives none the pool issues the next number. The two never coincide,
whatever the name spells – a name `auto:0` and the issued key `0` are displayed
alike and are different keys.
-/

namespace ConnPool

/-- The identity of a borrower. -/
inductive Key where
  /-- A key the pool issues itself. -/
  | auto (n : Nat)
  /-- A key chosen by the caller. -/
  | named (name : String)
  deriving DecidableEq, Inhabited

namespace Key

/-- The display text of a key. -/
def display : Key → String
  | auto n => "auto:" ++ toString n
  | named name => name

/-- For each key of a list, the ascending positions of the keys equal to it. -/
def equalPositions (keys : List Key) : List (List Nat) :=
  keys.map fun k => (keys.zipIdx.filter fun e => e.1 = k).map Prod.snd

/-- The number of different keys in a list. -/
def countDistinct (keys : List Key) : Nat := keys.eraseDups.length

end Key

end ConnPool
