import ConnPool.Time

/-!
# Handles

A pool hands out connections as handles: the connection with the number the pool has
given it and the time at which it was opened. Handing a handle out does not give it
away – borrower, pool and anyone the borrower has passed it to hold the same one – so
what counts is whether two handles mean the same connection.
-/

namespace ConnPool

/-- The number a pool gives a connection it opens: unique within the pool, and never
given again. -/
abbrev ConnId := Nat

/-- The display text of a connection's number. -/
def ConnId.display (id : ConnId) : String := "#" ++ toString id

/-- A connection as a pool knows it. -/
structure Handle (C : Type) where
  /-- Its number within the pool. -/
  id : ConnId
  /-- The connection itself. -/
  conn : C
  /-- The reading of the clock when the pool had opened it. -/
  createdAt : Instant
  deriving DecidableEq

/-- Whether two handles mean one connection. The number alone does not tell, since
every pool counts from zero. -/
def Handle.isSame {C : Type} [DecidableEq C] (h k : Handle C) : Bool :=
  h.id = k.id ∧ h.conn = k.conn

theorem Handle.isSame_iff {C : Type} [DecidableEq C] {h k : Handle C} :
    h.isSame k = true ↔ h.id = k.id ∧ h.conn = k.conn := by
  rw [isSame, decide_eq_true_eq]

end ConnPool
