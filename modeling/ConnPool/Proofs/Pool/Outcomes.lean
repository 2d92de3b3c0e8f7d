import ConnPool.Pool.Request
import Mathlib.Logic.Relation

/-!
# What a request comes to

An acquire ends in one of six ways and a release in one of two. This file says so once
and for all – `ConnPool.Pool.acquired`, `ConnPool.Pool.released` – with everything
that is known in each of them, so that nothing below has to take `ConnPool.Pool.acquire`
or `ConnPool.Pool.release` apart again.

The one loop inside an acquire is the search of the idle stack. It is told as a number
of steps, `ConnPool.Pool.Drop`, each of which loses the connection on top of the stack;
where they stop, the stack is empty or the connection on top of it is fit to be handed
out (`ConnPool.Pool.reuse_drops`).
-/

namespace ConnPool

open Relation (ReflTransGen)

/-- **What every step keeps, any number of steps keep.** -/
theorem steps_invariant {α : Type} {step : α → α → Prop} {I : α → Prop}
    (hstep : ∀ s s', step s s' → I s → I s') {s s' : α} (h : ReflTransGen step s s') (hs : I s) :
    I s' := by
  induction h with
  | refl => exact hs
  | tail _ hlast ih => exact hstep _ _ hlast ih

namespace Pool

variable {W C ε : Type}

/-! ### Keys and checkouts -/

@[simp] theorem chooseKey_some (p : Pool C) (k : Key) : p.chooseKey (some k) = (k, p.nextKey) := rfl

@[simp] theorem chooseKey_none (p : Pool C) :
    p.chooseKey none = (.auto p.nextKey, p.nextKey + 1) := rfl

/-- The key depends on the next one to issue and on nothing else of the pool. -/
theorem chooseKey_congr {p q : Pool C} (h : q.nextKey = p.nextKey) (key : Option Key) :
    q.chooseKey key = p.chooseKey key := by
  cases key with
  | none => rw [chooseKey_none, chooseKey_none, h]
  | some k => rw [chooseKey_some, chooseKey_some, h]

/-- A release ends the checkout under a key exactly if it names that key, or names none
and the pool remembers that one, and the key holds the very connection. -/
theorem checkout?_eq_some_iff [DecidableEq C] {p : Pool C} {h : Handle C} {key : Option Key}
    {k : Key} : p.checkout? h key = some k ↔
      key.or (p.borrower.get? h.id) = some k ∧
        ∃ g, p.held.get? k = some g ∧ g.id = h.id ∧ g.conn = h.conn := by
  simp only [checkout?, Option.filter_eq_some_iff, Option.any_eq_true, Handle.isSame_iff]

/-! ### The search of the idle stack -/

/-- **One idle connection is lost**: the one on top of the stack fails the recycle
check. -/
inductive Drop (d : Driver W C ε) : Pool C × W → Pool C × W → Prop
  /-- The stack is left without it. -/
  | mk {p : Pool C} {w w' : W} {h : Handle C} {rest : List (Handle C)}
      {outcome : RecycleOutcome} (htop : p.idle = h :: rest)
      (hcheck : d.recycle h.conn w = (outcome, w')) (hbad : outcome.isReusable = false) :
      Drop d (p, w) (p.unstack h rest, w')

variable {d : Driver W C ε}

/-- Losing idle connections touches nothing but the stack and its stamps. -/
theorem drops_eq {s s' : Pool C × W} (h : ReflTransGen (Drop d) s s') :
    s'.1 = { s.1 with idle := s'.1.idle, stamps := s'.1.stamps } := by
  induction h with
  | refl => rfl
  | tail _ hdrop ih =>
    cases hdrop with
    | mk htop hcheck hbad =>
      simp only at ih
      rw [ih]
      rfl

theorem drops_closed {s s' : Pool C × W} (h : ReflTransGen (Drop d) s s') :
    s'.1.closed = s.1.closed := congrArg (fun q => q.closed) (drops_eq h)

theorem drops_config {s s' : Pool C × W} (h : ReflTransGen (Drop d) s s') :
    s'.1.config = s.1.config := congrArg (fun q => q.config) (drops_eq h)

theorem drops_held {s s' : Pool C × W} (h : ReflTransGen (Drop d) s s') :
    s'.1.held = s.1.held := congrArg (fun q => q.held) (drops_eq h)

theorem drops_nextKey {s s' : Pool C × W} (h : ReflTransGen (Drop d) s s') :
    s'.1.nextKey = s.1.nextKey := congrArg (fun q => q.nextKey) (drops_eq h)

/-- **Where the search stops.** Some connections have been lost; the stack is empty, or
the connection on top of it has passed the check and is taken. -/
theorem reuse_drops (d : Driver W C ε) (p : Pool C) (w : W) :
    ∃ q v, ReflTransGen (Drop d) (p, w) (q, v) ∧
      ((q.idle = [] ∧ p.reuse d w = (none, q, v)) ∨
        ∃ h rest outcome w', q.idle = h :: rest ∧ d.recycle h.conn v = (outcome, w') ∧
          outcome.isReusable = true ∧ p.reuse d w = (some h, q.unstack h rest, w')) := by
  -- the search goes down the stack as it finds it, and takes it off the pool as it goes
  obtain ⟨stack, hstack⟩ : ∃ stack, p.idle = stack := ⟨_, rfl⟩
  rw [reuse, hstack]
  induction stack generalizing p w with
  | nil => exact ⟨p, w, .refl, Or.inl ⟨hstack, rfl⟩⟩
  | cons h rest ih =>
    obtain ⟨outcome, w', hcheck⟩ : ∃ outcome w', d.recycle h.conn w = (outcome, w') :=
      ⟨_, _, rfl⟩
    cases hgood : outcome.isReusable with
    | true =>
      refine ⟨p, w, .refl, Or.inr ⟨h, rest, outcome, w', hstack, hcheck, hgood, ?_⟩⟩
      simp only [reuseFrom, hcheck, hgood, if_true]
    | false =>
      obtain ⟨q, v, hdrops, hend⟩ := ih (p.unstack h rest) w' rfl
      refine ⟨q, v, .head (.mk hstack hcheck hgood) hdrops, ?_⟩
      simpa only [reuseFrom, hcheck, hgood, Bool.false_eq_true, if_false] using hend

/-! ### Acquiring -/

/-- **The six ways an acquire ends**: the answer, the pool and the world after it. -/
inductive Acquired (d : Driver W C ε) (key : Option Key) (p : Pool C) (w : W) :
    Except (Refusal ε) (Handle C) × Pool C × W → Prop
  /-- The pool is closed. -/
  | closed (hclosed : p.closed = true) : Acquired d key p w (.error .closed, p, w)
  /-- The key is served already. -/
  | served {h : Handle C} (hopen : p.closed = false) (hheld : key.bind p.held.get? = some h) :
      Acquired d key p w (.ok h, p, w)
  /-- An idle connection is handed out. -/
  | reused {q : Pool C} {v w' : W} {h : Handle C} {rest : List (Handle C)}
      {outcome : RecycleOutcome} (hopen : p.closed = false)
      (hfree : key.bind p.held.get? = none) (hdrops : ReflTransGen (Drop d) (p, w) (q, v))
      (htop : q.idle = h :: rest) (hcheck : d.recycle h.conn v = (outcome, w'))
      (hgood : outcome.isReusable = true) :
      Acquired d key p w (.ok h, (q.unstack h rest).checkOut key h, w')
  /-- No idle connection is left, and the capacity is reached. -/
  | exhausted {q : Pool C} {v : W} (hopen : p.closed = false)
      (hfree : key.bind p.held.get? = none) (hdrops : ReflTransGen (Drop d) (p, w) (q, v))
      (hempty : q.idle = []) (hfull : p.config.capacity ≤ p.held.size) :
      Acquired d key p w (.error (.exhausted p.config.maxConnections), q, v)
  /-- No idle connection is left, and none can be opened. -/
  | failed {q : Pool C} {v w' : W} {e : ε} (hopen : p.closed = false)
      (hfree : key.bind p.held.get? = none) (hdrops : ReflTransGen (Drop d) (p, w) (q, v))
      (hempty : q.idle = []) (hroom : p.held.size < p.config.capacity)
      (hconnect : d.connect v = (.error e, w')) :
      Acquired d key p w (.error (.factory e), q, w')
  /-- A connection opened for the purpose is handed out. -/
  | opened {q : Pool C} {v w₁ w₂ : W} {conn : C} {now : Instant} (hopen : p.closed = false)
      (hfree : key.bind p.held.get? = none) (hdrops : ReflTransGen (Drop d) (p, w) (q, v))
      (hempty : q.idle = []) (hroom : p.held.size < p.config.capacity)
      (hconnect : d.connect v = (.ok conn, w₁)) (hnow : d.now w₁ = (now, w₂)) :
      Acquired d key p w
        (.ok ⟨q.nextId, conn, now⟩, q.number.checkOut key ⟨q.nextId, conn, now⟩, w₂)

/-- **An acquire ends in one of the six ways.** -/
theorem acquired (d : Driver W C ε) (key : Option Key) (p : Pool C) (w : W) :
    Acquired d key p w (p.acquire d key w) := by
  rw [acquire]
  cases hclosed : p.closed with
  | true => exact .closed hclosed
  | false =>
    rw [if_neg (by simp)]
    cases hheld : key.bind p.held.get? with
    | some h => exact .served hclosed hheld
    | none =>
      obtain ⟨q, v, hdrops, ⟨hempty, hreuse⟩ | ⟨h, rest, outcome, w', htop, hcheck, hgood,
        hreuse⟩⟩ := reuse_drops d p w
      · -- the capacity is looked at after the search, which has not touched what counts
        have hheld' : q.held = p.held := drops_held hdrops
        have hconfig : q.config = p.config := drops_config hdrops
        simp only [hreuse]
        by_cases hfull : q.config.capacity ≤ q.held.size
        · rw [if_pos hfull, hconfig]
          exact .exhausted hclosed hheld hdrops hempty (by rwa [hconfig, hheld'] at hfull)
        · rw [if_neg hfull]
          have hroom : p.held.size < p.config.capacity := by
            rw [hconfig, hheld'] at hfull
            omega
          cases hconnect : d.connect v with
          | mk result w₁ =>
            cases result with
            | error e =>
              simp only [connect, hconnect]
              exact .failed hclosed hheld hdrops hempty hroom hconnect
            | ok conn =>
              simp only [connect, hconnect]
              exact .opened hclosed hheld hdrops hempty hroom hconnect rfl
      · simp only [hreuse]
        exact .reused hclosed hheld hdrops htop hcheck hgood

/-! ### Releasing -/

/-- **The three things that become of a connection that has come back.** -/
inductive Disposed (d : Driver W C ε) (h : Handle C) (force : Bool) :
    Pool C × W → Pool C × W → Prop
  /-- It is closed unseen. -/
  | letGo {p : Pool C} {w : W} (hunwanted : (force || p.closed || p.hasSurplus) = true) :
      Disposed d h force (p, w) (p, letGo d h w)
  /-- It fails the recycle check. -/
  | rejected {p : Pool C} {w w' : W} {outcome : RecycleOutcome}
      (hwanted : (force || p.closed || p.hasSurplus) = false)
      (hcheck : d.recycle h.conn w = (outcome, w')) (hbad : outcome.isReusable = false) :
      Disposed d h force (p, w) (p, w')
  /-- It is put on the idle stack. -/
  | shelved {p : Pool C} {w w₁ w₂ : W} {outcome : RecycleOutcome} {now : Instant}
      (hwanted : (force || p.closed || p.hasSurplus) = false)
      (hcheck : d.recycle h.conn w = (outcome, w₁)) (hgood : outcome.isReusable = true)
      (hnow : d.now w₁ = (now, w₂)) :
      Disposed d h force (p, w) (p.stack h now, w₂)

theorem disposed (d : Driver W C ε) (h : Handle C) (force : Bool) (p : Pool C) (w : W) :
    Disposed d h force (p, w) (p.dispose d h force w) := by
  rw [dispose]
  cases hunwanted : (force || p.closed || p.hasSurplus) with
  | true => exact .letGo hunwanted
  | false =>
    rw [if_neg (by simp)]
    obtain ⟨outcome, w₁, hcheck⟩ : ∃ outcome w₁, d.recycle h.conn w = (outcome, w₁) :=
      ⟨_, _, rfl⟩
    cases hgood : outcome.isReusable with
    | true =>
      simp only [shelveIfUsable, shelve, hcheck, hgood, if_true]
      exact .shelved hunwanted hcheck hgood rfl
    | false =>
      simp only [shelveIfUsable, hcheck, hgood, Bool.false_eq_true, if_false]
      exact .rejected hunwanted hcheck hgood

/-- Whatever becomes of the connection, a closed pool stays closed and an open one
open. -/
theorem Disposed.closed_eq {h : Handle C} {force : Bool} {s s' : Pool C × W}
    (hs : Disposed d h force s s') : s'.1.closed = s.1.closed := by
  cases hs <;> rfl

/-- Releases end no checkout but the one they name. -/
theorem Disposed.held_eq {h : Handle C} {force : Bool} {s s' : Pool C × W}
    (hs : Disposed d h force s s') : s'.1.held = s.1.held := by
  cases hs <;> rfl

variable [DecidableEq C]

/-- **The ways a release ends**: without effect, or with the end of a checkout – and
then, on an open pool, with a refill. -/
inductive Released (d : Driver W C ε) (h : Handle C) (key : Option Key) (force : Bool)
    (p : Pool C) (w : W) : Except (Refusal ε) Unit × Pool C × W → Prop
  /-- The connection is not checked out under that key. -/
  | unknown (hnone : p.checkout? h key = none) :
      Released d h key force p w (if p.closed then .ok () else .error .unknownHandle, p, w)
  /-- The checkout ends, on a closed pool. -/
  | late {k : Key} {s : Pool C × W} (hk : p.checkout? h key = some k)
      (hs : Disposed d h force (p.checkIn k h, w) s) (hclosed : p.closed = true) :
      Released d h key force p w (.ok (), s)
  /-- The checkout ends, on an open pool. -/
  | ended {k : Key} {s : Pool C × W} (hk : p.checkout? h key = some k)
      (hs : Disposed d h force (p.checkIn k h, w) s) (hopen : p.closed = false) :
      Released d h key force p w (.ok (), s.1.refill d s.2)

theorem released (d : Driver W C ε) (h : Handle C) (key : Option Key) (force : Bool)
    (p : Pool C) (w : W) : Released d h key force p w (p.release d h key force w) := by
  rw [release]
  cases hk : p.checkout? h key with
  | none => exact .unknown hk
  | some k =>
    obtain ⟨q, v, hq⟩ : ∃ q v, (p.checkIn k h).dispose d h force w = (q, v) := ⟨_, _, rfl⟩
    -- whether to refill is asked of the pool afterwards, but that is as closed as before
    have hs := disposed d h force (p.checkIn k h) w
    rw [hq] at hs
    have hclosed : q.closed = p.closed := hs.closed_eq
    simp only [hq]
    cases hp : p.closed with
    | true =>
      rw [if_pos (hclosed.trans hp)]
      exact .late hk hs hp
    | false =>
      rw [if_neg (by rw [hclosed, hp]; simp)]
      exact .ended hk hs hp

end Pool

end ConnPool
