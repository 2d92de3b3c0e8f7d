import ConnPool.Proofs.Pool.Projection
import ConnPool.Proofs.Pool.Permits

/-!
# Closing connections one after the other

Closing many connections means to ask each of them, when its turn comes, whether it is closed
already, and to close it if it is not. `ConnPool.Driver.ClosesEach` tells this turn by turn and
keeps the **closes** that have been made, with what has come of them. They are a part of the
connections in their order, they are the calls that are logged, and those that have failed are the
failures that are reported (`ConnPool.Driver.closesEach`).

A close that fails is a close like any other, and the next connection has its turn.
-/

namespace ConnPool

/-- Closes that have been made, in their order: the connection, and what has come of it. -/
abbrev Closes (C ε : Type) := List (Handle C × Except ε Unit)

namespace Closes

variable {C ε : Type}

/-- The closes that have failed, in their order. -/
def failures (closes : Closes C ε) : List (FailedClose ε) :=
  closes.filterMap fun a => match a.2 with
    | .ok _ => none
    | .error e => some ⟨a.1.id, e⟩

/-- How many closes have succeeded. -/
def closed (closes : Closes C ε) : Nat :=
  closes.countP fun a => match a.2 with
    | .ok _ => true
    | .error _ => false

/-- The calls that have been made for it. -/
def calls (closes : Closes C ε) : List (Driver.Call C ε) := closes.map fun a => .close a.1.conn a.2

end Closes

namespace Driver

variable {W C ε : Type} {d : Driver W C ε} {l : List (Handle C)} {closes closes' : Closes C ε}
  {s s' : W × List (Call C ε)} {w v v' : W}

/-- **Closing connections, turn by turn**: the connections and the world before it, the closes
that are made, and the world after it. -/
inductive ClosesEach (d : Driver W C ε) : List (Handle C) → W → Closes C ε → W → Prop
  /-- Nobody is left. -/
  | nil {w : W} : ClosesEach d [] w [] w
  /-- A connection says that it is closed already. -/
  | skip {g : Handle C} {l : List (Handle C)} {w w₁ v : W} {closes : Closes C ε}
      (hclosed : d.isClosed g.conn w = (true, w₁)) (hrest : ClosesEach d l w₁ closes v) :
      ClosesEach d (g :: l) w closes v
  /-- A connection says that it is not, and is closed. -/
  | close {g : Handle C} {l : List (Handle C)} {w w₁ w₂ v : W} {result : Except ε Unit}
      {closes : Closes C ε} (hopen : d.isClosed g.conn w = (false, w₁))
      (hclose : d.close g.conn w₁ = (result, w₂)) (hrest : ClosesEach d l w₂ closes v) :
      ClosesEach d (g :: l) w ((g, result) :: closes) v

/-- **No connection is closed out of turn**, and none has two turns. -/
theorem ClosesEach.sublist (h : d.ClosesEach l w closes v) :
    (closes.map Prod.fst).Sublist l := by
  induction h with
  | nil => exact .slnil
  | skip _ _ ih => exact ih.cons _
  | close _ _ _ ih => exact ih.cons_cons _

/-- **It is the same with a log**, and the calls that are logged are the closes. -/
theorem ClosesEach.of_logged (h : d.logged.ClosesEach l s closes s') :
    d.ClosesEach l s.1 closes s'.1 ∧ s'.2 = s.2 ++ closes.calls := by
  induction h with
  | nil => exact ⟨.nil, (List.append_nil _).symm⟩
  | skip hclosed _ ih =>
    obtain ⟨hclosed, hlog⟩ := isClosed_of_logged hclosed
    exact ⟨.skip hclosed ih.1, hlog ▸ ih.2⟩
  | close hopen hclose _ ih =>
    obtain ⟨hopen, hlog₁⟩ := isClosed_of_logged hopen
    obtain ⟨hclose, hlog₂⟩ := close_of_logged hclose
    refine ⟨.close hopen hclose ih.1, ?_⟩
    rw [ih.2, hlog₂, hlog₁, List.append_assoc]
    rfl

/-! ### What is reported -/

theorem shut_of_closed {c : C} {w₁ : W} (hclosed : d.isClosed c w = (true, w₁)) :
    d.shut c w = (.ok false, w₁) := by
  rw [shut, hclosed]

theorem shut_of_open {c : C} {w₁ w₂ : W} {result : Except ε Unit}
    (hopen : d.isClosed c w = (false, w₁)) (hclose : d.close c w₁ = (result, w₂)) :
    d.shut c w = (result.map fun _ => true, w₂) := by
  simp only [shut, hopen, hclose]
  cases result <;> rfl

/-- **What is reported of closing connections** can be read off their turns. -/
theorem ClosesEach.closeEach (h : d.ClosesEach l w closes v) :
    (d.closeEach l w).2 = v ∧ (d.closeEach l w).1.closed = closes.closed ∧
      (d.closeEach l w).1.failures = closes.failures := by
  induction h with
  | nil => exact ⟨rfl, rfl, rfl⟩
  | skip hclosed _ ih =>
    rw [Driver.closeEach, shut_of_closed hclosed]
    exact ih
  | @close _ _ _ _ _ _ result _ hopen hclose _ ih =>
    obtain ⟨hworld, hcount, hfailures⟩ := ih
    rw [Driver.closeEach, shut_of_open hopen hclose]
    cases result with
    | ok _ =>
      refine ⟨hworld, ?_, hfailures⟩
      exact (List.countP_cons_of_pos rfl).trans ((congrArg (· + 1) hcount).trans
        (List.countP_cons_of_pos rfl).symm)
    | error e => exact ⟨hworld, hcount, congrArg (_ :: ·) hfailures⟩

/-- Every turn leaves no choice. -/
theorem ClosesEach.unique (h : d.ClosesEach l w closes v) (h' : d.ClosesEach l w closes' v') :
    closes = closes' := by
  induction h generalizing closes' with
  | nil =>
    cases h'
    rfl
  | skip hclosed _ ih =>
    cases h' with
    | skip hclosed' hrest =>
      cases hclosed.symm.trans hclosed'
      exact ih hrest
    | close hopen _ _ => cases hclosed.symm.trans hopen
  | close hopen hclose _ ih =>
    cases h' with
    | skip hclosed _ => cases hopen.symm.trans hclosed
    | close hopen' hclose' hrest =>
      cases hopen.symm.trans hopen'
      cases hclose.symm.trans hclose'
      rw [ih hrest]

/-- Everybody has a turn. -/
theorem exists_closesEach (d : Driver W C ε) (l : List (Handle C)) (w : W) :
    ∃ closes v, d.ClosesEach l w closes v := by
  induction l generalizing w with
  | nil => exact ⟨[], w, .nil⟩
  | cons g l ih =>
    obtain ⟨answer, w₁, hanswer⟩ : ∃ answer w₁, d.isClosed g.conn w = (answer, w₁) := ⟨_, _, rfl⟩
    cases answer with
    | true =>
      obtain ⟨closes, v, hrest⟩ := ih w₁
      exact ⟨closes, v, .skip hanswer hrest⟩
    | false =>
      obtain ⟨result, w₂, hclose⟩ : ∃ result w₂, d.close g.conn w₁ = (result, w₂) := ⟨_, _, rfl⟩
      obtain ⟨closes, v, hrest⟩ := ih w₂
      exact ⟨(g, result) :: closes, v, .close hanswer hclose hrest⟩

/-- **Closing connections goes turn by turn.** The failures that are reported are the closes that
have failed, and the calls that are logged are all of them. -/
theorem closesEach (d : Driver W C ε) (l : List (Handle C)) (w : W) (log : List (Call C ε)) :
    ∃ closes, d.ClosesEach l w closes (d.closeEach l w).2 ∧
      (d.closeEach l w).1.failures = closes.failures ∧
      (d.logged.closeEach l (w, log)).2.2 = log ++ closes.calls := by
  obtain ⟨closes, s, hlogged⟩ := d.logged.exists_closesEach l (w, log)
  obtain ⟨heach, hlog⟩ := hlogged.of_logged
  obtain ⟨hworld, -, hfailures⟩ := heach.closeEach
  rw [hworld, hlogged.closeEach.1]
  exact ⟨closes, heach, hfailures, hlog⟩

end Driver

end ConnPool
