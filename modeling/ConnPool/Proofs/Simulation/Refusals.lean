import ConnPool.Proofs.Pool.Refilling
import ConnPool.Proofs.Simulation.Accounts
import ConnPool.Proofs.Simulation.Faultless

/-!
# The budget of refusals

A backend that has been told to refuse the next attempts to open a connection does so until its
**budget** is spent. It may also be told to refuse every attempt. While it does, attempts are
**barred**, and a barred attempt costs nothing; the others are **admitted**, and each of them takes
one from the budget as long as there is one to take. So it does not matter who makes the attempts
and when they are barred: as many of the admitted ones are refused as the budget says, and they are
the first (`ConnPool.World.spent_replay`).

A pool that is built opens connections up to its floor, and stops at the first refusal. So it takes
one from the budget if there is one (`ConnPool.World.build_of_budget`), and opens all that it wants
to have if there is none (`ConnPool.World.build_of_accepts`).
-/

namespace ConnPool

namespace World

variable {w w' : World} {b n : Nat} {acts : List Act} {x : Scene}

/-! ### One attempt -/

namespace Scene

/-- The answer to an attempt that is made while every attempt is refused. -/
def barred? (b : Nat) (x : Scene) : Option (Except Fault SimId) :=
  if (x.world.backend b).refuseAll then x.answer? b else none

/-- The answer to an attempt that is made while not every attempt is refused. -/
def admitted? (b : Nat) (x : Scene) : Option (Except Fault SimId) :=
  if (x.world.backend b).refuseAll then none else x.answer? b

end Scene

/-- The number of refusals to come. -/
def budget (b : Nat) (w : World) : Nat := (w.backend b).refusals

/-- Only an attempt at a backend, or an order, changes its budget. -/
theorem budget_after_of_no_answer (hx : ∀ m, x.act ≠ .instruct b (.refuseNext m))
    (hanswer : x.answer? b = none) : x.after.budget b = x.world.budget b := by
  obtain ⟨w, a⟩ := x
  cases a with
  | connect a =>
    have hab : b ≠ a := by
      rintro rfl
      rw [Scene.answer?_connect_self] at hanswer
      cases hanswer
    show ((w.connect a).2.backend b).refusals = (w.backend b).refusals
    rw [backend_connect, if_neg hab]
  | close c =>
    show ((w.close c).2.backend b).refusals = (w.backend b).refusals
    rcases close_cases w c with ⟨_, hw⟩ | ⟨k, _, _, hw⟩ <;> rw [hw]
    exact read_updateBackend Backend.refusals _ k.backend b fun _ => rfl
  | rollback c =>
    show ((w.rollback c).2.backend b).refusals = (w.backend b).refusals
    rcases rollback_cases w c with hw | ⟨_, y, hw⟩ <;> rw [hw]
    exact read_updateBackend Backend.refusals _ y b fun _ => rfl
  | read clock => cases clock <;> rfl
  | advance span => rfl
  | mention a => exact congrArg Backend.refusals (backend_mention w a b)
  | adjust c f hf => rfl
  | instruct a order =>
    show ((w.updateBackend a order.apply).backend b).refusals = (w.backend b).refusals
    rw [backend_updateBackend]
    split
    · rename_i hb
      subst hb
      cases order with
      | refuseNext m => exact absurd rfl (hx m)
      | _ => rfl
    · rfl

/-- An attempt is what its backend makes of it. -/
theorem attempt_of_answer {answer : Except Fault SimId} (hanswer : x.answer? b = some answer) :
    answer.isOk = (x.world.backend b).attempt.1.isOk ∧
      x.after.backend b = (x.world.backend b).attempt.2 := by
  obtain ⟨w, a⟩ := x
  cases a with
  | connect a =>
    by_cases hab : a = b
    · subst hab
      obtain rfl : (w.connect a).1 = answer := by
        rw [Scene.answer?_connect_self] at hanswer
        exact Option.some.inj hanswer
      refine ⟨?_, (backend_connect w a a).trans (if_pos rfl)⟩
      show (w.connect a).1.isOk = (w.backend a).attempt.1.isOk
      cases hattempt : (w.backend a).attempt.1 with
      | error e => rw [(connect_of_error hattempt).1]
      | ok serial =>
        rw [(connect_of_ok hattempt).1]
        rfl
    · rw [Scene.answer?_connect_of_ne hab] at hanswer
      cases hanswer
  | _ => cases hanswer

/-- **A barred attempt is refused**, opens nothing and costs nothing. -/
theorem refused_of_barred {answer : Except Fault SimId} (h : x.barred? b = some answer) :
    answer.isOk = false ∧ (x.after.backend b).opened = (x.world.backend b).opened ∧
      x.after.budget b = x.world.budget b := by
  rw [Scene.barred?] at h
  split at h
  · rename_i hall
    obtain ⟨hresult, hbackend⟩ := attempt_of_answer h
    rw [hresult, budget, budget, hbackend, Backend.attempt, if_pos hall]
    exact ⟨rfl, rfl, rfl⟩
  · cases h

/-- **An admitted attempt** is refused if there is a budget, and takes one from it. -/
theorem answer_of_admitted {answer : Except Fault SimId} (h : x.admitted? b = some answer) :
    answer.isOk = decide (x.world.budget b = 0) ∧ x.after.budget b = x.world.budget b - 1 := by
  rw [Scene.admitted?] at h
  split at h
  · cases h
  · rename_i hnotall
    obtain ⟨hresult, hbackend⟩ := attempt_of_answer h
    rw [hresult, budget, budget, hbackend, Backend.attempt, if_neg hnotall]
    by_cases hnone : (x.world.backend b).refusals = 0
    · rw [if_pos hnone, decide_eq_true hnone]
      refine ⟨rfl, ?_⟩
      show (x.world.backend b).refusals = (x.world.backend b).refusals - 1
      rw [hnone]
    · rw [if_neg hnone, decide_eq_false hnone]
      exact ⟨rfl, rfl⟩

/-- All else leaves the budget alone. -/
theorem budget_after_of_not_admitted (hx : ∀ m, x.act ≠ .instruct b (.refuseNext m))
    (h : x.admitted? b = none) : x.after.budget b = x.world.budget b := by
  cases hanswer : x.answer? b with
  | none => exact budget_after_of_no_answer hx hanswer
  | some answer =>
    have hbarred : x.barred? b = some answer := by
      rw [Scene.barred?]
      rw [Scene.admitted?] at h
      split
      · exact hanswer
      · rename_i hnotall
        rw [if_neg hnotall, hanswer] at h
        cases h
    exact (refused_of_barred hbarred).2.2

/-! ### All attempts -/

/-- **A budget is spent**, scene by scene. -/
structure Spent (b n : Nat) (xs : List Scene) (w : World) : Prop where
  /-- A barred attempt is refused, opens nothing and costs nothing. -/
  barred : ∀ x ∈ xs, ∀ answer, x.barred? b = some answer →
    answer.isOk = false ∧ (x.after.backend b).opened = (x.world.backend b).opened ∧
      x.after.budget b = x.world.budget b
  /-- Of the admitted attempts the first are refused, as many as the budget says, and all others
  succeed. -/
  admitted : ∀ i answer, (xs.filterMap (Scene.admitted? b))[i]? = some answer →
    (answer.isOk = true ↔ n ≤ i)
  /-- What has been refused has been taken from the budget. -/
  spent : w.budget b + (xs.filterMap (Scene.admitted? b)).countP (fun answer => !answer.isOk) = n
  /-- What is left is what the attempts have left. -/
  left : w.budget b = n - (xs.filterMap (Scene.admitted? b)).length

theorem spent_nil (b : Nat) (w : World) : Spent b (w.budget b) [] w where
  barred _ hx := by cases hx
  admitted _ _ h := by cases h
  spent := rfl
  left := rfl

variable {xs : List Scene}

/-- A scene in which no attempt is admitted spends nothing. -/
theorem Spent.cons_of_not_admitted (hx : x.admitted? b = none) (h : Spent b n xs w) :
    Spent b n (x :: xs) w := by
  have hanswers : (x :: xs).filterMap (Scene.admitted? b) = xs.filterMap (Scene.admitted? b) :=
    List.filterMap_cons_none hx
  refine ⟨fun _ _ _ => refused_of_barred, ?_, ?_, ?_⟩ <;> rw [hanswers]
  · exact h.admitted
  · exact h.spent
  · exact h.left

/-- An attempt that is admitted spends one, if there is one. -/
theorem Spent.cons_of_admitted {answer : Except Fault SimId} (hx : x.admitted? b = some answer)
    (hanswer : answer.isOk = decide (n = 0)) (h : Spent b (n - 1) xs w) :
    Spent b n (x :: xs) w := by
  have hanswers : (x :: xs).filterMap (Scene.admitted? b) =
      answer :: xs.filterMap (Scene.admitted? b) := List.filterMap_cons_some hx
  refine ⟨fun _ _ _ => refused_of_barred, fun i later hlater => ?_, ?_, ?_⟩
  · rw [hanswers] at hlater
    cases i with
    | zero =>
      obtain rfl : answer = later := Option.some.inj hlater
      rw [hanswer, decide_eq_true_eq, Nat.le_zero]
    | succ i =>
      rw [h.admitted i later hlater]
      omega
  · have hrest := h.spent
    rw [hanswers, List.countP_cons, hanswer]
    by_cases hnone : n = 0
    · subst hnone
      exact hrest
    · rw [decide_eq_false hnone, Bool.not_false, if_pos rfl]
      omega
  · rw [hanswers, List.length_cons, h.left]
    omega

/-- **A budget is spent exactly**, as long as nobody sets it anew. -/
theorem spent_replay (hacts : ∀ m, .instruct b (.refuseNext m) ∉ acts) (w : World) :
    Spent b (w.budget b) (scenes acts w) (w.replay acts) := by
  induction acts generalizing w with
  | nil => exact spent_nil b w
  | cons a acts ih =>
    have hrest : Spent b ((w.act a).budget b) (scenes acts (w.act a)) ((w.act a).replay acts) :=
      ih (fun m hmem => hacts m (List.mem_cons_of_mem a hmem)) (w.act a)
    cases hfirst : Scene.admitted? b ⟨w, a⟩ with
    | none =>
      have hsame : (w.act a).budget b = w.budget b := budget_after_of_not_admitted (x := ⟨w, a⟩)
        (fun m ha => hacts m (ha ▸ List.mem_cons_self)) hfirst
      rw [hsame] at hrest
      exact hrest.cons_of_not_admitted hfirst
    | some answer =>
      obtain ⟨hanswer, hless⟩ : answer.isOk = decide (w.budget b = 0) ∧
        (w.act a).budget b = w.budget b - 1 := answer_of_admitted hfirst
      rw [hless] at hrest
      exact hrest.cons_of_admitted hfirst hanswer

/-! ### Building a pool -/

open Pool (Fills)

theorem connect_of_budget (hadmits : (w.backend b).refuseAll = false)
    (hbudget : w.budget b = n + 1) :
    w.connect b = (.error (.connectRefused ((w.backend b).attempts + 1)), w.updateBackend b fun _ =>
      { w.backend b with attempts := (w.backend b).attempts + 1, refusals := n }) := by
  have hsome : (w.backend b).refusals ≠ 0 := by
    rw [← budget, hbudget]
    exact Nat.succ_ne_zero n
  have hless : (w.backend b).refusals - 1 = n := by
    rw [← budget, hbudget, Nat.add_sub_cancel]
  simp only [connect, Backend.attempt, hadmits, hsome, hless, Bool.false_eq_true, if_false]

/-- **A pool that is built while there is a budget** makes one attempt, which is refused and takes
one from it, and opens nothing. -/
theorem build_of_budget {config : Config} (hvalid : config.Valid) (hfloor : 0 < config.floor)
    (hadmits : (w.backend b).refuseAll = false) (hbudget : w.budget b = n + 1) (clock : ClockKind) :
    Pool.build (driver b clock) config w = (.ok (Pool.fresh config), w.updateBackend b fun _ =>
        { w.backend b with attempts := (w.backend b).attempts + 1, refusals := n }) ∧
      (Pool.build (driver b clock).logged config (w, [])).2.2 =
        [.connect (.error (.connectRefused ((w.backend b).attempts + 1)))] := by
  obtain ⟨made, failure, hfills, hlog⟩ :=
    Pool.refill_attempts (driver b clock) (Pool.fresh config) w []
  obtain ⟨rfl, rfl, hend⟩ := hfills.of_error hfloor (connect_of_budget hadmits hbudget)
  rw [Pool.build_of_valid hvalid, Pool.build_of_valid hvalid, hend]
  exact ⟨rfl, hlog⟩

/-- **A backend has opened some connections**, in the condition in which it delivers them, and
nothing else has been done that it has noticed. -/
structure Delivered (b m : Nat) (w w' : World) : Prop where
  conns : w'.conns = w.conns ++ (List.range' ((w.backend b).opened + 1) m).map fun serial =>
    .born b serial (w.backend b).birth
  backend : w'.backend b =
    { w.backend b with
      attempts := (w.backend b).attempts + m
      opened := (w.backend b).opened + m }
  others : ∀ x, x ≠ b → w'.backend x = w.backend x

theorem delivered_zero (b : Nat) (w : World) : Delivered b 0 w w where
  conns := (List.append_nil _).symm
  backend := rfl
  others _ _ := rfl

/-- One connection, and then the others. -/
theorem Delivered.succ {m : Nat} {v : World} (hw : (w.backend b).Accepts)
    (hbackend : ∀ x, v.backend x = (w.connect b).2.backend x)
    (hconns : v.conns = (w.connect b).2.conns) (h : Delivered b m v w') :
    Delivered b (m + 1) w w' := by
  have hattempt := hw.attempt
  have hown : v.backend b =
      { w.backend b with
        attempts := (w.backend b).attempts + 1
        opened := (w.backend b).opened + 1 } := by
    rw [hbackend, backend_connect, if_pos rfl, hattempt]
  obtain ⟨_, hgrown⟩ := connect_of_ok (congrArg Prod.fst hattempt)
  rw [hattempt] at hgrown
  constructor
  · rw [h.conns, hconns, hgrown, hown, List.range'_succ, List.map_cons, List.append_assoc]
    rfl
  · rw [h.backend, hown]
    simp only [Nat.add_assoc, Nat.add_comm 1]
  · intro x hx
    rw [h.others x hx, hbackend, backend_connect, if_neg hx]

/-- Reading a clock leaves backends and connections alone. -/
theorem frame_now {clock : ClockKind} {reading : Instant} (h : w.now clock = (reading, w')) :
    (∀ x, w'.backend x = w.backend x) ∧ w'.conns = w.conns := by
  cases clock <;> cases h <;> exact ⟨fun _ => rfl, rfl⟩

/-- **A pool that nothing is refused** is filled up to its floor. -/
theorem fills_of_accepts {clock : ClockKind} {s s' : Pool SimId × World}
    {made : List (Delivery SimId)} {failure : Option Fault} (hs : (s.2.backend b).Accepts)
    (h : Fills (driver b clock) s made failure s') :
    failure = none ∧ Delivered b made.length s.2 s'.2 ∧
      made.map Delivery.conn = List.range' s.2.conns.length made.length := by
  induction h with
  | full _ => exact ⟨rfl, delivered_zero b _, rfl⟩
  | @failed p w w' e _ hconnect =>
    obtain ⟨hopens, _⟩ := connect_of_ok (congrArg Prod.fst hs.attempt)
    have hrefused : (w.connect b).1 = .error e := congrArg Prod.fst hconnect
    cases hrefused.symm.trans hopens
  | @delivered p w w₁ w₂ w₃ x made failure s' _ hconnect hnow hsince _ ih =>
    obtain ⟨hopens, hgrown⟩ := connect_of_ok (congrArg Prod.fst hs.attempt)
    have hopened : (w.connect b).1 = .ok x.conn := congrArg Prod.fst hconnect
    obtain rfl : (w.connect b).2 = w₁ := congrArg Prod.snd hconnect
    -- the connection is opened, and then the clock is read twice
    obtain ⟨hbackend₂, hconns₂⟩ := frame_now hnow
    obtain ⟨hbackend₃, hconns₃⟩ := frame_now hsince
    have hbackend : ∀ x, w₃.backend x = (w.connect b).2.backend x := fun x =>
      (hbackend₃ x).trans (hbackend₂ x)
    have hconns : w₃.conns = (w.connect b).2.conns := hconns₃.trans hconns₂
    have haccepts : (w₃.backend b).Accepts := by
      rw [hbackend, backend_connect, if_pos rfl, hs.attempt]
      exact hs
    obtain ⟨hnone, hrest, hmade⟩ := ih haccepts
    refine ⟨hnone, hrest.succ hs hbackend hconns, ?_⟩
    have hconn : x.conn = w.conns.length := Except.ok.inj (hopened.symm.trans hopens)
    rw [List.map_cons, hmade, hconn, hconns, hgrown, List.length_append]
    rfl

/-- **A pool that is built while there is no budget** makes as many attempts as it has a floor, and
each of them opens a connection. -/
theorem build_of_accepts {config : Config} (hvalid : config.Valid)
    (haccepts : (w.backend b).Accepts) (clock : ClockKind) :
    ∃ p v, Pool.build (driver b clock) config w = (.ok p, v) ∧ p.size = config.floor ∧
      Delivered b config.floor w v ∧
      (Pool.build (driver b clock).logged config (w, [])).2.2 =
        (List.range' w.conns.length config.floor).map fun c => .connect (.ok c) := by
  obtain ⟨made, failure, hfills, hlog⟩ :=
    Pool.refill_attempts (driver b clock) (Pool.fresh config) w []
  obtain ⟨rfl, hdelivered, hconns⟩ := fills_of_accepts haccepts hfills
  have hlength : made.length = config.floor := by
    rcases hfills.length_made with ⟨_, hall⟩ | ⟨⟨_, hfailed⟩, _⟩
    · exact hall
    · cases hfailed
  have hsize := hfills.stocked.size_eq
  rw [hlength] at hdelivered hconns hsize
  refine ⟨_, _, Pool.build_of_valid hvalid _ w, hsize.trans (Nat.zero_add _), hdelivered, ?_⟩
  rw [Pool.build_of_valid hvalid, ← hconns, List.map_map]
  exact hlog.trans (List.append_nil _)

end World

end ConnPool
