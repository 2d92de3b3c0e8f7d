import ConnPool.Proofs.Pool.Faultless
import ConnPool.Proofs.Pool.Permits

/-!
# Checking connections one after the other

The recycle check makes a connection fit to be used again, or gets rid of it. This file is about
what it does to the connection on the way, and about the state in which it leaves a connection
that has passed.

* Each outcome **demands** certain calls (`ConnPool.RecycleOutcome.Demands`), and the check makes
  these and no others. The same goes for a number of connections that are checked one after the
  other (`ConnPool.Driver.recycleEach_logged`). The check of one may have consequences for the
  next, so there is an order in it, and each check takes place in the world after those before.
* A connection is **ready** if it is open and idle (`ConnPool.Driver.Ready`). One that has passed
  the check need not be: a rollback may report success without having done anything. What has to
  be assumed is `ConnPool.Driver.Restores`, and then it is (`ConnPool.Driver.Restores.recycle`).
-/

namespace ConnPool

open Driver (Call Lasts)

variable {W C ε : Type} {d : Driver W C ε}

/-! ### What a check demands -/

/-- **The calls an outcome demands.** A connection that is closed, or that is idle, is left
alone; one in an unknown state is closed; any other is rolled back, and closed if that fails. -/
inductive RecycleOutcome.Demands (c : C) : RecycleOutcome → List (Call C ε) → Prop
  | alreadyClosed : Demands c .alreadyClosed []
  | reusable : Demands c .reusable []
  | statusUnknown (result : Except ε Unit) : Demands c .statusUnknown [.close c result]
  | rolledBack : Demands c .rolledBack [.rollback c (.ok ())]
  | rollbackFailed (e : ε) (result : Except ε Unit) :
      Demands c .rollbackFailed [.rollback c (.error e), .close c result]

/-- **The calls that checks demand** which are made one after the other. -/
inductive DemandEach : List (Handle C) → List RecycleOutcome → List (Call C ε) → Prop
  /-- No check demands nothing. -/
  | nil : DemandEach [] [] []
  /-- What the first check demands comes before what the others do. -/
  | cons {h : Handle C} {rest : List (Handle C)} {outcome : RecycleOutcome}
      {outcomes : List RecycleOutcome} {calls calls' : List (Call C ε)}
      (hfirst : outcome.Demands h.conn calls) (hrest : DemandEach rest outcomes calls') :
      DemandEach (h :: rest) (outcome :: outcomes) (calls ++ calls')

/-- No other connection is touched by what is demanded, -/
theorem RecycleOutcome.Demands.touches {c : C} {outcome : RecycleOutcome}
    {calls : List (Call C ε)} (h : outcome.Demands c calls) : ∀ call ∈ calls, call.Touches c := by
  cases h with
  | alreadyClosed => exact fun _ hcall => absurd hcall List.not_mem_nil
  | reusable => exact fun _ hcall => absurd hcall List.not_mem_nil
  | statusUnknown _ => exact List.forall_mem_singleton.mpr (.close _ _)
  | rolledBack => exact List.forall_mem_singleton.mpr (.rollback _ _)
  | rollbackFailed _ _ =>
    exact List.forall_mem_cons.mpr ⟨.rollback _ _, List.forall_mem_singleton.mpr (.close _ _)⟩

/-- also if many are checked. -/
theorem DemandEach.touches {l : List (Handle C)} {outcomes : List RecycleOutcome}
    {calls : List (Call C ε)} (h : DemandEach l outcomes calls) :
    ∀ call ∈ calls, ∃ g ∈ l, call.Touches g.conn := by
  induction h with
  | nil => exact fun _ hcall => absurd hcall List.not_mem_nil
  | @cons g _ _ _ _ _ hfirst _ ih =>
    refine List.forall_mem_append.mpr ⟨fun call hcall => ?_, fun call hcall => ?_⟩
    · exact ⟨g, List.mem_cons_self, hfirst.touches call hcall⟩
    · obtain ⟨f, hf, htouches⟩ := ih call hcall
      exact ⟨f, List.mem_cons_of_mem _ hf, htouches⟩

namespace Driver

section Log

variable {c : C} {s s' : W × List (Call C ε)}

/-- Asking whether a connection is closed is not logged. -/
theorem log_isClosed {answer : Bool} (h : d.logged.isClosed c s = (answer, s')) : s'.2 = s.2 := by
  cases h
  rfl

/-- Asking for its status is not logged either. -/
theorem log_status {answer : TxStatus} (h : d.logged.status c s = (answer, s')) :
    s'.2 = s.2 := by
  cases h
  rfl

theorem log_close {result : Except ε Unit} (h : d.logged.close c s = (result, s')) :
    s'.2 = s.2 ++ [.close c result] := by
  cases h
  rfl

theorem log_rollback {result : Except ε Unit} (h : d.logged.rollback c s = (result, s')) :
    s'.2 = s.2 ++ [.rollback c result] := by
  cases h
  rfl

/-- **The check makes the calls its outcome demands**, and no others. -/
theorem demands_recycle {outcome : RecycleOutcome} (h : d.logged.recycle c s = (outcome, s')) :
    ∃ calls, outcome.Demands c calls ∧ s'.2 = s.2 ++ calls := by
  have hend := recycled d.logged c s
  rw [h] at hend
  cases hend with
  | alreadyClosed hclosed =>
    refine ⟨[], .alreadyClosed, ?_⟩
    rw [log_isClosed hclosed, List.append_nil]
  | reusable hclosed hstatus =>
    refine ⟨[], .reusable, ?_⟩
    rw [log_status hstatus, log_isClosed hclosed, List.append_nil]
  | @statusUnknown _ _ _ result hclosed hstatus hclose =>
    refine ⟨_, .statusUnknown result, ?_⟩
    rw [log_close hclose, log_status hstatus, log_isClosed hclosed]
  | rolledBack hclosed hstatus _ _ hrollback =>
    refine ⟨_, .rolledBack, ?_⟩
    rw [log_rollback hrollback, log_status hstatus, log_isClosed hclosed]
  | @rollbackFailed _ _ _ _ _ e result hclosed hstatus _ _ hrollback hclose =>
    refine ⟨_, .rollbackFailed e result, ?_⟩
    rw [log_close hclose, log_rollback hrollback, log_status hstatus, log_isClosed hclosed,
      List.append_assoc, List.singleton_append]

end Log

section Passing

variable {c : C} {w : W}

/-! ### Passing the check -/

/-- **Which connections pass the check**: those that are open and whose status is known, if it is
idle or else the rollback succeeds. -/
theorem isReusable_recycle {w₁ w₂ : W} {status : TxStatus} (hopen : d.isClosed c w = (false, w₁))
    (hstatus : d.status c w₁ = (status, w₂)) (hknown : status ≠ .unknown)
    (hrollback : status ≠ .idle → (d.rollback c w₂).1 = .ok ()) :
    (d.recycle c w).1.isReusable = true := by
  have hend := recycled d c w
  generalize d.recycle c w = result at hend ⊢
  rcases hend with hclosed | _ | ⟨hopen', hstatus', _⟩ | _ | ⟨hopen', hstatus', hidle, _, hfails, _⟩
  · cases hopen.symm.trans hclosed
  · rfl
  · cases hopen.symm.trans hopen'
    cases hstatus.symm.trans hstatus'
    exact absurd rfl hknown
  · rfl
  · cases hopen.symm.trans hopen'
    cases hstatus.symm.trans hstatus'
    cases (hrollback hidle).symm.trans (congrArg Prod.fst hfails)

/-- A connection that passes is open. -/
theorem isClosed_of_isReusable (hgood : (d.recycle c w).1.isReusable = true) :
    (d.isClosed c w).1 = false := by
  have hend := recycled d c w
  generalize d.recycle c w = result at hend hgood
  rcases hend with _ | ⟨hopen, _⟩ | _ | ⟨hopen, _⟩ | _
  · cases hgood
  · rw [hopen]
  · cases hgood
  · rw [hopen]
  · cases hgood

/-- A connection that passes is rolled back, if anything is done to it at all. -/
theorem calls_of_isReusable (hgood : (d.recycle c w).1.isReusable = true) :
    (d.logged.recycle c (w, [])).1.isReusable = true ∧
      ∀ call ∈ (d.logged.recycle c (w, [])).2.2, call = .rollback c (.ok ()) := by
  rw [d.projects_logged.recycle c (w, [])] at hgood
  obtain ⟨outcome, s, hcheck⟩ : ∃ outcome s, d.logged.recycle c (w, []) = (outcome, s) :=
    ⟨_, _, rfl⟩
  obtain ⟨calls, hdemands, hlog⟩ := demands_recycle hcheck
  rw [hcheck] at hgood ⊢
  refine ⟨hgood, fun call hcall => ?_⟩
  rw [hlog, List.nil_append] at hcall
  cases hdemands with
  | alreadyClosed => cases hgood
  | reusable => cases hcall
  | statusUnknown _ => cases hgood
  | rolledBack => exact List.mem_singleton.mp hcall
  | rollbackFailed _ _ => cases hgood

end Passing

/-! ### One check after the other -/

/-- Checks connections one after the other. -/
def recycleEach (d : Driver W C ε) : List (Handle C) → W → List RecycleOutcome × W
  | [], w => ([], w)
  | h :: rest, w =>
    match d.recycle h.conn w with
    | (outcome, w) =>
      match d.recycleEach rest w with
      | (outcomes, w) => (outcome :: outcomes, w)

/-- **None of some connections passes the check**, one after the other. -/
def NonePasses (d : Driver W C ε) (l : List (Handle C)) (w : W) : Prop :=
  ∀ outcome ∈ (d.recycleEach l w).1, outcome.isReusable = false

/-- A connection passes the check after some others have been checked. -/
def PassesAfter (d : Driver W C ε) (l : List (Handle C)) (g : Handle C) (w : W) : Prop :=
  (d.recycle g.conn (d.recycleEach l w).2).1.isReusable = true

@[simp] theorem recycleEach_nil (d : Driver W C ε) (w : W) : d.recycleEach [] w = ([], w) := rfl

@[simp] theorem recycleEach_cons (d : Driver W C ε) (h : Handle C) (l : List (Handle C)) (w : W) :
    d.recycleEach (h :: l) w =
      ((d.recycle h.conn w).1 :: (d.recycleEach l (d.recycle h.conn w).2).1,
        (d.recycleEach l (d.recycle h.conn w).2).2) := rfl

/-- Checking one more connection is checking it in the world after the others. -/
theorem recycleEach_concat (d : Driver W C ε) (l : List (Handle C)) (g : Handle C) (w : W) :
    (d.recycleEach (l ++ [g]) w).2 = (d.recycle g.conn (d.recycleEach l w).2).2 := by
  induction l generalizing w with
  | nil => rfl
  | cons h l ih => exact ih _

theorem nonePasses_nil (d : Driver W C ε) (w : W) : d.NonePasses [] w :=
  fun _ h => absurd h List.not_mem_nil

theorem nonePasses_cons_iff {h : Handle C} {l : List (Handle C)} {w : W} :
    d.NonePasses (h :: l) w ↔
      (d.recycle h.conn w).1.isReusable = false ∧ d.NonePasses l (d.recycle h.conn w).2 := by
  rw [NonePasses, recycleEach_cons, List.forall_mem_cons]
  rfl

/-- **Some connection is the first to pass, or none passes.** -/
theorem first_or_none (d : Driver W C ε) (l : List (Handle C)) (w : W) :
    (∃ above g below, l = above ++ g :: below ∧ d.NonePasses above w ∧ d.PassesAfter above g w) ∨
      d.NonePasses l w := by
  induction l generalizing w with
  | nil => exact Or.inr (nonePasses_nil d w)
  | cons h l ih =>
    rcases Bool.eq_false_or_eq_true (d.recycle h.conn w).1.isReusable with hgood | hbad
    · exact Or.inl ⟨[], h, l, rfl, nonePasses_nil d w, hgood⟩
    · rcases ih (d.recycle h.conn w).2 with ⟨above, g, below, rfl, hnone, hpass⟩ | hnone
      · exact Or.inl ⟨h :: above, g, below, rfl, nonePasses_cons_iff.mpr ⟨hbad, hnone⟩, hpass⟩
      · exact Or.inr (nonePasses_cons_iff.mpr ⟨hbad, hnone⟩)

/-- **With a log the outcomes are the same**, and the calls that are logged are those the
outcomes demand. -/
theorem recycleEach_logged (d : Driver W C ε) (l : List (Handle C)) (s : W × List (Call C ε)) :
    ∃ calls, DemandEach l (d.recycleEach l s.1).1 calls ∧
      d.logged.recycleEach l s =
        ((d.recycleEach l s.1).1, (d.recycleEach l s.1).2, s.2 ++ calls) := by
  induction l generalizing s with
  | nil => exact ⟨[], .nil, by rw [List.append_nil]; rfl⟩
  | cons h l ih =>
    obtain ⟨outcome, t, hcheck⟩ : ∃ outcome t, d.logged.recycle h.conn s = (outcome, t) :=
      ⟨_, _, rfl⟩
    have hsame : d.recycle h.conn s.1 = (outcome, t.1) := by
      rw [d.projects_logged.recycle, hcheck]
      rfl
    obtain ⟨calls, hcalls, hlog⟩ := demands_recycle hcheck
    obtain ⟨calls', hcalls', hrest⟩ := ih t
    refine ⟨calls ++ calls', ?_, ?_⟩
    · rw [recycleEach_cons, hsame]
      exact .cons hcalls hcalls'
    · rw [recycleEach_cons, recycleEach_cons, hcheck, hsame, hrest, hlog, List.append_assoc]

/-- Whether any passes does not depend on the log. -/
theorem nonePasses_logged (d : Driver W C ε) {l : List (Handle C)} {s : W × List (Call C ε)} :
    d.logged.NonePasses l s ↔ d.NonePasses l s.1 := by
  obtain ⟨_, _, hsame⟩ := d.recycleEach_logged l s
  rw [NonePasses, NonePasses, hsame]

theorem passesAfter_logged (d : Driver W C ε) {l : List (Handle C)} {g : Handle C}
    {s : W × List (Call C ε)} : d.logged.PassesAfter l g s ↔ d.PassesAfter l g s.1 := by
  obtain ⟨_, _, hsame⟩ := d.recycleEach_logged l s
  have hcheck : ∀ t : W × List (Call C ε),
      (d.recycle g.conn t.1).1 = (d.logged.recycle g.conn t).1 :=
    fun t => congrArg Prod.fst (d.projects_logged.recycle g.conn t)
  rw [PassesAfter, PassesAfter, hsame, ← hcheck]

/-! ### Connections that are ready -/

/-- **A connection is ready**: it is open, and its transaction is idle. -/
def Ready (d : Driver W C ε) (c : C) (w : W) : Prop :=
  (d.isClosed c w).1 = false ∧ (d.status c w).1 = .idle

/-- All connections report the same in two worlds. -/
def ReportsAlike (d : Driver W C ε) (w w' : W) : Prop :=
  ∀ c, (d.isClosed c w').1 = (d.isClosed c w).1 ∧ (d.status c w').1 = (d.status c w).1

theorem ReportsAlike.ready {w w' : W} (h : d.ReportsAlike w w') {c : C} (hc : d.Ready c w) :
    d.Ready c w' :=
  ⟨(h c).1.trans hc.1, (h c).2.trans hc.2⟩

/-- **Rollbacks restore connections.** Where the factory `serves`, the connections it opens are
ready. A rollback that reports success leaves a connection idle if that is `restorable`, and
does not close it. To ask for something and to read the clock changes no report, opening a
connection makes no other one less ready, and no call spoils the factory or a connection that is
restorable. -/
structure Restores (d : Driver W C ε) (serves : W → Prop) (restorable : C → W → Prop) : Prop
    extends d.Along (Lasts serves restorable) where
  ready_of_connect : ∀ {w w' : W} {c : C}, serves w → d.connect w = (.ok c, w') → d.Ready c w'
  idle_of_rollback : ∀ {w w' : W} {c : C}, restorable c w → d.rollback c w = (.ok (), w') →
    (d.status c w').1 = .idle
  open_of_rollback : ∀ {w w' : W} {c : C}, restorable c w → (d.isClosed c w).1 = false →
    d.rollback c w = (.ok (), w') → (d.isClosed c w').1 = false
  alike_isClosed : ∀ {w w' : W} {c : C} {answer : Bool}, d.isClosed c w = (answer, w') →
    d.ReportsAlike w w'
  alike_status : ∀ {w w' : W} {c : C} {answer : TxStatus}, d.status c w = (answer, w') →
    d.ReportsAlike w w'
  alike_now : ∀ {w w' : W} {reading : Instant}, d.now w = (reading, w') → d.ReportsAlike w w'
  connect : ∀ {w w' : W} {result : Except ε C}, d.connect w = (result, w') →
    Lasts serves restorable w w'
  ready_connect : ∀ {w w' : W} {c : C} {result : Except ε C}, restorable c w → d.Ready c w →
    d.connect w = (result, w') → d.Ready c w'

/-- **A connection that has passed the check is ready.** -/
theorem Restores.recycle {serves : W → Prop} {restorable : C → W → Prop}
    (hd : d.Restores serves restorable) {c : C} {w w' : W} {outcome : RecycleOutcome}
    (hc : restorable c w) (h : d.recycle c w = (outcome, w')) (hgood : outcome.isReusable = true) :
    d.Ready c w' := by
  have hend := recycled d c w
  rw [h] at hend
  -- what the answers say of the world before them is also true of the world after them
  have hopen : ∀ {w₁ w₂ status}, d.isClosed c w = (false, w₁) → d.status c w₁ = (status, w₂) →
      (d.isClosed c w₂).1 = false := by
    intro w₁ w₂ status hclosed hstatus
    rw [(hd.alike_status hstatus c).1, (hd.alike_isClosed hclosed c).1, hclosed]
  rcases hend with _ | ⟨hclosed, hstatus⟩ | _ | ⟨hclosed, hstatus, _, _, hrollback⟩ | _
  · cases hgood
  · refine ⟨hopen hclosed hstatus, ?_⟩
    rw [(hd.alike_status hstatus c).2, hstatus]
  · cases hgood
  · have hc₂ := (hd.status hstatus).2 c ((hd.isClosed hclosed).2 c hc)
    exact ⟨hd.open_of_rollback hc₂ (hopen hclosed hstatus) hrollback,
      hd.idle_of_rollback hc₂ hrollback⟩
  · cases hgood

end Driver

end ConnPool
