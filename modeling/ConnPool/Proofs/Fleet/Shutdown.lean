import ConnPool.Proofs.Fleet.Closes
import ConnPool.Proofs.Fleet.Parted
import ConnPool.Proofs.Pool.Checkouts
import ConnPool.Proofs.Simulation.Shuffles

/-!
# Shutting one pool after another down

Pools that share a backend share its counters and its log of closes, and a pool that is closed
leaves its mark on both. Another pool does not see it. What is reported of closing a connection
depends on that connection and on how its backend is told to behave, so it is the same whether
other connections have been closed before or not (`ConnPool.Driver.ClosesApart.closeEach_after`).

All that closing a pool comes to is to close its connections, whichever driver it has, and to mark
it as closed (`ConnPool.Fleet.closeAll_eq`). Closing several pools comes to closing the connections
of all of them, in an order that does not matter as long as no two pools own the same one.
-/

namespace ConnPool

namespace Driver

variable {W C ε : Type} {d : Driver W C ε} {R : W → W → Prop} {l before : List (Handle C)}

/-- What comes of closing some connections is what would have come of it before another one was
closed. -/
theorem ClosesApart.closeEach_shut (hd : d.ClosesApart R) {c : C} (hc : ∀ g ∈ l, g.conn ≠ c)
    (w : W) : (d.closeEach l (d.shut c w).2).1 = (d.closeEach l w).1 := by
  induction l generalizing w with
  | nil => rfl
  | cons g l ih =>
    obtain ⟨hg, hl⟩ := List.forall_mem_cons.mp hc
    -- the other one may as well have been closed after the first
    obtain ⟨attempts, v, v', h, h', _⟩ := hd.toConceals.closeEach l (hd.world hg w)
    have hrest := ih hl (d.shut g.conn w).2
    rw [h'] at hrest
    simp only [Driver.closeEach, hd.answer hg, h, hrest]

/-- **What comes of closing some connections does not depend on whether others have been closed
before.** -/
theorem ClosesApart.closeEach_after (hd : d.ClosesApart R)
    (hapart : ∀ g ∈ before, ∀ h ∈ l, h.conn ≠ g.conn) (w : W) :
    (d.closeEach l (d.closeEach before w).2).1 = (d.closeEach l w).1 := by
  induction before generalizing w with
  | nil => rfl
  | cons g before ih =>
    obtain ⟨hg, hbefore⟩ := List.forall_mem_cons.mp hapart
    rw [closeEach_cons, ih hbefore, hd.closeEach_shut hg]

end Driver

/-! ### Reports -/

/-- What is reported of some attempts to close connections. -/
def CloseAttempts.report {ε : Type} (attempts : CloseAttempts ε) : ClosingReport ε :=
  ⟨attempts.closed, attempts.failures⟩

/-- **Two reports agree**: as many connections have been closed, and the same ones have failed, with
the same errors. -/
structure ClosingReport.Agrees {ε : Type} (report report' : ClosingReport ε) : Prop where
  closed_eq : report'.closed = report.closed
  failures : report'.failures.Perm report.failures

theorem CloseAttempts.agrees_of_perm {ε : Type} {attempts attempts' : CloseAttempts ε}
    (h : attempts'.Perm attempts) : attempts.report.Agrees attempts'.report :=
  ⟨h.countP_eq _, h.filterMap _⟩

namespace World

/-- Whoever closes connections, it comes to the same. -/
theorem closeEach_driver (b : Nat) (clock : ClockKind) (l : List (Handle SimId)) (w : World) :
    (driver b clock).closeEach l w = (driver 0 .manual).closeEach l w := by
  induction l generalizing w with
  | nil => rfl
  | cons g l ih => simp only [Driver.closeEach, shut_eq, ih]

end World

/-- A pool of a fleet that has been closed. -/
def Member.shut (m : Member) : Member := { m with pool := { m.pool with closed := true } }

namespace Fleet

variable {f f' f₁ : Fleet} {i j : PoolId} {report report' : ClosingReport Fault} {m : Member}

/-- How any pool closes its connections. -/
abbrev closer : Driver World SimId Fault := World.driver 0 .manual

/-- The connections of a pool, in the order in which it closes them. -/
def handles (f : Fleet) (i : PoolId) : List (Handle SimId) :=
  (f.member? i).elim [] fun m => m.pool.toClose

/-- Closes one pool, the connections that are checked out in a given order. -/
def closeIn (i : PoolId) (order : List (Handle SimId)) (f : Fleet) :
    ClosingReport Fault × Fleet :=
  f.act i ⟨0, []⟩ fun d p w => p.closeIn d order w

/-- **Closing a pool comes to closing its connections**, and marks it as closed. -/
theorem closeIn_eq (hm : f.member? i = some m) (order : List (Handle SimId)) :
    f.closeIn i order =
      ((closer.closeEach (m.pool.idleHandles ++ order) f.world).1.report,
        { world := (closer.closeEach (m.pool.idleHandles ++ order) f.world).2
          members := f.members.modify i Member.shut }) := by
  have hset : f.members.modify i Member.shut = f.members.set i m.shut := by
    rw [List.modify_eq_set_getElem?, ← member?, hm]
    rfl
  rw [closeIn, act, hm, hset]
  simp only [Pool.closeIn, Member.driver, World.closeEach_driver]
  rfl

/-- The connections that are checked out are closed in the order of their numbers. -/
theorem closeAll_eq_closeIn (hm : f.member? i = some m) :
    f.closeAll i = f.closeIn i m.pool.heldHandles := by
  rw [closeAll, closeIn, act, act, hm]
  rfl

/-- If the pool is not there, there is nothing to close. -/
theorem closeAll_eq (f : Fleet) (i : PoolId) :
    f.closeAll i = ((closer.closeEach (f.handles i) f.world).1.report,
      { world := (closer.closeEach (f.handles i) f.world).2
        members := f.members.modify i Member.shut }) := by
  cases hm : f.member? i with
  | none =>
    rw [closeAll, act, handles, hm, List.modify_eq_self (List.getElem?_eq_none_iff.mp hm)]
    rfl
  | some m =>
    rw [closeAll_eq_closeIn hm, handles, hm]
    exact closeIn_eq hm m.pool.heldHandles

/-! ### One pool -/

/-- **A pool is shut down**: it is closed, the connections that are checked out in some order. -/
inductive ShutsDown (i : PoolId) (f : Fleet) : ClosingReport Fault × Fleet → Prop
  /-- The pool is there, and this is the order. -/
  | mk {m : Member} {order : List (Handle SimId)} (hm : f.member? i = some m)
      (horder : order.Perm m.pool.held.values) : ShutsDown i f (f.closeIn i order)

/-- **What shutting a pool down comes to.** -/
theorem ShutsDown.turns {s : ClosingReport Fault × Fleet} (h : ShutsDown i f s) :
    ∃ l, l.Perm (f.handles i) ∧ s = ((closer.closeEach l f.world).1.report,
      { world := (closer.closeEach l f.world).2
        members := f.members.modify i Member.shut }) := by
  obtain ⟨hm, horder⟩ := h
  refine ⟨_, ?_, closeIn_eq hm _⟩
  rw [handles, hm]
  exact (horder.trans (Pool.heldHandles_perm _).symm).append_left _

/-- A pool that is there is shut down by closing it. -/
theorem shutsDown_closeAll (hi : i < f.members.length) : ShutsDown i f (f.closeAll i) := by
  obtain ⟨m, hm⟩ : ∃ m, f.member? i = some m := ⟨_, List.getElem?_eq_getElem hi⟩
  rw [closeAll_eq_closeIn hm]
  exact .mk hm m.pool.heldHandles_perm

/-- **In whatever order it is shut down, it reports the same**, but for the order of the
failures. -/
theorem ShutsDown.agrees (h : ShutsDown i f (report, f')) (hdistinct : Distinct (f.handles i)) :
    (f.closeAll i).1.Agrees report := by
  obtain ⟨l, hl, hs⟩ := h.turns
  obtain ⟨rfl, rfl⟩ := Prod.mk.inj hs
  obtain ⟨attempts, attempts', v, v', h, h', hperm, _⟩ :=
    (World.driver_closesApart 0 .manual).closeEach hl.symm hdistinct
      (World.reordered_equivalence.refl f.world)
  rw [closeAll_eq, h, h']
  exact CloseAttempts.agrees_of_perm hperm

theorem member?_modify (f : Fleet) (w : World) (i j : PoolId) :
    ({ world := w, members := f.members.modify i Member.shut } : Fleet).member? j =
      (f.member? j).map fun m => if i = j then m.shut else m :=
  List.getElem?_modify ..

/-- A pool that has been shut down has the connections that it had. -/
theorem ShutsDown.handles_eq (h : ShutsDown i f (report, f₁)) (j : PoolId) :
    f₁.handles j = f.handles j := by
  obtain ⟨l, _, hs⟩ := h.turns
  obtain ⟨_, rfl⟩ := Prod.mk.inj hs
  rw [handles, member?_modify, handles]
  cases f.member? j with
  | none => rfl
  | some m =>
    simp only [Option.map_some, Option.elim_some]
    split <;> rfl

/-- **What another pool reports does not depend on whether this one has been shut down before.** -/
theorem ShutsDown.report_other (h : ShutsDown i f (report, f₁))
    (hapart : ∀ g ∈ f.handles i, ∀ g' ∈ f.handles j, g'.conn ≠ g.conn) :
    (f₁.closeAll j).1 = (f.closeAll j).1 := by
  have hsame := h.handles_eq j
  obtain ⟨l, hl, hs⟩ := h.turns
  obtain ⟨_, rfl⟩ := Prod.mk.inj hs
  rw [closeAll_eq, closeAll_eq, hsame]
  refine congrArg CloseAttempts.report ?_
  exact (World.driver_closesApart 0 .manual).closeEach_after
    (fun g hg => hapart g (hl.mem_iff.mp hg)) f.world

/-! ### Several pools -/

/-- **Some pools are shut down one after the other**, with a report for each. -/
inductive ShutDownEach : List PoolId → Fleet → List (ClosingReport Fault) → Fleet → Prop
  /-- None is left. -/
  | nil {f : Fleet} : ShutDownEach [] f [] f
  /-- One is shut down, and then the others. -/
  | cons {i : PoolId} {l : List PoolId} {f f₁ f' : Fleet} {report : ClosingReport Fault}
      {reports : List (ClosingReport Fault)} (hfirst : ShutsDown i f (report, f₁))
      (hrest : ShutDownEach l f₁ reports f') : ShutDownEach (i :: l) f (report :: reports) f'

/-- **No two pools own the same connection**, and none owns a connection twice. -/
def Separate (f : Fleet) (l : List PoolId) : Prop := Distinct (l.flatMap f.handles)

variable {l l' : List PoolId} {reports reports' : List (ClosingReport Fault)}

theorem Separate.perm (h : f.Separate l) (hperm : l.Perm l') : f.Separate l' :=
  ((hperm.flatMap_right f.handles).pairwise_iff fun hne => Ne.symm hne).mp h

/-- The pools that have been shut down are closed, and the others are as they were. -/
theorem ShutDownEach.members_eq (h : ShutDownEach l f reports f') :
    f'.members = l.foldl (fun members i => members.modify i Member.shut) f.members := by
  induction h with
  | nil => rfl
  | cons hfirst _ ih =>
    obtain ⟨_, _, hs⟩ := hfirst.turns
    obtain ⟨_, rfl⟩ := Prod.mk.inj hs
    exact ih

/-- **What becomes of the world** is what comes of closing the connections of all of them. -/
theorem ShutDownEach.turns (h : ShutDownEach l f reports f') :
    ∃ order, order.Perm (l.flatMap f.handles) ∧
      f'.world = (closer.closeEach order f.world).2 := by
  induction h with
  | nil => exact ⟨[], .refl _, rfl⟩
  | @cons i l f f₁ f' report reports hfirst _ ih =>
    obtain ⟨order, horder, hworld⟩ := ih
    obtain ⟨first, hl, hs⟩ := hfirst.turns
    have hsame : f₁.handles = f.handles := funext hfirst.handles_eq
    obtain ⟨_, rfl⟩ := Prod.mk.inj hs
    refine ⟨first ++ order, ?_, ?_⟩
    · rw [hsame] at horder
      exact hl.append horder
    · rw [hworld, Driver.closeEach_append]

/-- **Each of them reports what it would have reported** if it had been the only one to be
closed. -/
theorem ShutDownEach.agrees (h : ShutDownEach l f reports f') (hsep : f.Separate l) :
    List.Forall₂ (fun i report => (f.closeAll i).1.Agrees report) l reports := by
  induction h with
  | nil => exact .nil
  | @cons i l f f₁ f' report reports hfirst _ ih =>
    have hsame : f₁.handles = f.handles := funext hfirst.handles_eq
    rw [Separate, List.flatMap_cons] at hsep
    obtain ⟨hi, hrest, hapart⟩ := List.pairwise_append.mp hsep
    obtain ⟨hlength, hzip⟩ := List.forall₂_iff_zip.mp (ih (by rwa [Separate, hsame]))
    refine .cons (hfirst.agrees hi) (List.forall₂_iff_zip.mpr ⟨hlength, fun {j report'} hmem => ?_⟩)
    have hj : j ∈ l := (List.of_mem_zip hmem).1
    have hother := hfirst.report_other fun g hg g' hg' =>
      (hapart g hg g' (List.mem_flatMap.mpr ⟨j, hj, hg'⟩)).symm
    exact hother ▸ hzip hmem

/-- **In whatever order some pools are shut down**, the same are closed in the end, every connection
is in the same state, and the logs of the backends have the same entries. -/
theorem ShutDownEach.reordered (h : ShutDownEach l f reports f')
    (h' : ShutDownEach l' f reports' f₁) (hperm : l.Perm l') (hsep : f.Separate l) :
    f₁.members = f'.members ∧ f'.world.Reordered f₁.world := by
  refine ⟨?_, ?_⟩
  · rw [h.members_eq, h'.members_eq]
    refine (hperm.foldl_eq' (fun i _ j _ members => ?_) f.members).symm
    by_cases hij : i = j
    · rw [hij]
    · exact List.modify_modify_ne _ _ _ hij
  · obtain ⟨order, horder, hworld⟩ := h.turns
    obtain ⟨order', horder', hworld'⟩ := h'.turns
    have hdistinct : Distinct order := (horder.pairwise_iff fun hne => Ne.symm hne).mpr hsep
    obtain ⟨_, _, v, v', hv, hv', _, hR⟩ := (World.driver_closesApart 0 .manual).closeEach
      (horder.trans ((hperm.flatMap_right f.handles).trans horder'.symm)) hdistinct
      (World.reordered_equivalence.refl f.world)
    rwa [hworld, hworld', hv, hv']

end Fleet

end ConnPool
