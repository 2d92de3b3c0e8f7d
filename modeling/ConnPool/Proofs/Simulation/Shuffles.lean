import ConnPool.Proofs.Pool.Shuffles
import ConnPool.Proofs.Simulation.Backends
import ConnPool.Proofs.Simulation.Touches

/-!
# Simulated connections in any order

Closing a simulated connection marks it, and enters it in the log of its backend. Two closes
mark two connections, and the log has the same entries in either order. As nothing that a
driver answers depends on the order of a log, simulated connections are closed independently of
each other (`ConnPool.World.driver_closesApart`), also by backends that report every close to
have failed.
-/

namespace ConnPool

/-! ### Reordered logs -/

namespace Backend

variable {b b' : Backend}

/-- **A backend with another log**: it is like the other one in everything else, and has
logged the same closes. -/
def Reordered (b b' : Backend) : Prop :=
  ∃ log, log.Perm b.closeLog ∧ b' = { b with closeLog := log }

theorem reordered_equivalence : Equivalence Reordered where
  refl b := ⟨b.closeLog, .refl _, rfl⟩
  symm := by
    rintro b _ ⟨log, hlog, rfl⟩
    exact ⟨b.closeLog, hlog.symm, rfl⟩
  trans := by
    rintro b _ _ ⟨log, hlog, rfl⟩ ⟨log', hlog', rfl⟩
    exact ⟨log', hlog'.trans hlog, rfl⟩

/-- Connect attempts do not look into the log. -/
theorem Reordered.attempt (h : b.Reordered b') :
    ∃ result after after', b.attempt = (result, after) ∧ b'.attempt = (result, after') ∧
      after.Reordered after' ∧ after'.birth = after.birth := by
  obtain ⟨log, hlog, rfl⟩ := h
  simp only [Backend.attempt]
  split
  · exact ⟨_, _, _, rfl, rfl, ⟨log, hlog, rfl⟩, rfl⟩
  · split
    · exact ⟨_, _, _, rfl, rfl, ⟨log, hlog, rfl⟩, rfl⟩
    · exact ⟨_, _, _, rfl, rfl, ⟨log, hlog, rfl⟩, rfl⟩

/-- **The order of a log is a discreet difference.** -/
theorem discreet_reordered : Discreet Reordered where
  equiv := reordered_equivalence
  failClose := by
    rintro b _ ⟨log, _, rfl⟩
    rfl
  failRollback := by
    rintro b _ ⟨log, _, rfl⟩
    rfl
  recordClose := by
    rintro b _ ⟨log, hlog, rfl⟩ serial
    exact ⟨log ++ [serial], hlog.append_right _, rfl⟩
  recordRollback := by
    rintro b _ ⟨log, hlog, rfl⟩
    exact ⟨log, hlog, rfl⟩

/-- Two closes in either order. -/
theorem recordClose_recordClose (b : Backend) (s s' : Nat) :
    ((b.recordClose s).recordClose s').Reordered ((b.recordClose s').recordClose s) := by
  refine ⟨b.closeLog ++ [s'] ++ [s], ?_, rfl⟩
  simp only [Backend.recordClose, List.append_assoc]
  exact .append_left _ (.swap _ _ _)

end Backend

namespace World

variable {w w' : World} {c c' : SimId} {k k' : SimConn}

/-- **A world with other logs**, the entries of which are the same. -/
structure Reordered (w w' : World) : Prop where
  conns : w'.conns = w.conns
  manual : w'.manual = w.manual
  wall : w'.wall = w.wall
  backend : ∀ b, (w.backend b).Reordered (w'.backend b)

theorem reordered_eq_differ : Reordered = Differ Backend.Reordered := by
  funext w w'
  exact propext ⟨fun h => ⟨h.conns, h.manual, h.wall, h.backend⟩,
    fun h => ⟨h.conns, h.manual, h.wall, h.backend⟩⟩

theorem reordered_equivalence : Equivalence Reordered :=
  reordered_eq_differ ▸ Differ.equivalence Backend.reordered_equivalence

/-- **The order of the logs is concealed.** -/
theorem driver_conceals (b : Nat) (clock : ClockKind) : (driver b clock).Conceals Reordered := by
  rw [reordered_eq_differ]
  refine driver_conceals_of_discreet Backend.discreet_reordered b clock fun h => ?_
  obtain ⟨_, _, _, hb, hb', hafter, hbirth⟩ := (h.backend b).attempt
  exact h.connect b hb hb' hafter hbirth

/-! ### Two closes -/

variable {b : Nat} {clock : ClockKind}

/-- The connection that shutting it gets through to: it is open, and does as it is told. -/
def reached? (c : SimId) (w : World) : Option SimConn :=
  (w.conn? c).filter fun k => !k.closed && k.onClose = .obeys

/-- The world with a connection closed. -/
def mark (c : SimId) (k : SimConn) (w : World) : World :=
  (w.updateConn c fun k => { k with closed := true, closes := k.closes + 1 }).updateBackend
    k.backend (Backend.recordClose k.serial)

/-- Shutting a connection is closing it, unless it is closed. -/
theorem shut_eq (c : SimId) (w : World) :
    (driver b clock).shut c w =
      if w.isClosed c then (.ok false, w)
      else ((w.close c).1.map fun _ => true, (w.close c).2) := by
  simp only [Driver.shut, driver]
  cases w.isClosed c with
  | true => rfl
  | false =>
    obtain ⟨result, v, hclose⟩ : ∃ result v, w.close c = (result, v) := ⟨_, _, rfl⟩
    simp only [hclose]
    cases result <;> rfl

/-- **What shutting a connection does to the world**, whatever is reported of it. -/
theorem shut_snd (c : SimId) (w : World) :
    ((driver b clock).shut c w).2 = (w.reached? c).elim w fun k => w.mark c k := by
  rw [shut_eq, isClosed, reached?]
  rcases close_cases w c with ⟨hnot, hw⟩ | ⟨k, hk, hobeys, hw⟩
  · have hnone : (w.conn? c).filter (fun k => !k.closed && k.onClose = .obeys) = none := by
      refine Option.filter_eq_none_iff.mpr fun k hk hreached => hnot ⟨k, hk, ?_⟩
      exact of_decide_eq_true (Bool.and_eq_true_iff.mp hreached).2
    rw [hnone, hw]
    split <;> rfl
  · rw [hw, hk, Option.all_some, Option.filter_some, hobeys]
    cases k.closed <;> rfl

theorem conn?_mark_of_ne (hne : c ≠ c') (k : SimConn) (w : World) :
    (w.mark c' k).conn? c = w.conn? c := conn?_updateConn_of_ne hne _

theorem backend_mark (c : SimId) (k : SimConn) (w : World) (x : Nat) :
    (w.mark c k).backend x =
      if x = k.backend then (w.backend x).recordClose k.serial else w.backend x :=
  backend_updateBackend _ _ _ _

theorem mark_mark (hne : c ≠ c') (k k' : SimConn) (w : World) :
    Reordered ((w.mark c k).mark c' k') ((w.mark c' k').mark c k) where
  conns := by
    refine List.ext_getElem? fun x => ?_
    change ((w.updateConn c' _).updateConn c _).conn? x =
      ((w.updateConn c _).updateConn c' _).conn? x
    simp only [conn?_updateConn]
    by_cases hx : x = c
    · subst hx
      simp only [if_pos, if_neg hne]
    · simp only [if_neg hx]
  manual := rfl
  wall := rfl
  backend x := by
    simp only [backend_mark]
    by_cases hx : x = k.backend <;> by_cases hx' : x = k'.backend
    · simp only [if_pos hx, if_pos hx']
      exact Backend.recordClose_recordClose _ _ _
    · simp only [if_pos hx, if_neg hx']
      exact Backend.reordered_equivalence.refl _
    · simp only [if_neg hx, if_pos hx']
      exact Backend.reordered_equivalence.refl _
    · simp only [if_neg hx, if_neg hx']
      exact Backend.reordered_equivalence.refl _

/-- Shutting one connection leaves the other as it is. -/
theorem conn?_shut_of_ne (hne : c ≠ c') (w : World) :
    ((driver b clock).shut c' w).2.conn? c = w.conn? c := by
  rw [shut_snd]
  cases w.reached? c' with
  | none => rfl
  | some k => exact conn?_mark_of_ne hne k w

theorem failClose_shut (c : SimId) (w : World) (x : Nat) :
    (((driver b clock).shut c w).2.backend x).failClose = (w.backend x).failClose := by
  rw [shut_snd]
  cases w.reached? c with
  | none => rfl
  | some k =>
    rw [Option.elim_some, backend_mark]
    split <;> rfl

/-- The answer depends on the connection and on whether backends report closes to fail. -/
theorem shut_fst_congr (hconn : w'.conn? c = w.conn? c)
    (hfail : ∀ x, (w'.backend x).failClose = (w.backend x).failClose) :
    ((driver b clock).shut c w').1 = ((driver b clock).shut c w).1 := by
  have hclose : (w'.close c).1 = (w.close c).1 := by
    rw [World.close, World.close, hconn]
    cases w.conn? c with
    | none => rfl
    | some k =>
      cases hk : k.onClose with
      | obeys =>
        simp only [hk, hfail]
        split <;> rfl
      | _ => simp only [hk]
  rw [shut_eq, shut_eq, isClosed, isClosed, hconn, hclose]
  split <;> rfl

/-- **Simulated connections are closed independently of each other.** -/
theorem driver_closesApart (b : Nat) (clock : ClockKind) :
    (driver b clock).ClosesApart Reordered where
  toConceals := driver_conceals b clock
  equiv := reordered_equivalence
  answer hne w := shut_fst_congr (conn?_shut_of_ne hne w) (failClose_shut _ w)
  world {c c'} hne w := by
    have hreached : ((driver b clock).shut c' w).2.reached? c = w.reached? c := by
      rw [reached?, reached?, conn?_shut_of_ne hne]
    have hreached' : ((driver b clock).shut c w).2.reached? c' = w.reached? c' := by
      rw [reached?, reached?, conn?_shut_of_ne hne.symm]
    rw [shut_snd c, hreached, shut_snd c', shut_snd c', hreached', shut_snd c]
    cases w.reached? c with
    | none => exact reordered_equivalence.refl _
    | some k =>
      cases w.reached? c' with
      | none => exact reordered_equivalence.refl _
      | some k' => exact mark_mark hne.symm k' k w

end World

end ConnPool
