import ConnPool.Proofs.Pool.Faultless
import ConnPool.Proofs.Simulation.Events

/-!
# A simulated backend without faults

A simulated backend has no faults as long as it has not been told to have any
(`ConnPool.World.Serves`): it refuses no attempt to open a connection, delivers its
connections open and in a known status, and rolls back what it is told to. The driver of a
pool at such a backend is a driver without faults (`ConnPool.World.driver_faultless`).

It stays that way while the borrowers use their connections. They may begin transactions, get
them into errors and execute commands for as long as they like; nothing of this matters for
whether a connection is fit (`ConnPool.World.lasts_updateConn`).
-/

namespace ConnPool

open Driver (Lasts)

/-- **A backend refuses no attempt to open a connection.** -/
def Backend.Accepts (b : Backend) : Prop := b.refuseAll = false ∧ b.refusals = 0

/-- Then it opens one. -/
theorem Backend.Accepts.attempt {b : Backend} (h : b.Accepts) :
    b.attempt = (.ok (b.opened + 1),
      { b with attempts := b.attempts + 1, opened := b.opened + 1 }) := by
  simp only [Backend.attempt, h.1, h.2, Bool.false_eq_true, if_false, if_true]

/-- **A backend does not fail.** -/
structure Backend.Serves (b : Backend) : Prop where
  /-- It does not refuse all attempts to open a connection. -/
  refuseAll : b.refuseAll = false
  /-- It does not refuse the next ones either. -/
  refusals : b.refusals = 0
  /-- It delivers open connections. -/
  severed : b.birth.severed = false
  /-- It delivers them in a known status. -/
  status : b.birth.status ≠ some .unknown
  /-- Rollbacks succeed. -/
  failRollback : b.failRollback = false

/-- **A connection is fit**: it is open, its status is known, and it lets itself be rolled
back. -/
structure SimConn.Fit (k : SimConn) : Prop where
  closed : k.closed = false
  status : k.status ≠ .unknown
  onRollback : k.onRollback ≠ .refuses

theorem Backend.Serves.accepts {b : Backend} (h : b.Serves) : b.Accepts :=
  ⟨h.refuseAll, h.refusals⟩

/-- What it delivers is fit. -/
theorem Backend.Serves.fit_born {b : Backend} (h : b.Serves) (x serial : Nat) :
    (SimConn.born x serial b.birth).Fit where
  closed := h.severed
  status hunknown := by
    change b.birth.status.getD .idle = .unknown at hunknown
    cases hstatus : b.birth.status with
    | none => rw [hstatus] at hunknown; cases hunknown
    | some status => exact h.status (by rw [hstatus] at hunknown ⊢; exact congrArg some hunknown)
  onRollback h := by cases h

namespace World

/-- The backend of a pool does not fail. -/
def Serves (b : Nat) (w : World) : Prop := (w.backend b).Serves

/-- A connection exists and is fit, and its backend does not fail to roll it back. -/
def Fit (c : SimId) (w : World) : Prop :=
  ∃ k, w.conn? c = some k ∧ k.Fit ∧ (w.backend k.backend).failRollback = false

variable {b : Nat} {c : SimId} {w w' : World}

/-! ### What spoils nothing -/

/-- Nothing gets worse if the backends behave as before and the connections that were fit
are. -/
theorem lasts_of_backend (hserves : ∀ x, (w.backend x).Serves → (w'.backend x).Serves)
    (hrolls : ∀ x, (w'.backend x).failRollback = (w.backend x).failRollback)
    (hconn : ∀ c k, w.conn? c = some k → k.Fit →
      ∃ k', w'.conn? c = some k' ∧ k'.backend = k.backend ∧ k'.Fit) :
    Lasts (Serves b) Fit w w' := by
  refine ⟨hserves b, fun c hc => ?_⟩
  obtain ⟨k, hk, hfit, hroll⟩ := hc
  obtain ⟨k', hk', hsame, hfit'⟩ := hconn c k hk hfit
  exact ⟨k', hk', hfit', by rw [hrolls, hsame, hroll]⟩

/-- **Using a connection spoils nothing**, as long as it stays fit. -/
theorem lasts_updateConn (x : SimId) {f : SimConn → SimConn}
    (hsame : ∀ k, (f k).backend = k.backend) (hfit : ∀ k, k.Fit → (f k).Fit) :
    Lasts (Serves b) Fit w (w.updateConn x f) := by
  refine lasts_of_backend (fun _ => id) (fun _ => rfl) fun c k hk hkfit => ?_
  rw [conn?_updateConn, hk]
  by_cases hc : c = x
  · exact ⟨f k, if_pos hc, hsame k, hfit k hkfit⟩
  · exact ⟨k, if_neg hc, rfl, hkfit⟩

theorem lasts_updateBackend (x : Nat) {f : Backend → Backend}
    (hserves : (w.backend x).Serves → (f (w.backend x)).Serves)
    (hroll : (f (w.backend x)).failRollback = (w.backend x).failRollback) :
    Lasts (Serves b) Fit w (w.updateBackend x f) := by
  refine lasts_of_backend (fun y hy => ?_) (fun y => ?_) fun c k hk hfit => ⟨k, hk, rfl, hfit⟩
  · rw [backend_updateBackend]
    by_cases hyx : y = x
    · subst hyx
      rw [if_pos rfl]
      exact hserves hy
    · rwa [if_neg hyx]
  · rw [backend_updateBackend]
    by_cases hyx : y = x
    · subst hyx
      rw [if_pos rfl, hroll]
    · rw [if_neg hyx]

/-- One connection more spoils none of the others. -/
theorem lasts_conns_append (k : SimConn) :
    Lasts (Serves b) Fit w { w with conns := w.conns ++ [k] } := by
  refine lasts_of_backend (fun _ => id) (fun _ => rfl) fun c k' hk' hfit => ⟨k', ?_, rfl, hfit⟩
  obtain ⟨hlt, _⟩ := List.getElem?_eq_some_iff.mp hk'
  rw [conn?, List.getElem?_append_left hlt]
  exact hk'

/-! ### The driver -/

/-- **A backend that does not fail opens a connection, and it is fit.** -/
theorem connect_of_serves (h : Serves b w) :
    ∃ c w', w.connect b = (.ok c, w') ∧ Fit c w' ∧ Lasts (Serves b) Fit w w' := by
  refine ⟨_, _, by rw [connect, h.accepts.attempt], ?_, ?_⟩
  · refine ⟨_, List.getElem?_concat_length, Backend.Serves.fit_born h _ _, ?_⟩
    change ((w.updateBackend b _).backend b).failRollback = false
    rw [backend_updateBackend, if_pos rfl]
    exact h.failRollback
  · refine .trans (lasts_updateBackend b (fun _ => ?_) rfl) (lasts_conns_append _)
    exact ⟨h.refuseAll, h.refusals, h.severed, h.status, h.failRollback⟩

/-- **A fit connection is rolled back when it is told to be**, or says so at least. -/
theorem rollback_of_fit (h : Fit c w) :
    ∃ w', w.rollback c = (.ok (), w') ∧ Lasts (Serves b) Fit w w' := by
  obtain ⟨k, hk, hfit, hroll⟩ := h
  rw [rollback, hk]
  cases honRollback : k.onRollback with
  | refuses => exact absurd honRollback hfit.onRollback
  | ignores =>
    simp only [honRollback]
    exact ⟨w, rfl, .refl w⟩
  | obeys =>
    simp only [honRollback, hroll, Bool.false_eq_true, if_false]
    have hidle : Lasts (Serves b) Fit w (w.updateConn c fun k => { k with status := .idle }) :=
      lasts_updateConn c (fun _ => rfl) fun k hk =>
        ⟨hk.closed, TxStatus.noConfusion, hk.onRollback⟩
    refine ⟨_, rfl, hidle.trans (lasts_updateBackend _ (fun h => ?_) rfl)⟩
    exact ⟨h.refuseAll, h.refusals, h.severed, h.status, h.failRollback⟩

/-- **The driver of a pool at a backend that does not fail is a driver without faults.** -/
theorem driver_faultless (b : Nat) (clock : ClockKind) :
    (driver b clock).Faultless (Serves b) Fit where
  connect := connect_of_serves
  isClosed h := by
    obtain ⟨k, hk, hfit, _⟩ := h
    exact ⟨_, Prod.ext ((isClosed_of_conn? hk).trans hfit.closed) rfl, .refl _⟩
  status h := by
    obtain ⟨k, hk, hfit, _⟩ := h
    exact ⟨k.status, _, Prod.ext (status_of_conn? hk) rfl, hfit.status, .refl _⟩
  rollback := rollback_of_fit
  now w := by
    cases clock with
    | manual => exact .refl w
    | wall =>
      exact lasts_of_backend (fun _ => id) (fun _ => rfl) fun c k hk hfit => ⟨k, hk, rfl, hfit⟩

end World

end ConnPool
