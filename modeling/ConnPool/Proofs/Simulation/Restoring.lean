import ConnPool.Proofs.Recycling
import ConnPool.Proofs.Simulation.Events

/-!
# Simulated rollbacks restore connections

A simulated connection can be told to ignore rollbacks, and then it reports one to have succeeded
and stays in its transaction. A simulated backend can be told to deliver connections that are
closed, or in a transaction, from the start. Unless one of the two has happened, the driver of a
simulated world restores connections (`ConnPool.World.driver_restores`). This asks for less than
that nothing fails: backends may refuse to open connections, and rollbacks and closes may fail.
-/

namespace ConnPool

open Driver (Lasts)

/-- **A backend delivers connections ready for use.** -/
structure Backend.DeliversReady (b : Backend) : Prop where
  /-- They are open. -/
  severed : b.birth.severed = false
  /-- They are idle. -/
  status : b.birth.status.getD .idle = .idle

namespace World

/-- The backend of a pool delivers connections ready for use. -/
def DeliversReady (b : Nat) (w : World) : Prop := (w.backend b).DeliversReady

/-- A connection exists, and does not pretend to be rolled back. -/
def Restorable (c : SimId) (w : World) : Prop :=
  ∃ k, w.conn? c = some k ∧ k.onRollback ≠ .ignores

variable {b : Nat} {clock : ClockKind} {c : SimId} {k : SimConn} {w w' : World}

/-! ### What a connection reports -/

/-- A connection is ready if it is open and idle. -/
theorem ready_iff (hk : w.conn? c = some k) :
    (driver b clock).Ready c w ↔ k.closed = false ∧ k.status = .idle := by
  change w.isClosed c = false ∧ w.status c = .idle ↔ _
  rw [isClosed_of_conn? hk, status_of_conn? hk]

/-! ### What the calls keep -/

/-- Births stay as they are, and so does the attitude of every connection to rollbacks. -/
theorem lasts_of_attitudes (hbirth : ∀ x, (w'.backend x).birth = (w.backend x).birth)
    (hconn : ∀ c k, w.conn? c = some k →
      ∃ k', w'.conn? c = some k' ∧ k'.onRollback = k.onRollback) :
    Lasts (DeliversReady b) Restorable w w' := by
  refine ⟨fun h => ⟨?_, ?_⟩, fun c hc => ?_⟩
  · rw [hbirth, h.severed]
  · rw [hbirth, h.status]
  · obtain ⟨k, hk, hne⟩ := hc
    obtain ⟨k', hk', hsame⟩ := hconn c k hk
    exact ⟨k', hk', by rwa [hsame]⟩

theorem onRollback_updateConn (w : World) (x : SimId) {f : SimConn → SimConn}
    (hf : ∀ k, (f k).onRollback = k.onRollback) (c : SimId) (k : SimConn)
    (hk : w.conn? c = some k) :
    ∃ k', (w.updateConn x f).conn? c = some k' ∧ k'.onRollback = k.onRollback := by
  rw [conn?_updateConn, hk]
  by_cases hc : c = x
  · exact ⟨f k, if_pos hc, hf k⟩
  · exact ⟨k, if_neg hc, rfl⟩

theorem lasts_connect {x : Nat} {result : Except Fault SimId} (h : w.connect x = (result, w')) :
    Lasts (DeliversReady b) Restorable w w' := by
  refine lasts_of_attitudes (fun y => ?_) fun c k hk => ⟨k, conn?_connect h hk, rfl⟩
  obtain rfl : (w.connect x).2 = w' := congrArg Prod.snd h
  -- what the backend has become is told as one value, so the birth has to be looked up in it
  have hbirth : ∀ after : Backend, after.birth = (w.backend x).birth →
      ((w.updateBackend x fun _ => after).backend y).birth = (w.backend y).birth := by
    intro after hafter
    rw [backend_updateBackend]
    split
    · next hy => rw [hafter, hy]
    · rfl
  rcases connect_cases w x with ⟨_, _, hw⟩ | hw <;> rw [hw]
  · exact hbirth _ rfl
  · exact hbirth _ rfl

theorem lasts_close {result : Except Fault Unit} (h : w.close c = (result, w')) :
    Lasts (DeliversReady b) Restorable w w' := by
  obtain rfl : (w.close c).2 = w' := congrArg Prod.snd h
  rcases close_cases w c with ⟨_, hw⟩ | ⟨k, _, _, hw⟩ <;> rw [hw]
  · exact .refl w
  · exact lasts_of_attitudes (fun y => read_updateBackend Backend.birth _ _ y fun _ => rfl)
      (onRollback_updateConn w c fun _ => rfl)

theorem lasts_rollback {result : Except Fault Unit} (h : w.rollback c = (result, w')) :
    Lasts (DeliversReady b) Restorable w w' := by
  obtain rfl : (w.rollback c).2 = w' := congrArg Prod.snd h
  rcases rollback_cases w c with hw | ⟨_, x, hw⟩ <;> rw [hw]
  · exact .refl w
  · exact lasts_of_attitudes (fun y => read_updateBackend Backend.birth _ _ y fun _ => rfl)
      (onRollback_updateConn w c fun _ => rfl)

theorem lasts_now {reading : Instant} (h : w.now clock = (reading, w')) :
    Lasts (DeliversReady b) Restorable w w' := by
  cases clock <;> cases h <;> exact lasts_of_attitudes (fun _ => rfl) fun c k hk => ⟨k, hk, rfl⟩

/-! ### The driver -/

/-- **A rollback that is reported to have succeeded has made the connection idle**, and has done
nothing else to it, unless it ignores rollbacks. -/
theorem conn?_rollback (hk : w.conn? c = some k) (hne : k.onRollback ≠ .ignores)
    (h : w.rollback c = (.ok (), w')) : w'.conn? c = some { k with status := .idle } := by
  rw [rollback, hk] at h
  cases hon : k.onRollback with
  | ignores => exact absurd hon hne
  | refuses =>
    simp only [hon] at h
    cases h
  | obeys =>
    simp only [hon] at h
    split at h
    · cases h
    · cases h
      change (w.updateConn c _).conn? c = _
      rw [conn?_updateConn, if_pos rfl, hk, Option.map_some, hon]

/-- **Simulated rollbacks restore connections.** -/
theorem driver_restores (b : Nat) (clock : ClockKind) :
    (driver b clock).Restores (DeliversReady b) Restorable where
  refl := .refl
  trans := .trans
  close := lasts_close
  isClosed h := by
    cases h
    exact .refl _
  status h := by
    cases h
    exact .refl _
  rollback := lasts_rollback
  now := lasts_now
  ready_of_connect {w _ _} hserves h := by
    rcases connect_cases w b with ⟨_, _, hw⟩ | hw
    · cases hw.symm.trans h
    · cases hw.symm.trans h
      exact (ready_iff List.getElem?_concat_length).mpr ⟨hserves.severed, hserves.status⟩
  idle_of_rollback hc h := by
    obtain ⟨k, hk, hne⟩ := hc
    exact status_of_conn? (conn?_rollback hk hne h)
  open_of_rollback hc hopen h := by
    obtain ⟨k, hk, hne⟩ := hc
    exact (isClosed_of_conn? (conn?_rollback hk hne h)).trans
      ((isClosed_of_conn? hk).symm.trans hopen)
  alike_isClosed h := by
    cases h
    exact fun _ => ⟨rfl, rfl⟩
  alike_status h := by
    cases h
    exact fun _ => ⟨rfl, rfl⟩
  alike_now h := by
    cases clock <;> cases h <;> exact fun _ => ⟨rfl, rfl⟩
  connect := lasts_connect
  ready_connect hc hready h := by
    obtain ⟨k, hk, _⟩ := hc
    exact (ready_iff (conn?_connect h hk)).mpr ((ready_iff hk).mp hready)

end World

end ConnPool
