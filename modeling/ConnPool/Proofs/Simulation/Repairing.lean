import ConnPool.Proofs.Repairing
import ConnPool.Proofs.Simulation.Backends
import ConnPool.Proofs.Simulation.Faultless

/-!
# Simulated factories that are repaired

A simulated backend counts the attempts to open a connection, and can be told to refuse them. None
of this shows in what it does for the connections it has opened, and a backend that refuses nothing
delivers the same connection whatever it has refused before. So the factory of a simulated pool can
be repaired (`ConnPool.World.driver_repairable`).
-/

namespace ConnPool

namespace Backend

/-- **A backend in which the factory is another**: it may have counted other attempts, and refuse
others. -/
def Refitted (b b' : Backend) : Prop :=
  ∃ attempts refusals refuseAll,
    b' = { b with attempts := attempts, refusals := refusals, refuseAll := refuseAll }

theorem discreet_refitted : Discreet Refitted where
  equiv :=
    { refl := fun b => ⟨b.attempts, b.refusals, b.refuseAll, rfl⟩
      symm := by
        rintro b _ ⟨_, _, _, rfl⟩
        exact ⟨b.attempts, b.refusals, b.refuseAll, rfl⟩
      trans := by
        rintro b _ _ ⟨_, _, _, rfl⟩ ⟨attempts, refusals, refuseAll, rfl⟩
        exact ⟨attempts, refusals, refuseAll, rfl⟩ }
  failClose := by
    rintro b _ ⟨_, _, _, rfl⟩
    rfl
  failRollback := by
    rintro b _ ⟨_, _, _, rfl⟩
    rfl
  recordClose := by
    rintro b _ ⟨attempts, refusals, refuseAll, rfl⟩ serial
    exact ⟨attempts, refusals, refuseAll, rfl⟩
  recordRollback := by
    rintro b _ ⟨attempts, refusals, refuseAll, rfl⟩
    exact ⟨attempts, refusals, refuseAll, rfl⟩

/-- Factories that refuse nothing give the same answer. -/
theorem Refitted.attempt {b b' : Backend} (h : b.Refitted b') (hb : b.Accepts)
    (hb' : b'.Accepts) :
    ∃ after after', b.attempt = (.ok (b.opened + 1), after) ∧
      b'.attempt = (.ok (b.opened + 1), after') ∧ after.Refitted after' ∧
      after'.birth = after.birth := by
  obtain ⟨attempts, refusals, refuseAll, rfl⟩ := h
  exact ⟨_, _, hb.attempt, hb'.attempt, ⟨attempts + 1, refusals, refuseAll, rfl⟩, rfl⟩

end Backend

namespace World

variable {b : Nat} {w w' : World}

/-- The backend of a pool refuses no attempt to open a connection. -/
def Accepts (b : Nat) (w : World) : Prop := (w.backend b).Accepts

/-- **A world in which the factories are others**, and everything else is the same. -/
def Refitted : World → World → Prop := Differ Backend.Refitted

/-- Changing the factory of one backend. -/
theorem refitted_updateBackend (w : World) (b : Nat) {f : Backend → Backend}
    (hf : (w.backend b).Refitted (f (w.backend b))) : Refitted w (w.updateBackend b f) := by
  refine ⟨rfl, rfl, rfl, fun x => ?_⟩
  rw [backend_updateBackend]
  by_cases hx : x = b
  · subst hx
    rwa [if_pos rfl]
  · rw [if_neg hx]
    exact Backend.discreet_refitted.equiv.refl _

/-- An attempt that has been refused has been counted, and that is all. -/
theorem refitted_of_error {e : Fault} (h : w.connect b = (.error e, w')) : Refitted w w' := by
  rcases connect_cases w b with ⟨_, refusals, hw⟩ | hw
  · cases hw.symm.trans h
    exact refitted_updateBackend w b ⟨_, _, _, rfl⟩
  · cases hw.symm.trans h

/-- **Factories that refuse nothing open the same connection.** -/
theorem connect_of_refitted (h : Refitted w w') (hw : Accepts b w) (hw' : Accepts b w') :
    ∃ c v v', w.connect b = (.ok c, v) ∧ w'.connect b = (.ok c, v') ∧ Refitted v v' := by
  obtain ⟨after, after', hb, hb', hafter, hbirth⟩ := (h.backend b).attempt hw hw'
  obtain ⟨result, v, v', hv, hv', hdiffer⟩ := Differ.connect h b hb hb' hafter hbirth
  have hok : (w.connect b).1 = .ok w.conns.length := by
    rw [connect, hb]
    rfl
  obtain rfl : result = .ok w.conns.length := (congrArg Prod.fst hv).symm.trans hok
  exact ⟨_, v, v', hv, hv', hdiffer⟩

/-! ### What spoils no factory -/

theorem accepts_updateBackend (w : World) (x : Nat) {f : Backend → Backend}
    (hf : ∀ a, (f a).Accepts = a.Accepts) (h : Accepts b w) : Accepts b (w.updateBackend x f) :=
  (read_updateBackend Backend.Accepts w x b hf).mpr h

theorem accepts_close {c : SimId} {result : Except Fault Unit} (hclose : w.close c = (result, w'))
    (h : Accepts b w) : Accepts b w' := by
  obtain rfl : (w.close c).2 = w' := congrArg Prod.snd hclose
  rcases close_cases w c with ⟨_, hw⟩ | ⟨k, _, _, hw⟩ <;> rw [hw]
  · exact h
  · exact accepts_updateBackend (w.updateConn c _) _ (fun _ => rfl) h

theorem accepts_rollback {c : SimId} {result : Except Fault Unit}
    (hrollback : w.rollback c = (result, w')) (h : Accepts b w) : Accepts b w' := by
  obtain rfl : (w.rollback c).2 = w' := congrArg Prod.snd hrollback
  rcases rollback_cases w c with hw | ⟨_, x, hw⟩ <;> rw [hw]
  · exact h
  · exact accepts_updateBackend (w.updateConn c _) _ (fun _ => rfl) h

/-! ### The driver -/

/-- **The factory of a simulated pool can be repaired.** -/
theorem driver_repairable (b : Nat) (clock : ClockKind) :
    (driver b clock).Repairable (Accepts b) Refitted where
  equiv := Differ.equivalence Backend.discreet_refitted.equiv
  conceals _ := driver_conceals_of_discreet Backend.discreet_refitted b clock fun h => .mk _ h
  failed := refitted_of_error
  opens := connect_of_refitted
  lasts :=
    { refl := fun _ => id
      trans := fun h h' => h' ∘ h
      close := accepts_close
      isClosed := fun h hw => by
        cases h
        exact hw
      status := fun h hw => by
        cases h
        exact hw
      rollback := accepts_rollback
      now := fun h hw => by
        cases clock <;> cases h <;> exact hw }

end World

end ConnPool
