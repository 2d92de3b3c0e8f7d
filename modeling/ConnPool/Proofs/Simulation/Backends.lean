import ConnPool.Proofs.Pool.Renaming
import ConnPool.Proofs.Simulation.Events

/-!
# Worlds with other backends

Two worlds may have the same connections and the same clocks, and differ in what their backends
have counted and logged. This file is about such worlds (`ConnPool.World.Differ`), for any relation
between backends.

Closing a connection and rolling one back involves the backend that has opened it, which may report
an error and keeps a record. If that is the same in related backends, and if the records keep them
related (`ConnPool.Backend.Discreet`), then nothing that is done to a connection brings the
difference to light. Opening one is another matter, and depends on what the difference is
(`ConnPool.World.Differ.connect`).
-/

namespace ConnPool

open Driver (Alike)

/-- **A difference between backends is discreet**: backends that differ like this fail alike in
closing connections and in rolling them back, and what they record leaves them different like
this. -/
structure Backend.Discreet (ρ : Backend → Backend → Prop) : Prop where
  equiv : Equivalence ρ
  failClose : ∀ {b b' : Backend}, ρ b b' → b'.failClose = b.failClose
  failRollback : ∀ {b b' : Backend}, ρ b b' → b'.failRollback = b.failRollback
  recordClose : ∀ {b b' : Backend}, ρ b b' → ∀ serial,
    ρ (b.recordClose serial) (b'.recordClose serial)
  recordRollback : ∀ {b b' : Backend}, ρ b b' → ρ b.recordRollback b'.recordRollback

namespace World

/-- **Two worlds differ in their backends**, and in nothing else. -/
structure Differ (ρ : Backend → Backend → Prop) (w w' : World) : Prop where
  conns : w'.conns = w.conns
  manual : w'.manual = w.manual
  wall : w'.wall = w.wall
  backend : ∀ b, ρ (w.backend b) (w'.backend b)

namespace Differ

variable {ρ : Backend → Backend → Prop} {w w' : World}

theorem equivalence (hρ : Equivalence ρ) : Equivalence (Differ ρ) where
  refl _ := ⟨rfl, rfl, rfl, fun _ => hρ.refl _⟩
  symm h := ⟨h.conns.symm, h.manual.symm, h.wall.symm, fun b => hρ.symm (h.backend b)⟩
  trans h h' := ⟨h'.conns.trans h.conns, h'.manual.trans h.manual, h'.wall.trans h.wall,
    fun b => hρ.trans (h.backend b) (h'.backend b)⟩

theorem conn? (h : Differ ρ w w') (c : SimId) : w'.conn? c = w.conn? c := by
  rw [World.conn?, World.conn?, h.conns]

theorem updateConn (h : Differ ρ w w') (c : SimId) (f : SimConn → SimConn) :
    Differ ρ (w.updateConn c f) (w'.updateConn c f) :=
  { h with conns := congrArg (List.modify · c f) h.conns }

theorem updateBackend (h : Differ ρ w w') (x : Nat) {f f' : Backend → Backend}
    (hf : ρ (f (w.backend x)) (f' (w'.backend x))) :
    Differ ρ (w.updateBackend x f) (w'.updateBackend x f') where
  conns := h.conns
  manual := h.manual
  wall := h.wall
  backend b := by
    rw [backend_updateBackend, backend_updateBackend]
    by_cases hb : b = x
    · subst hb
      rwa [if_pos rfl, if_pos rfl]
    · rw [if_neg hb, if_neg hb]
      exact h.backend b

/-! ### Calls -/

/-- Opening a connection, if the two backends give the same answer. -/
theorem connect (h : Differ ρ w w') (b : Nat) {result : Except Fault Nat} {after after' : Backend}
    (hb : (w.backend b).attempt = (result, after)) (hb' : (w'.backend b).attempt = (result, after'))
    (hafter : ρ after after') (hbirth : after'.birth = after.birth) :
    Alike (Differ ρ) (w.connect b) (w'.connect b) := by
  have hw : Differ ρ (w.updateBackend b fun _ => after) (w'.updateBackend b fun _ => after') :=
    h.updateBackend b hafter
  rw [World.connect, World.connect, hb, hb']
  cases result with
  | error e => exact .mk _ hw
  | ok serial =>
    have hlength := congrArg List.length hw.conns
    simp only [hlength, hbirth]
    exact .mk _ { hw with conns := congrArg (· ++ _) hw.conns }

theorem close (h : Differ ρ w w') (hρ : Backend.Discreet ρ) (c : SimId) :
    Alike (Differ ρ) (w.close c) (w'.close c) := by
  rw [World.close, World.close, h.conn?]
  cases w.conn? c with
  | none => exact .mk _ h
  | some k =>
    have hmarked := (h.updateConn c fun k => { k with closed := true, closes := k.closes + 1 })
    have hafter := hmarked.updateBackend k.backend
      (hρ.recordClose (hmarked.backend k.backend) k.serial)
    cases hk : k.onClose with
    | obeys =>
      simp only [hk, hρ.failClose (h.backend k.backend)]
      split <;> exact .mk _ hafter
    | _ =>
      simp only [hk]
      exact .mk _ h

theorem rollback (h : Differ ρ w w') (hρ : Backend.Discreet ρ) (c : SimId) :
    Alike (Differ ρ) (w.rollback c) (w'.rollback c) := by
  rw [World.rollback, World.rollback, h.conn?]
  cases w.conn? c with
  | none => exact .mk _ h
  | some k =>
    have hidle := (h.updateConn c fun k => { k with status := .idle })
    have hafter := hidle.updateBackend k.backend (hρ.recordRollback (hidle.backend k.backend))
    cases hk : k.onRollback with
    | obeys =>
      simp only [hk, hρ.failRollback (h.backend k.backend)]
      split
      · exact .mk _ h
      · exact .mk _ hafter
    | _ =>
      simp only [hk]
      exact .mk _ h

theorem now (h : Differ ρ w w') (clock : ClockKind) :
    Alike (Differ ρ) (w.now clock) (w'.now clock) := by
  cases clock with
  | manual =>
    simp only [World.now, h.manual]
    exact .mk _ h
  | wall =>
    simp only [World.now, h.wall]
    exact .mk _ { h with wall := rfl }

theorem isClosed (h : Differ ρ w w') (c : SimId) : w'.isClosed c = w.isClosed c := by
  rw [World.isClosed, World.isClosed, h.conn?]

theorem status (h : Differ ρ w w') (c : SimId) : w'.status c = w.status c := by
  rw [World.status, World.status, h.conn?]

end Differ

/-- **What a discreet difference takes to be concealed** is that the factory conceals it. -/
theorem driver_conceals_of_discreet {ρ : Backend → Backend → Prop} (hρ : Backend.Discreet ρ)
    (b : Nat) (clock : ClockKind) {connect : World → Except Fault SimId × World}
    (hconnect : ∀ {w w' : World}, Differ ρ w w' → Alike (Differ ρ) (connect w) (connect w')) :
    Driver.Conceals { driver b clock with connect := connect } (Differ ρ) where
  connect h := hconnect h
  close c _ _ h := h.close hρ c
  isClosed c w w' h := ⟨w.isClosed c, w, w', rfl, Prod.ext (h.isClosed c) rfl, h⟩
  status c w w' h := ⟨w.status c, w, w', rfl, Prod.ext (h.status c) rfl, h⟩
  rollback c _ _ h := h.rollback hρ c
  now h := h.now clock

end World

end ConnPool
