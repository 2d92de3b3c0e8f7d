import ConnPool.Proofs.Pool.Calls
import ConnPool.Proofs.Simulation.World

/-!
# Events

Whatever happens to a simulated world is made of a few **events**: a connection is opened,
closed or rolled back, a clock is read or moved, a connection or a backend is told to behave
differently, a backend comes into being. `ConnPool.World.Event` lists them. The one event
that is not to happen at all times is a close, so the list depends on when a connection is
`allowed` to be closed.

What an event makes of a connection is `ConnPool.SimConn.Becomes`: the connection is closed
once more, or nothing that counts has changed. What it makes of the books of a backend is
told with the books.

Pools ask before they close (`ConnPool.Driver.recycle`, `ConnPool.Driver.shut`). So all they
do to a world is a sequence of events already if only open connections are allowed to be
closed (`ConnPool.World.driver_follows`).
-/

namespace ConnPool

open Relation (ReflTransGen)

/-! ### Harmless changes -/

/-- **A change of a connection is harmless** if it is the same connection, with as many
closes, and closed if it was. -/
structure SimConn.Keeps (f : SimConn → SimConn) : Prop where
  backend_eq : ∀ k, (f k).backend = k.backend
  serial_eq : ∀ k, (f k).serial = k.serial
  closes_eq : ∀ k, (f k).closes = k.closes
  closed_of_closed : ∀ k, k.closed = true → (f k).closed = true

/-- **A change of a backend is harmless** if it leaves what the backend has counted and
logged alone. -/
structure Backend.Keeps (f : Backend → Backend) : Prop where
  attempts_eq : ∀ b, (f b).attempts = b.attempts
  opened_eq : ∀ b, (f b).opened = b.opened
  closed_eq : ∀ b, (f b).closed = b.closed
  rollbacks_eq : ∀ b, (f b).rollbacks = b.rollbacks
  closeLog_eq : ∀ b, (f b).closeLog = b.closeLog

namespace World

/-! ### Looking a backend up -/

theorem backend_mention (w : World) (b x : Nat) : (w.mention b).backend x = w.backend x := by
  simp only [backend, mention, List.getD_eq_getElem?_getD, List.getElem?_append]
  split
  · rfl
  · rename_i hx
    rw [List.getElem?_eq_none (Nat.le_of_not_lt hx), List.getElem?_replicate]
    split <;> rfl

theorem backend_updateBackend (w : World) (b x : Nat) (f : Backend → Backend) :
    (w.updateBackend b f).backend x = if x = b then f (w.backend x) else w.backend x := by
  have hlt : b < (w.mention b).backends.length := by
    simp only [mention, List.length_append, List.length_replicate]
    omega
  rw [← backend_mention w b x]
  simp only [backend, updateBackend, List.getD_eq_getElem?_getD, List.getElem?_modify]
  by_cases hx : x = b
  · subst hx
    rw [if_pos rfl, List.getElem?_eq_getElem hlt]
    simp only [if_true, Option.map_eq_map, Option.map_some, Option.getD_some]
  · simp only [if_neg hx, if_neg (Ne.symm hx), Option.map_eq_map, Option.map_id']

/-- What a change leaves alone in a backend is as it was in all of them. -/
theorem read_updateBackend {α : Sort _} (read : Backend → α) (w : World) (b x : Nat)
    {f : Backend → Backend} (hf : ∀ a, read (f a) = read a) :
    read ((w.updateBackend b f).backend x) = read (w.backend x) := by
  rw [backend_updateBackend]
  split
  · exact hf _
  · rfl

/-! ### Events -/

/-- **An event in a world.** A connection is closed only where that is `allowed`. -/
inductive Event (allowed : SimId → World → Prop) : World → World → Prop
  /-- Somebody attempts to open a connection. -/
  | connect (b : Nat) (w : World) : Event allowed w (w.connect b).2
  /-- Somebody closes a connection. -/
  | close {c : SimId} {w : World} (hallowed : allowed c w) : Event allowed w (w.close c).2
  /-- Somebody rolls a connection back. -/
  | rollback (c : SimId) (w : World) : Event allowed w (w.rollback c).2
  /-- Somebody reads a clock. -/
  | read (clock : ClockKind) (w : World) : Event allowed w (w.now clock).2
  /-- The manual clock is moved. -/
  | advance (span : Duration) (w : World) : Event allowed w (w.advance span)
  /-- Backends come into being. -/
  | mention (b : Nat) (w : World) : Event allowed w (w.mention b)
  /-- A connection is changed, or told to behave differently. -/
  | adjust (c : SimId) {f : SimConn → SimConn} (hf : SimConn.Keeps f) (w : World) :
      Event allowed w (w.updateConn c f)
  /-- A backend is told to behave differently. -/
  | instruct (b : Nat) {f : Backend → Backend} (hf : Backend.Keeps f) (w : World) :
      Event allowed w (w.updateBackend b f)

end World

/-- **What an event makes of a connection.** It remains the connection it is; and it is closed
once more, if that `may` happen, or it keeps its number of closes and is closed if it
was. -/
structure SimConn.Becomes (may : Prop) (k k' : SimConn) : Prop where
  backend_eq : k'.backend = k.backend
  serial_eq : k'.serial = k.serial
  kept_or_closed : (k'.closes = k.closes ∧ (k.closed = true → k'.closed = true)) ∨
    (may ∧ k'.closes = k.closes + 1 ∧ k'.closed = true)

theorem SimConn.Becomes.refl {may : Prop} (k : SimConn) : k.Becomes may k :=
  ⟨rfl, rfl, Or.inl ⟨rfl, id⟩⟩

theorem SimConn.Keeps.becomes {f : SimConn → SimConn} (hf : SimConn.Keeps f) {may : Prop}
    (k : SimConn) : k.Becomes may (f k) :=
  ⟨hf.backend_eq k, hf.serial_eq k, Or.inl ⟨hf.closes_eq k, hf.closed_of_closed k⟩⟩

namespace World

variable {allowed : SimId → World → Prop} {w w' : World} {c : SimId} {k k' : SimConn}

/-- Changing one connection makes of each what it makes of that one, or nothing. -/
theorem becomes_updateConn (may : SimId → Prop) {f : SimConn → SimConn} {x : SimId}
    (hf : ∀ k, w.conn? x = some k → k.Becomes (may x) (f k)) (hk : w.conn? c = some k) :
    ∃ k', (w.updateConn x f).conn? c = some k' ∧ k.Becomes (may c) k' := by
  rw [conn?_updateConn, hk]
  by_cases hc : c = x
  · subst hc
    exact ⟨f k, if_pos rfl, hf k hk⟩
  · exact ⟨k, if_neg hc, .refl k⟩

/-- **No connection goes away**, and what becomes of it is one of two things. -/
theorem Event.becomes (h : Event allowed w w') (hk : w.conn? c = some k) :
    ∃ k', w'.conn? c = some k' ∧ k.Becomes (allowed c w) k' := by
  cases h with
  | connect b =>
    refine ⟨k, ?_, .refl k⟩
    rcases connect_cases w b with ⟨_, _, hw⟩ | hw
    · rw [hw]
      exact hk
    · obtain ⟨hlt, _⟩ := List.getElem?_eq_some_iff.mp hk
      rw [hw, conn?, List.getElem?_append_left hlt]
      exact hk
  | @close x _ hallowed =>
    rcases close_cases w x with ⟨_, hw⟩ | ⟨_, _, _, hw⟩
    · rw [hw]
      exact ⟨k, hk, .refl k⟩
    · rw [hw]
      refine becomes_updateConn (fun c => allowed c w) (fun k _ => ?_) hk
      exact ⟨rfl, rfl, Or.inr ⟨hallowed, rfl, rfl⟩⟩
  | rollback x =>
    rcases rollback_cases w x with hw | ⟨_, _, hw⟩
    · rw [hw]
      exact ⟨k, hk, .refl k⟩
    · rw [hw]
      refine becomes_updateConn (fun c => allowed c w) (fun k _ => ?_) hk
      exact ⟨rfl, rfl, Or.inl ⟨rfl, id⟩⟩
  | read clock =>
    refine ⟨k, ?_, .refl k⟩
    cases clock <;> exact hk
  | advance => exact ⟨k, hk, .refl k⟩
  | mention => exact ⟨k, hk, .refl k⟩
  | adjust x hf =>
    exact becomes_updateConn (fun c => allowed c w) (fun k _ => hf.becomes k) hk
  | instruct => exact ⟨k, hk, .refl k⟩

/-- A change of one connection brings none into being. -/
theorem conn?_updateConn_eq_none {f : SimConn → SimConn} {x : SimId} :
    (w.updateConn x f).conn? c = none ↔ w.conn? c = none := by
  rw [conn?_updateConn]
  by_cases hc : c = x <;> simp [hc]

/-- **A new connection has not been closed by anybody.** -/
theorem Event.born (h : Event allowed w w') (hnone : w.conn? c = none)
    (hk' : w'.conn? c = some k') : k'.closes = 0 := by
  -- all events but one bring no connection into being
  suffices hborn : (∃ b serial birth, k' = .born b serial birth) ∨ w'.conn? c = none by
    rcases hborn with ⟨b, serial, birth, rfl⟩ | hnone'
    · rfl
    · cases hk'.symm.trans hnone'
  cases h with
  | connect b =>
    rcases connect_cases w b with ⟨_, _, hw⟩ | hw
    · exact Or.inr (by rw [hw]; exact hnone)
    · rw [hw, conn?, List.getElem?_append_right (List.getElem?_eq_none_iff.mp hnone)] at hk'
      have hmem := List.mem_of_getElem? hk'
      exact Or.inl ⟨_, _, _, List.mem_singleton.mp hmem⟩
  | @close x =>
    refine Or.inr ?_
    rcases close_cases w x with ⟨_, hw⟩ | ⟨_, _, _, hw⟩ <;> rw [hw]
    · exact hnone
    · exact conn?_updateConn_eq_none.mpr hnone
  | rollback x =>
    refine Or.inr ?_
    rcases rollback_cases w x with hw | ⟨_, _, hw⟩ <;> rw [hw]
    · exact hnone
    · exact conn?_updateConn_eq_none.mpr hnone
  | read clock => exact Or.inr (by cases clock <;> exact hnone)
  | advance => exact Or.inr hnone
  | mention => exact Or.inr hnone
  | adjust => exact Or.inr (conn?_updateConn_eq_none.mpr hnone)
  | instruct => exact Or.inr hnone

/-- **What survives every event** survives any number of them. -/
theorem events_invariant {P : World → Prop} (hstep : ∀ {v v'}, Event allowed v v' → P v → P v')
    (h : ReflTransGen (Event allowed) w w') (hw : P w) : P w' :=
  steps_invariant (I := P) (fun _ _ hevent => hstep hevent) h hw

/-! ### Pools -/

/-- **All that a pool does to a world are events**, among them no close but of an open
connection. -/
theorem driver_follows (hopen : ∀ c w, w.isClosed c = false → allowed c w) (b : Nat)
    (clock : ClockKind) : (driver b clock).Follows (ReflTransGen (Event allowed)) where
  refl _ := .refl
  trans := ReflTransGen.trans
  connect {w w'} _ h := by
    obtain rfl : (w.connect b).2 = w' := congrArg Prod.snd h
    exact .single (.connect b w)
  now {w w'} _ h := by
    obtain rfl : (w.now clock).2 = w' := congrArg Prod.snd h
    exact .single (.read clock w)
  shut {c w w'} result h := by
    have hend := (driver b clock).shutDown c w
    rw [h] at hend
    cases hend with
    | alreadyClosed hclosed =>
      obtain ⟨_, rfl⟩ := Prod.mk.inj hclosed
      exact .refl
    | closed hclosed hclose =>
      obtain ⟨hno, rfl⟩ := Prod.mk.inj hclosed
      obtain rfl : (w.close c).2 = w' := congrArg Prod.snd hclose
      exact .single (.close (hopen c w hno))
    | failed hclosed hclose =>
      obtain ⟨hno, rfl⟩ := Prod.mk.inj hclosed
      obtain rfl : (w.close c).2 = w' := congrArg Prod.snd hclose
      exact .single (.close (hopen c w hno))
  recycle {c w w'} outcome h := by
    have hend := (driver b clock).recycled c w
    rw [h] at hend
    cases hend with
    | alreadyClosed hclosed =>
      obtain ⟨_, rfl⟩ := Prod.mk.inj hclosed
      exact .refl
    | reusable hclosed hstatus =>
      obtain ⟨_, rfl⟩ := Prod.mk.inj hclosed
      obtain ⟨_, rfl⟩ := Prod.mk.inj hstatus
      exact .refl
    | statusUnknown hclosed hstatus hclose =>
      obtain ⟨hno, rfl⟩ := Prod.mk.inj hclosed
      obtain ⟨_, rfl⟩ := Prod.mk.inj hstatus
      obtain rfl : (w.close c).2 = w' := congrArg Prod.snd hclose
      exact .single (.close (hopen c w hno))
    | rolledBack hclosed hstatus _ _ hrollback =>
      obtain ⟨_, rfl⟩ := Prod.mk.inj hclosed
      obtain ⟨_, rfl⟩ := Prod.mk.inj hstatus
      obtain rfl : (w.rollback c).2 = w' := congrArg Prod.snd hrollback
      exact .single (.rollback c w)
    | @rollbackFailed _ _ w₃ _ _ _ _ hclosed hstatus _ _ hrollback hclose =>
      obtain ⟨hno, rfl⟩ := Prod.mk.inj hclosed
      obtain ⟨_, rfl⟩ := Prod.mk.inj hstatus
      -- a rollback that fails has done nothing, so the connection is as open as before
      obtain rfl : w₃ = w := by
        have hfailed : w.rollback c = _ := hrollback
        rcases rollback_cases w c with hw | ⟨hok, _⟩
        · exact (congrArg Prod.snd hfailed).symm.trans hw
        · rw [hfailed] at hok
          cases hok
      obtain rfl : (w₃.close c).2 = w' := congrArg Prod.snd hclose
      exact .single (.close (hopen c w₃ hno))

end World

end ConnPool
