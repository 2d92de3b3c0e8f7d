import ConnPool.Proofs.Pool.Apart
import ConnPool.Proofs.Pool.Permits
import ConnPool.Proofs.Simulation.World

/-!
# Simulated connections that nobody touches

A simulated world never opens a connection that it has already
(`ConnPool.World.driver_opensNew`), and nothing happens to a connection while others are
opened, closed and rolled back. So a pool that answers a request leaves every connection as it
is that none of its calls touches (`ConnPool.World.conn?_serve`).
-/

namespace ConnPool

namespace World

open Driver (Call)

variable {w w' : World} {c : SimId}

/-! ### Connections there are -/

/-- A connection is known to a world: somebody has opened it there. -/
def Known (c : SimId) (w : World) : Prop := ∃ k, w.conn? c = some k

/-- Connections are numbered in the order in which they have been opened. -/
theorem known_iff_lt : Known c w ↔ c < w.conns.length := by
  constructor
  · rintro ⟨_, hk⟩
    exact (List.getElem?_eq_some_iff.mp hk).1
  · exact fun hc => ⟨_, List.getElem?_eq_getElem hc⟩

theorem Later.known (h : Later w w') (hc : Known c w) : Known c w' := by
  obtain ⟨k, hk⟩ := hc
  obtain ⟨k', hk', _⟩ := h c k hk
  exact ⟨k', hk'⟩

/-- **A simulated connection is new when it is opened.** -/
theorem driver_opensNew (b : Nat) (clock : ClockKind) : (driver b clock).OpensNew Known where
  refl _ _ := id
  trans h h' c := h' c ∘ h c
  close h _ := (later_close h).known
  isClosed h _ := ((driver_closesForGood b clock).isClosed h).known
  status h _ := ((driver_closesForGood b clock).status h).known
  rollback h _ := (later_rollback h).known
  now h _ := (later_now h).known
  connect h _ := (later_connect h).known
  fresh {w w' c} h := by
    replace h : w.connect b = (.ok c, w') := h
    rcases connect_cases w b with ⟨_, _, hw⟩ | hw
    · cases hw.symm.trans h
    · cases hw.symm.trans h
      exact ⟨fun h => Nat.lt_irrefl _ (known_iff_lt.mp h), _, List.getElem?_concat_length⟩

/-! ### Connections nobody touches -/

/-- **What no call has touched is as it was.** -/
def Untouched (s s' : World × List (Call SimId Fault)) : Prop :=
  ∃ calls, s'.2 = s.2 ++ calls ∧ ∀ c, Known c s.1 → (∀ call ∈ calls, ¬call.Touches c) →
    s'.1.conn? c = s.1.conn? c

variable {s s' s'' : World × List (Call SimId Fault)}

theorem Untouched.of_read (hlog : s'.2 = s.2) (hconns : s'.1.conns = s.1.conns) :
    Untouched s s' := by
  refine ⟨[], hlog.trans (List.append_nil _).symm, fun c _ _ => ?_⟩
  rw [conn?, conn?, hconns]

/-- One call has been made, and the connections it has not touched are as they were. -/
theorem Untouched.of_call {call : Call SimId Fault} (hlog : s'.2 = s.2 ++ [call])
    (hconn : ∀ c, Known c s.1 → ¬call.Touches c → s'.1.conn? c = s.1.conn? c) :
    Untouched s s' :=
  ⟨[call], hlog, fun c hc hnone => hconn c hc (hnone call List.mem_cons_self)⟩

theorem Untouched.trans (h : Untouched s s') (h' : Untouched s' s'') : Untouched s s'' := by
  obtain ⟨calls, hcalls, hsame⟩ := h
  obtain ⟨calls', hcalls', hsame'⟩ := h'
  refine ⟨calls ++ calls', by rw [hcalls', hcalls, List.append_assoc], fun c hc hnone => ?_⟩
  obtain ⟨hbefore, hafter⟩ := List.forall_mem_append.mp hnone
  have hmid := hsame c hc hbefore
  have hknown : Known c s'.1 := hc.imp fun k hk => hmid.trans hk
  exact (hsame' c hknown hafter).trans hmid

/-- Changing one connection leaves the others as they are. -/
theorem conn?_updateConn_of_ne {x : SimId} (hne : c ≠ x) (f : SimConn → SimConn) :
    (w.updateConn x f).conn? c = w.conn? c := by
  rw [conn?_updateConn, if_neg hne]

theorem conn?_close_of_ne {x : SimId} (hne : c ≠ x) : (w.close x).2.conn? c = w.conn? c := by
  rcases close_cases w x with ⟨_, hw⟩ | ⟨_, _, _, hw⟩ <;> rw [hw]
  exact conn?_updateConn_of_ne hne _

theorem conn?_rollback_of_ne {x : SimId} (hne : c ≠ x) :
    (w.rollback x).2.conn? c = w.conn? c := by
  rcases rollback_cases w x with hw | ⟨_, _, hw⟩ <;> rw [hw]
  exact conn?_updateConn_of_ne hne _

theorem conn?_connect_of_known (b : Nat) (hc : Known c w) :
    (w.connect b).2.conn? c = w.conn? c := by
  obtain ⟨k, hk⟩ := hc
  rcases connect_cases w b with ⟨_, _, hw⟩ | hw <;> rw [hw]
  · rfl
  · rw [conn?, List.getElem?_append_left (List.getElem?_eq_some_iff.mp hk).1]
    rfl

/-- **A pool leaves alone what it does not touch.** -/
theorem driver_follows_untouched (b : Nat) (clock : ClockKind) :
    (driver b clock).logged.Follows Untouched := by
  refine Driver.Along.follows (R := Untouched) ?_ fun h => ?_
  · constructor
    · exact fun s => .of_read rfl rfl
    · exact Untouched.trans
    · intro x s s' result h
      cases h
      refine .of_call rfl fun c _ hnot => conn?_close_of_ne ?_
      rintro rfl
      exact hnot (.close c _)
    · intro x s s' answer h
      cases h
      exact .of_read rfl rfl
    · intro x s s' answer h
      cases h
      exact .of_read rfl rfl
    · intro x s s' result h
      cases h
      refine .of_call rfl fun c _ hnot => conn?_rollback_of_ne ?_
      rintro rfl
      exact hnot (.rollback c _)
    · intro s s' reading h
      cases h
      exact .of_read rfl (by cases clock <;> rfl)
  · cases h
    exact .of_call rfl fun c hc _ => conn?_connect_of_known b hc

theorem conn?_serve (b : Nat) (clock : ClockKind) (r : Request (Handle SimId)) (p : Pool SimId)
    (hc : Known c w) (hnone : ∀ call ∈ p.calls (driver b clock) r w, ¬call.Touches c) :
    (p.serve (driver b clock) r w).2.2.conn? c = w.conn? c := by
  have hfollows := Pool.serve_follows (driver_follows_untouched b clock) r p (w, [])
  rw [Pool.serve_logged] at hfollows
  obtain ⟨calls, hcalls, hsame⟩ := hfollows
  obtain rfl : p.calls (driver b clock) r w = calls := hcalls
  exact hsame c hc hnone

end World

end ConnPool
