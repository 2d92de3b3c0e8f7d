import ConnPool.Proofs.Driver
import ConnPool.Simulation.World

/-!
# Simulated connections close for good

What opening a connection, closing it and rolling it back do to a simulated world is told
here case by case (`ConnPool.World.connect_cases`, `ConnPool.World.close_cases`,
`ConnPool.World.rollback_cases`), and nowhere else has any of them to be taken apart.

A simulated connection that does as it is told is closed by a close, even by one that the
backend reports to have failed, and nothing ever opens it again. So the drivers of
simulated worlds are drivers whose connections close for good
(`ConnPool.World.driver_closesForGood`). The world is free to do anything else in the
meantime: to cut links, to change statuses, to open and close connections of its own and
to make its backends fail.
-/

namespace ConnPool

/-- **An attempt to open a connection is counted.** If it is refused, a refusal may have been
spent; otherwise the connection gets the next serial number. -/
theorem Backend.attempt_cases (b : Backend) :
    (∃ refusals, b.attempt = (.error (.connectRefused (b.attempts + 1)),
        { b with attempts := b.attempts + 1, refusals := refusals })) ∨
      b.attempt = (.ok (b.opened + 1),
        { b with attempts := b.attempts + 1, opened := b.opened + 1 }) := by
  unfold attempt
  split
  · exact Or.inl ⟨b.refusals, rfl⟩
  · split
    · exact Or.inr rfl
    · exact Or.inl ⟨b.refusals - 1, rfl⟩

namespace World

/-! ### Looking a connection up -/

theorem conn?_updateConn (w : World) (c x : SimId) (f : SimConn → SimConn) :
    (w.updateConn c f).conn? x = if x = c then (w.conn? x).map f else w.conn? x := by
  simp only [conn?, updateConn, List.getElem?_modify]
  by_cases h : x = c
  · simp [h]
  · simp [h, Ne.symm h]

theorem isClosed_of_conn? {w : World} {c : SimId} {k : SimConn} (hk : w.conn? c = some k) :
    w.isClosed c = k.closed := by
  rw [isClosed, hk, Option.all_some]

theorem status_of_conn? {w : World} {c : SimId} {k : SimConn} (hk : w.conn? c = some k) :
    w.status c = k.status := by
  rw [status, hk, Option.map_some, Option.getD_some]

/-! ### Later worlds -/

/-- **A world is later than another**: every connection is still there, closed if it was
closed, and closing as it is told if it did. -/
def Later (w w' : World) : Prop :=
  ∀ c k, w.conn? c = some k → ∃ k', w'.conn? c = some k' ∧
    (k.onClose = .obeys → k'.onClose = .obeys) ∧ (k.closed = true → k'.closed = true)

/-- A connection exists, and closes as it is told. -/
def Obeys (c : SimId) (w : World) : Prop := ∃ k, w.conn? c = some k ∧ k.onClose = .obeys

theorem obeys_iff {c : SimId} {w : World} {k : SimConn} (hc : w.conn? c = some k) :
    Obeys c w ↔ k.onClose = .obeys := by
  constructor
  · rintro ⟨k', hk', hobeys⟩
    cases hc.symm.trans hk'
    exact hobeys
  · exact fun hobeys => ⟨k, hc, hobeys⟩

theorem later_refl (w : World) : Later w w := fun _ k hk => ⟨k, hk, id, id⟩

theorem Later.trans {u v w : World} (h : Later u v) (h' : Later v w) : Later u w := by
  intro c k hk
  obtain ⟨k', hk', hobeys, hclosed⟩ := h c k hk
  obtain ⟨k'', hk'', hobeys', hclosed'⟩ := h' c k' hk'
  exact ⟨k'', hk'', hobeys' ∘ hobeys, hclosed' ∘ hclosed⟩

theorem later_of_conn?_eq {w w' : World} (h : ∀ c k, w.conn? c = some k → w'.conn? c = some k) :
    Later w w' := fun c k hk => ⟨k, h c k hk, id, id⟩

/-- Changing a connection leads to a later world, unless it is opened again or told not to
close. -/
theorem later_updateConn (w : World) (c : SimId) {f : SimConn → SimConn}
    (hobeys : ∀ k, (f k).onClose = k.onClose)
    (hclosed : ∀ k, k.closed = true → (f k).closed = true) : Later w (w.updateConn c f) := by
  intro x k hk
  rw [conn?_updateConn, hk]
  by_cases hx : x = c
  · exact ⟨f k, if_pos hx, fun h => (hobeys k).trans h, hclosed k⟩
  · exact ⟨k, if_neg hx, id, id⟩

/-! ### What the calls of a driver do -/

/-- Opening a connection leaves the world with one more of them, or with the same. -/
theorem connect_cases (w : World) (b : Nat) :
    (∃ e refusals, w.connect b = (.error e, w.updateBackend b fun _ =>
        { w.backend b with attempts := (w.backend b).attempts + 1, refusals := refusals })) ∨
      w.connect b = (.ok w.conns.length,
        { w.updateBackend b fun _ =>
            { w.backend b with
              attempts := (w.backend b).attempts + 1
              opened := (w.backend b).opened + 1 } with
          conns := w.conns ++ [.born b ((w.backend b).opened + 1) (w.backend b).birth] }) := by
  rw [connect]
  rcases (w.backend b).attempt_cases with ⟨refusals, hrefused⟩ | hopened
  · rw [hrefused]
    exact Or.inl ⟨_, refusals, rfl⟩
  · rw [hopened]
    exact Or.inr rfl

/-- Closing a connection that does as it is told marks it and enters it in the log of its
backend, also if it is reported to fail. Closing any other does nothing. -/
theorem close_cases (w : World) (c : SimId) :
    (¬Obeys c w ∧ (w.close c).2 = w) ∨ ∃ k, w.conn? c = some k ∧ k.onClose = .obeys ∧
      (w.close c).2 = (w.updateConn c fun k =>
        { k with closed := true, closes := k.closes + 1 }).updateBackend
          k.backend (Backend.recordClose k.serial) := by
  rw [close]
  cases hc : w.conn? c with
  | none =>
    refine Or.inl ⟨?_, rfl⟩
    rintro ⟨k, hk, _⟩
    cases hc.symm.trans hk
  | some k =>
    rw [obeys_iff hc]
    cases hk : k.onClose with
    | obeys =>
      refine Or.inr ⟨k, rfl, hk, ?_⟩
      simp only [hk]
      split <;> rfl
    | _ =>
      refine Or.inl ⟨by decide, ?_⟩
      simp only [hk]

/-- Rolling a connection back does nothing, or makes it idle and is counted; and it does
nothing if it fails. -/
theorem rollback_cases (w : World) (c : SimId) :
    (w.rollback c).2 = w ∨ ((w.rollback c).1 = .ok () ∧ ∃ b, (w.rollback c).2 =
      (w.updateConn c fun k => { k with status := .idle }).updateBackend b
        Backend.recordRollback) := by
  rw [rollback]
  cases hc : w.conn? c with
  | none => exact Or.inl rfl
  | some k =>
    cases hk : k.onRollback with
    | obeys =>
      simp only [hk]
      split
      · exact Or.inl rfl
      · exact Or.inr ⟨rfl, k.backend, rfl⟩
    | _ => simp only [hk, true_or]

/-- Opening a connection leaves the others as they are. -/
theorem conn?_connect {b : Nat} {w w' : World} {result : Except Fault SimId} {c : SimId}
    {k : SimConn} (h : w.connect b = (result, w')) (hk : w.conn? c = some k) :
    w'.conn? c = some k := by
  obtain rfl : (w.connect b).2 = w' := congrArg Prod.snd h
  rcases connect_cases w b with ⟨_, _, hw⟩ | hw <;> rw [hw]
  · exact hk
  · obtain ⟨hlt, _⟩ := List.getElem?_eq_some_iff.mp hk
    rw [conn?, List.getElem?_append_left hlt]
    exact hk

theorem later_connect {b : Nat} {w w' : World} {result : Except Fault SimId}
    (h : w.connect b = (result, w')) : Later w w' :=
  later_of_conn?_eq fun _ _ => conn?_connect h

theorem obeys_of_connect {b : Nat} {w w' : World} {c : SimId}
    (h : w.connect b = (.ok c, w')) : Obeys c w' := by
  rcases connect_cases w b with ⟨_, _, hw⟩ | hw
  · cases hw.symm.trans h
  · cases hw.symm.trans h
    exact ⟨_, List.getElem?_concat_length, rfl⟩

theorem later_close {c : SimId} {w w' : World} {result : Except Fault Unit}
    (h : w.close c = (result, w')) : Later w w' := by
  obtain rfl : (w.close c).2 = w' := congrArg Prod.snd h
  rcases close_cases w c with ⟨_, hw⟩ | ⟨_, _, _, hw⟩ <;> rw [hw]
  · exact later_refl w
  · exact later_updateConn w c (fun _ => rfl) fun _ _ => rfl

theorem isClosed_of_close {c : SimId} {w w' : World} {result : Except Fault Unit}
    (hc : Obeys c w) (h : w.close c = (result, w')) : w'.isClosed c = true := by
  obtain rfl : (w.close c).2 = w' := congrArg Prod.snd h
  rcases close_cases w c with ⟨hnot, _⟩ | ⟨k, hk, _, hw⟩
  · exact absurd hc hnot
  · have hconn : (w.close c).2.conn? c =
        some { k with closed := true, closes := k.closes + 1 } := by
      rw [hw]
      show (w.updateConn c _).conn? c = _
      rw [conn?_updateConn, if_pos rfl, hk]
      rfl
    exact isClosed_of_conn? hconn

theorem later_rollback {c : SimId} {w w' : World} {result : Except Fault Unit}
    (h : w.rollback c = (result, w')) : Later w w' := by
  obtain rfl : (w.rollback c).2 = w' := congrArg Prod.snd h
  rcases rollback_cases w c with hw | ⟨_, _, hw⟩ <;> rw [hw]
  · exact later_refl w
  · exact later_updateConn w c (fun _ => rfl) fun _ => id

theorem later_now {clock : ClockKind} {w w' : World} {reading : Instant}
    (h : w.now clock = (reading, w')) : Later w w' := by
  cases clock <;> cases h <;> exact later_of_conn?_eq fun _ _ hk => hk

/-! ### The driver -/

theorem isClosed_of_later {c : SimId} {w w' : World} (h : Later w w') (hc : Obeys c w)
    (hclosed : w.isClosed c = true) : w'.isClosed c = true := by
  obtain ⟨k, hk, _⟩ := hc
  obtain ⟨k', hk', _, hkeeps⟩ := h c k hk
  rw [isClosed_of_conn? hk] at hclosed
  rw [isClosed_of_conn? hk']
  exact hkeeps hclosed

/-- **Simulated connections close for good**, whatever the backends report, as long as they
do as they are told. -/
theorem driver_closesForGood (b : Nat) (clock : ClockKind) :
    (driver b clock).ClosesForGood Later Obeys where
  refl := later_refl
  trans := Later.trans
  close := later_close
  isClosed h := by
    cases h
    exact later_refl _
  status h := by
    cases h
    exact later_refl _
  rollback := later_rollback
  now := later_now
  connect := later_connect
  known_of_connect := obeys_of_connect
  known_of_later h hc := by
    obtain ⟨k, hk, hobeys⟩ := hc
    obtain ⟨k', hk', hkeeps, _⟩ := h _ k hk
    exact ⟨k', hk', hkeeps hobeys⟩
  closed_of_later := isClosed_of_later
  closed_of_close := isClosed_of_close

end World

end ConnPool
