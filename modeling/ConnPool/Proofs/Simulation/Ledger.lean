import ConnPool.Proofs.Simulation.Events

/-!
# The books of a backend

A backend numbers the connections it opens and logs the closes that reach it; a connection
counts the closes of its own. All of these are kept apart, and the connections of several
backends stand in one list. `ConnPool.World.Audited` says that they agree: the serial numbers
of a backend's connections are `1`, `2`, … in order of opening, up to the number it has
opened, and a serial number is in its log as often as the connections with that number have
been closed.

Every event keeps the books right (`ConnPool.World.Event.audited`), a close of a connection
that is closed already included. What that comes to for a single connection is
`ConnPool.World.Audited.count_closeLog`.
-/

namespace ConnPool

/-- The line of a connection in the ledger of its backend. -/
def SimConn.line (k : SimConn) : Nat × Nat := (k.serial, k.closes)

namespace World

/-! ### Ledgers -/

/-- **The ledger of a backend**: the serial number of each of its connections, and how many
closes of it have been counted, in order of opening. -/
def ledger (b : Nat) (w : World) : List (Nat × Nat) :=
  (w.conns.filter fun k => k.backend = b).map SimConn.line

/-- How many closes a ledger shows for a serial number. -/
def closesOf (s : Nat) : List (Nat × Nat) → Nat
  | [] => 0
  | e :: l => (if e.1 = s then e.2 else 0) + closesOf s l

@[simp] theorem closesOf_nil (s : Nat) : closesOf s [] = 0 := rfl

@[simp] theorem closesOf_cons (s : Nat) (e : Nat × Nat) (l : List (Nat × Nat)) :
    closesOf s (e :: l) = (if e.1 = s then e.2 else 0) + closesOf s l := rfl

@[simp] theorem closesOf_append (s : Nat) (l l' : List (Nat × Nat)) :
    closesOf s (l ++ l') = closesOf s l + closesOf s l' := by
  induction l with
  | nil => exact (Nat.zero_add _).symm
  | cons e l ih => rw [List.cons_append, closesOf_cons, closesOf_cons, ih, Nat.add_assoc]

theorem closesOf_eq_zero {s : Nat} {l : List (Nat × Nat)} (h : s ∉ l.map Prod.fst) :
    closesOf s l = 0 := by
  induction l with
  | nil => rfl
  | cons e l ih =>
    rw [List.map_cons, List.mem_cons, not_or] at h
    rw [closesOf_cons, if_neg (Ne.symm h.1), ih h.2]

/-- In a ledger without two entries for a number, the entry of a number shows its closes. -/
theorem closesOf_of_mem {l : List (Nat × Nat)} (hl : (l.map Prod.fst).Nodup) {s n : Nat}
    (h : (s, n) ∈ l) : closesOf s l = n := by
  induction l with
  | nil => cases h
  | cons e l ih =>
    rw [List.map_cons, List.nodup_cons] at hl
    rcases List.mem_cons.mp h with rfl | h
    · rw [closesOf_cons, if_pos rfl, closesOf_eq_zero hl.1, Nat.add_zero]
    · have hne : e.1 ≠ s := fun hs => hl.1 (hs ▸ List.mem_map_of_mem h)
      rw [closesOf_cons, if_neg hne, ih hl.2 h, Nat.zero_add]

variable {w w' : World} {c : SimId} {k : SimConn}

/-- **Changing a connection changes one line**, in the ledger of its backend. -/
theorem ledger_updateConn (hc : w.conn? c = some k) {f : SimConn → SimConn}
    (hf : (f k).backend = k.backend) (b : Nat) : ∃ above below,
      w.ledger b = above ++ (if b = k.backend then [k.line] else []) ++ below ∧
        (w.updateConn c f).ledger b =
          above ++ (if b = k.backend then [(f k).line] else []) ++ below := by
  obtain ⟨hlt, hk⟩ := List.getElem?_eq_some_iff.mp hc
  have hconns : w.conns = w.conns.take c ++ k :: w.conns.drop (c + 1) := by
    rw [← hk, List.getElem_cons_drop, List.take_append_drop]
  have hupdate : (w.updateConn c f).conns = w.conns.take c ++ f k :: w.conns.drop (c + 1) := by
    rw [updateConn, List.modify_eq_take_cons_drop hlt, hk]
  refine ⟨((w.conns.take c).filter fun k => k.backend = b).map SimConn.line,
    ((w.conns.drop (c + 1)).filter fun k => k.backend = b).map SimConn.line, ?_, ?_⟩
  · rw [ledger]
    nth_rewrite 1 [hconns]
    simp only [List.filter_append, List.filter_cons, List.map_append, decide_eq_true_eq,
      eq_comm (a := b)]
    split <;> simp
  · rw [ledger, hupdate]
    simp only [List.filter_append, List.filter_cons, List.map_append, decide_eq_true_eq, hf,
      eq_comm (a := b)]
    split <;> simp

/-- A change that keeps the lines keeps the ledgers. -/
theorem ledger_updateConn_of_line_eq {f : SimConn → SimConn}
    (hbackend : ∀ k, (f k).backend = k.backend) (hline : ∀ k, (f k).line = k.line) (b : Nat) :
    (w.updateConn c f).ledger b = w.ledger b := by
  cases hc : w.conn? c with
  | none =>
    have hsame : (w.updateConn c f).conns = w.conns :=
      List.modify_eq_self (List.getElem?_eq_none_iff.mp hc)
    rw [ledger, hsame, ledger]
  | some k =>
    obtain ⟨above, below, hold, hnew⟩ := ledger_updateConn hc (hbackend k) b
    rw [hnew, hold, hline]

theorem ledger_of_conns_eq (h : w'.conns = w.conns) (b : Nat) : w'.ledger b = w.ledger b := by
  rw [ledger, h, ledger]

/-- A new connection gets a line at the end. -/
theorem ledger_of_conns_append (h : w'.conns = w.conns ++ [k]) (b : Nat) :
    w'.ledger b = w.ledger b ++ if b = k.backend then [k.line] else [] := by
  simp only [ledger, h, List.filter_append, List.map_append, List.filter_cons, List.filter_nil,
    decide_eq_true_eq, eq_comm (a := b)]
  split <;> rfl

/-! ### What the calls do to a backend and its ledger -/

/-- An attempt concerns the backend at which it is made. -/
theorem backend_connect (w : World) (a b : Nat) :
    (w.connect a).2.backend b = if b = a then (w.backend a).attempt.2 else w.backend b := by
  have hbackend := backend_updateBackend w a b fun _ => (w.backend a).attempt.2
  rw [← hbackend, connect]
  rcases (w.backend a).attempt with ⟨_ | serial, after⟩ <;> rfl

theorem connect_of_error {b : Nat} {e : Fault} (h : (w.backend b).attempt.1 = .error e) :
    (w.connect b).1 = .error e ∧ (w.connect b).2.conns = w.conns := by
  rw [connect]
  rcases hattempt : (w.backend b).attempt with ⟨_ | serial, after⟩ <;> rw [hattempt] at h <;>
    cases h
  exact ⟨rfl, rfl⟩

theorem connect_of_ok {b serial : Nat} (h : (w.backend b).attempt.1 = .ok serial) :
    (w.connect b).1 = .ok w.conns.length ∧ (w.connect b).2.conns =
      w.conns ++ [.born b serial (w.backend b).attempt.2.birth] := by
  rw [connect]
  rcases hattempt : (w.backend b).attempt with ⟨_ | serial, after⟩ <;> rw [hattempt] at h <;>
    cases h
  exact ⟨rfl, rfl⟩

theorem ledger_connect_of_error {b : Nat} {e : Fault} (h : (w.backend b).attempt.1 = .error e)
    (x : Nat) : (w.connect b).2.ledger x = w.ledger x :=
  ledger_of_conns_eq (connect_of_error h).2 x

/-- A new connection has been closed by nobody. -/
theorem ledger_connect_of_ok {b serial : Nat} (h : (w.backend b).attempt.1 = .ok serial)
    (x : Nat) : (w.connect b).2.ledger x = w.ledger x ++ if x = b then [(serial, 0)] else [] :=
  ledger_of_conns_append (connect_of_ok h).2 x

/-- A close that reaches its backend marks the connection and is recorded. -/
theorem close_of_obeys (hk : w.conn? c = some k) (hobeys : k.onClose = .obeys) :
    (w.close c).2 = (w.updateConn c fun k =>
      { k with closed := true, closes := k.closes + 1 }).updateBackend
        k.backend (Backend.recordClose k.serial) := by
  rcases close_cases w c with ⟨hdeaf, _⟩ | ⟨k', hk', _, hw⟩
  · exact absurd ((obeys_iff hk).mpr hobeys) hdeaf
  · obtain rfl : k = k' := Option.some.inj (hk.symm.trans hk')
    exact hw

theorem backend_close (hk : w.conn? c = some k) (hobeys : k.onClose = .obeys) (b : Nat) :
    (w.close c).2.backend b =
      if b = k.backend then (w.backend b).recordClose k.serial else w.backend b := by
  rw [close_of_obeys hk hobeys]
  exact backend_updateBackend _ _ _ _

/-- The line of the connection shows one close more. -/
theorem ledger_close (hk : w.conn? c = some k) (hobeys : k.onClose = .obeys) (b : Nat) :
    ∃ above below, w.ledger b = above ++ (if b = k.backend then [k.line] else []) ++ below ∧
      (w.close c).2.ledger b =
        above ++ (if b = k.backend then [(k.serial, k.closes + 1)] else []) ++ below := by
  rw [close_of_obeys hk hobeys]
  exact ledger_updateConn hk rfl b

/-! ### Books that are right -/

/-- **The books of a world are right.** -/
structure Audited (w : World) : Prop where
  /-- The connections of a backend have the numbers from one on, in order of opening. -/
  serials : ∀ b, (w.ledger b).map Prod.fst = List.range' 1 (w.backend b).opened
  /-- A number is in the log of a backend as often as its ledger shows. -/
  logged : ∀ b s, (w.backend b).closeLog.count s = closesOf s (w.ledger b)

theorem audited_empty : Audited {} where
  serials _ := rfl
  logged _ _ := rfl

/-- Books that have not changed are right if they were. -/
theorem Audited.congr (h : w.Audited) (hledger : ∀ b, w'.ledger b = w.ledger b)
    (hopened : ∀ b, (w'.backend b).opened = (w.backend b).opened)
    (hlog : ∀ b, (w'.backend b).closeLog = (w.backend b).closeLog) : w'.Audited where
  serials b := by rw [hledger, hopened, h.serials]
  logged b s := by rw [hledger, hlog, h.logged]

/-- A change of a backend changes what it has opened and logged only if the change says
so. -/
theorem Audited.updateBackend (h : w.Audited) {x : Nat} {f : Backend → Backend}
    (hledger : ∀ b, w'.ledger b = w.ledger b) (hbackend : ∀ b, w'.backend b = w.backend b)
    (hopened : (f (w.backend x)).opened = (w.backend x).opened)
    (hlog : (f (w.backend x)).closeLog = (w.backend x).closeLog) :
    (w'.updateBackend x f).Audited := by
  refine h.congr hledger (fun b => ?_) fun b => ?_ <;>
    rw [backend_updateBackend, hbackend] <;> split
  · rename_i hb
    rw [hb, hopened]
  · rfl
  · rename_i hb
    rw [hb, hlog]
  · rfl

theorem Audited.connect (h : w.Audited) (b : Nat) : (w.connect b).2.Audited := by
  have hbackend := backend_connect w b
  rcases (w.backend b).attempt_cases with ⟨refusals, hattempt⟩ | hattempt
  · have hledger := ledger_connect_of_error (congrArg Prod.fst hattempt)
    rw [hattempt] at hbackend
    refine h.congr hledger (fun x => ?_) fun x => ?_ <;> rw [hbackend] <;>
      split
    · rename_i hx
      rw [hx]
    · rfl
    · rename_i hx
      rw [hx]
    · rfl
  · -- the backend has a new line in its ledger, with the next number and no closes
    have hledger := ledger_connect_of_ok (congrArg Prod.fst hattempt)
    rw [hattempt] at hbackend
    refine ⟨fun x => ?_, fun x s => ?_⟩
    · rw [hledger, hbackend]
      by_cases hx : x = b
      · rw [hx, if_pos rfl, if_pos rfl, List.map_append, h.serials, List.range'_1_concat,
          Nat.add_comm 1]
        rfl
      · rw [if_neg hx, if_neg hx, List.append_nil, h.serials]
    · rw [hledger, hbackend, closesOf_append, ← h.logged]
      by_cases hx : x = b
      · rw [hx, if_pos rfl, if_pos rfl, closesOf_cons, closesOf_nil, ite_self]
        rfl
      · rw [if_neg hx, if_neg hx, closesOf_nil, Nat.add_zero]

theorem Audited.close (h : w.Audited) (c : SimId) : (w.close c).2.Audited := by
  rcases close_cases w c with ⟨_, hw⟩ | ⟨k, hk, hobeys, _⟩
  · rwa [hw]
  · -- the line of the connection shows one more, and its number is once more in the log
    have hledger := ledger_close hk hobeys
    have hbackend := backend_close hk hobeys
    refine ⟨fun x => ?_, fun x s => ?_⟩
    · obtain ⟨above, below, hold, hnew⟩ := hledger x
      have hopened : ((w.close c).2.backend x).opened = (w.backend x).opened := by
        rw [hbackend]
        split <;> rfl
      rw [hopened, ← h.serials, hold, hnew]
      split <;> simp [SimConn.line]
    · obtain ⟨above, below, hold, hnew⟩ := hledger x
      have hcount := h.logged x s
      rw [hold] at hcount
      rw [hnew, hbackend]
      by_cases hx : x = k.backend
      · rw [if_pos hx, if_pos hx, Backend.recordClose, List.count_append, hcount, if_pos hx]
        simp only [closesOf_append, closesOf_cons, closesOf_nil, List.count_singleton, beq_iff_eq,
          SimConn.line]
        by_cases hs : k.serial = s
        · rw [if_pos hs, if_pos hs, if_pos hs]
          omega
        · rw [if_neg hs, if_neg hs, if_neg hs]
          omega
      · rw [if_neg hx, if_neg hx, hcount, if_neg hx]

/-- **Every event keeps the books right.** -/
theorem Event.audited {allowed : SimId → World → Prop} (h : Event allowed w w')
    (hw : w.Audited) : w'.Audited := by
  cases h with
  | connect b => exact hw.connect b
  | close _ => exact hw.close _
  | rollback c =>
    rcases rollback_cases w c with hsame | ⟨_, b, hback⟩
    · rwa [hsame]
    · rw [hback]
      exact hw.updateBackend (ledger_updateConn_of_line_eq (fun _ => rfl) fun _ => rfl)
        (fun _ => rfl) rfl rfl
  | read clock => cases clock <;> exact hw.congr (fun _ => rfl) (fun _ => rfl) fun _ => rfl
  | advance => exact hw.congr (fun _ => rfl) (fun _ => rfl) fun _ => rfl
  | mention b =>
    refine hw.congr (fun _ => rfl) (fun x => ?_) fun x => ?_ <;> rw [backend_mention]
  | @adjust c f hf =>
    have hline : ∀ k, (f k).line = k.line := fun k =>
      Prod.ext (hf.serial_eq k) (hf.closes_eq k)
    exact hw.congr (ledger_updateConn_of_line_eq hf.backend_eq hline) (fun _ => rfl) fun _ => rfl
  | instruct b hf =>
    exact hw.updateBackend (fun _ => rfl) (fun _ => rfl) (hf.opened_eq _) (hf.closeLog_eq _)

/-! ### What right books say -/

theorem mem_ledger (hk : w.conn? c = some k) : k.line ∈ w.ledger k.backend :=
  List.mem_map.mpr ⟨k, List.mem_filter.mpr ⟨List.mem_of_getElem? hk, decide_eq_true rfl⟩, rfl⟩

theorem Audited.nodup_serials (h : w.Audited) (b : Nat) : ((w.ledger b).map Prod.fst).Nodup := by
  rw [h.serials]
  exact List.nodup_range'

/-- **A connection is in the log of its backend once for every close of it.** -/
theorem Audited.count_closeLog (h : w.Audited) (hk : w.conn? c = some k) :
    (w.backend k.backend).closeLog.count k.serial = k.closes := by
  rw [h.logged]
  exact closesOf_of_mem (h.nodup_serials k.backend) (mem_ledger hk)

/-- A number in the log of a backend is that of one of its connections. -/
theorem Audited.exists_of_mem_closeLog (h : w.Audited) {b s : Nat}
    (hs : s ∈ (w.backend b).closeLog) :
    ∃ c k, w.conn? c = some k ∧ k.backend = b ∧ k.serial = s := by
  have hmem : s ∈ (w.ledger b).map Prod.fst := by
    by_contra hnot
    have hpos : 0 < (w.backend b).closeLog.count s := List.count_pos_iff.mpr hs
    rw [h.logged, closesOf_eq_zero hnot] at hpos
    exact Nat.lt_irrefl 0 hpos
  obtain ⟨_, he, rfl⟩ := List.mem_map.mp hmem
  obtain ⟨k, hk, rfl⟩ := List.mem_map.mp he
  obtain ⟨hmem, hb⟩ := List.mem_filter.mp hk
  obtain ⟨c, hc⟩ := List.mem_iff_getElem?.mp hmem
  exact ⟨c, k, hc, of_decide_eq_true hb, rfl⟩

end World

end ConnPool
