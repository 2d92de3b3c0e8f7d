import ConnPool.Proofs.Simulation.Acts
import ConnPool.Proofs.Simulation.Ledger
import Mathlib.Algebra.BigOperators.Group.List.Basic
import Mathlib.Algebra.GroupWithZero.Nat
import Mathlib.Data.List.Basic

/-!
# The accounts of a backend

What a backend counts and logs is told here by what has been done to it, scene by scene: the
attempts to open a connection there, with the answers (`ConnPool.World.Scene.answer?`), the closes
that have reached it and the rollbacks that have reached it and succeeded. Each scene changes the
accounts in one place at most, whoever is behind it (`ConnPool.World.Scene.booked`).

The accounts of all acts add up from that (`ConnPool.World.balanced`). They agree with each other
and with the connections: every attempt was refused or has opened a connection, the connections are
numbered in the order of opening, and every close is counted at the backend, in its log and at the
connection.
-/

namespace ConnPool

namespace World

variable {w : World} {b : Nat} {c : SimId} {k : SimConn}

/-! ### What a backend notices -/

namespace Scene

/-- The answer of a backend, if somebody attempts to open a connection there. -/
def answer? (b : Nat) (x : Scene) : Option (Except Fault SimId) :=
  match x.act with
  | .connect a => if a = b then some (x.world.connect b).1 else none
  | _ => none

theorem answer?_connect_self (w : World) (b : Nat) :
    answer? b ⟨w, .connect b⟩ = some (w.connect b).1 := if_pos rfl

theorem answer?_connect_of_ne {a : Nat} (hab : a ≠ b) (w : World) :
    answer? b ⟨w, .connect a⟩ = none := if_neg hab

/-- Why the backend refuses to open a connection, if it does. -/
def refusal? (b : Nat) (x : Scene) : Option Fault :=
  match x.answer? b with
  | some (.error e) => some e
  | _ => none

/-- The connection that the backend delivers, if it does, in the condition it is in then. -/
def delivery? (b : Nat) (x : Scene) : Option SimConn :=
  match x.answer? b with
  | some (.ok c) => x.after.conn? c
  | _ => none

/-- The connection that somebody closes, if the close reaches the backend. -/
def close? (b : Nat) (x : Scene) : Option SimConn :=
  match x.act with
  | .close c => (x.world.conn? c).filter fun k => k.backend = b ∧ k.onClose = .obeys
  | _ => none

/-- The connection that somebody rolls back, if the rollback reaches the backend and succeeds. -/
def rollback? (b : Nat) (x : Scene) : Option SimConn :=
  match x.act with
  | .rollback c => (x.world.conn? c).filter fun k =>
      k.backend = b ∧ k.onRollback = .obeys ∧ (x.world.rollback c).1.isOk
  | _ => none

/-- **A scene is booked at a backend**: what it changes in the accounts is what the backend has
noticed of it. -/
structure Booked (b : Nat) (x : Scene) : Prop where
  attempts : (x.after.backend b).attempts =
    (x.world.backend b).attempts + (x.answer? b).toList.length
  /-- An attempt is refused, or a connection is delivered. -/
  answered : (x.answer? b).toList.length =
    (x.refusal? b).toList.length + (x.delivery? b).toList.length
  refused : ∀ e, x.refusal? b = some e → e = .connectRefused (x.after.backend b).attempts
  opened : List.range' 1 (x.after.backend b).opened =
    List.range' 1 (x.world.backend b).opened ++ ((x.delivery? b).map SimConn.serial).toList
  closeLog : (x.after.backend b).closeLog =
    (x.world.backend b).closeLog ++ ((x.close? b).map SimConn.serial).toList
  closed : (x.after.backend b).closed = (x.world.backend b).closed + (x.close? b).toList.length
  closes : ((x.after.ledger b).map Prod.snd).sum =
    ((x.world.ledger b).map Prod.snd).sum + (x.close? b).toList.length
  rollbacks : (x.after.backend b).rollbacks =
    (x.world.backend b).rollbacks + (x.rollback? b).toList.length

end Scene

/-! ### Accounts that stay as they are -/

/-- The accounts of a backend are the same in two worlds. -/
structure SameAccounts (b : Nat) (w w' : World) : Prop where
  attempts : (w'.backend b).attempts = (w.backend b).attempts
  opened : (w'.backend b).opened = (w.backend b).opened
  closed : (w'.backend b).closed = (w.backend b).closed
  rollbacks : (w'.backend b).rollbacks = (w.backend b).rollbacks
  closeLog : (w'.backend b).closeLog = (w.backend b).closeLog
  ledger : w'.ledger b = w.ledger b

/-- What leaves a backend and its ledger alone, leaves the accounts alone. -/
theorem SameAccounts.of_eq {w' : World} (hbackend : w'.backend b = w.backend b)
    (hledger : w'.ledger b = w.ledger b) : SameAccounts b w w' := by
  constructor <;> first | exact hledger | rw [hbackend]

/-- **What a backend does not notice** is booked by leaving its accounts alone. -/
theorem SameAccounts.booked {x : Scene} (h : SameAccounts b x.world x.after)
    (hanswer : x.answer? b = none) (hclose : x.close? b = none) (hrollback : x.rollback? b = none) :
    x.Booked b := by
  have hrefusal : x.refusal? b = none := by rw [Scene.refusal?, hanswer]
  have hdelivery : x.delivery? b = none := by rw [Scene.delivery?, hanswer]
  exact
    { attempts := by
        rw [h.attempts, hanswer]
        rfl
      answered := by
        rw [hanswer, hrefusal, hdelivery]
        rfl
      refused := by
        rw [hrefusal]
        exact fun _ he => by cases he
      opened := by
        rw [h.opened, hdelivery]
        exact (List.append_nil _).symm
      closeLog := by
        rw [h.closeLog, hclose]
        exact (List.append_nil _).symm
      closed := by
        rw [h.closed, hclose]
        rfl
      closes := by
        rw [h.ledger, hclose]
        rfl
      rollbacks := by
        rw [h.rollbacks, hrollback]
        rfl }

/-! ### Attempts to open a connection -/

/-- A refused attempt is booked: the backend has counted it, and that is all. -/
theorem booked_refusal {refusals : Nat} (hattempt : (w.backend b).attempt =
    (.error (.connectRefused ((w.backend b).attempts + 1)),
      { w.backend b with attempts := (w.backend b).attempts + 1, refusals := refusals })) :
    Scene.Booked b ⟨w, .connect b⟩ := by
  obtain ⟨hresult, _⟩ := connect_of_error (congrArg Prod.fst hattempt)
  have hanswer : Scene.answer? b ⟨w, .connect b⟩ =
      some (.error (.connectRefused ((w.backend b).attempts + 1))) := by
    rw [Scene.answer?_connect_self, hresult]
  have hrefusal : Scene.refusal? b ⟨w, .connect b⟩ =
      some (.connectRefused ((w.backend b).attempts + 1)) := by
    rw [Scene.refusal?, hanswer]
  have hdelivery : Scene.delivery? b ⟨w, .connect b⟩ = none := by
    rw [Scene.delivery?, hanswer]
  have hbackend : (Scene.after ⟨w, .connect b⟩).backend b =
      { w.backend b with attempts := (w.backend b).attempts + 1, refusals := refusals } := by
    show (w.connect b).2.backend b = _
    rw [backend_connect, if_pos rfl, hattempt]
  have hledger : (Scene.after ⟨w, .connect b⟩).ledger b = w.ledger b :=
    ledger_connect_of_error (congrArg Prod.fst hattempt) b
  exact
    { attempts := by
        rw [hbackend, hanswer]
        rfl
      answered := by
        rw [hanswer, hrefusal, hdelivery]
        rfl
      refused := by
        rw [hbackend, hrefusal]
        exact fun _ he => (Option.some.inj he).symm
      opened := by
        rw [hbackend, hdelivery]
        exact (List.append_nil _).symm
      closeLog := by
        rw [hbackend]
        exact (List.append_nil _).symm
      closed := by
        rw [hbackend]
        rfl
      closes := by
        rw [hledger]
        rfl
      rollbacks := by
        rw [hbackend]
        rfl }

/-- An attempt that succeeds is booked: the connection has the next serial number, and nobody has
closed it. -/
theorem booked_delivery (hattempt : (w.backend b).attempt =
    (.ok ((w.backend b).opened + 1),
      { w.backend b with
        attempts := (w.backend b).attempts + 1
        opened := (w.backend b).opened + 1 })) :
    Scene.Booked b ⟨w, .connect b⟩ := by
  obtain ⟨hresult, hconns⟩ := connect_of_ok (congrArg Prod.fst hattempt)
  have hanswer : Scene.answer? b ⟨w, .connect b⟩ = some (.ok w.conns.length) := by
    rw [Scene.answer?_connect_self, hresult]
  have hrefusal : Scene.refusal? b ⟨w, .connect b⟩ = none := by
    rw [Scene.refusal?, hanswer]
  have hdelivery : Scene.delivery? b ⟨w, .connect b⟩ =
      some (.born b ((w.backend b).opened + 1) (w.backend b).attempt.2.birth) := by
    rw [Scene.delivery?, hanswer]
    show (w.connect b).2.conns[w.conns.length]? = _
    rw [hconns, List.getElem?_concat_length]
  have hbackend : (Scene.after ⟨w, .connect b⟩).backend b =
      { w.backend b with
        attempts := (w.backend b).attempts + 1
        opened := (w.backend b).opened + 1 } := by
    show (w.connect b).2.backend b = _
    rw [backend_connect, if_pos rfl, hattempt]
  have hledger : (Scene.after ⟨w, .connect b⟩).ledger b =
      w.ledger b ++ [((w.backend b).opened + 1, 0)] := by
    show (w.connect b).2.ledger b = _
    rw [ledger_connect_of_ok (congrArg Prod.fst hattempt), if_pos rfl]
  exact
    { attempts := by
        rw [hbackend, hanswer]
        rfl
      answered := by
        rw [hanswer, hrefusal, hdelivery]
        rfl
      refused := by
        rw [hrefusal]
        exact fun _ he => by cases he
      opened := by
        rw [hbackend, hdelivery]
        exact List.range'_1_concat.trans (by rw [Nat.add_comm 1]; rfl)
      closeLog := by
        rw [hbackend]
        exact (List.append_nil _).symm
      closed := by
        rw [hbackend]
        rfl
      closes := by
        rw [hledger, List.map_append, List.sum_append]
        rfl
      rollbacks := by
        rw [hbackend]
        rfl }

theorem booked_connect (w : World) (a b : Nat) : Scene.Booked b ⟨w, .connect a⟩ := by
  by_cases hab : a = b
  · subst hab
    rcases (w.backend a).attempt_cases with ⟨refusals, hattempt⟩ | hattempt
    · exact booked_refusal hattempt
    · exact booked_delivery hattempt
  · -- another backend does not notice the attempt
    refine SameAccounts.booked (.of_eq ?_ ?_) (Scene.answer?_connect_of_ne hab w) rfl rfl
    · show (w.connect a).2.backend b = w.backend b
      rw [backend_connect, if_neg (Ne.symm hab)]
    · show (w.connect a).2.ledger b = w.ledger b
      cases hattempt : (w.backend a).attempt.1 with
      | error e => exact ledger_connect_of_error hattempt b
      | ok serial =>
        rw [ledger_connect_of_ok hattempt, if_neg (Ne.symm hab), List.append_nil]

/-! ### Closes and rollbacks -/

theorem close?_of_absent (hc : w.conn? c = none) (b : Nat) :
    Scene.close? b ⟨w, .close c⟩ = none := by
  simp only [Scene.close?, hc, Option.filter_none]

theorem close?_of_conn? (hk : w.conn? c = some k) (b : Nat) : Scene.close? b ⟨w, .close c⟩ =
    if k.backend = b ∧ k.onClose = .obeys then some k else none := by
  simp only [Scene.close?, hk, Option.filter_some, decide_eq_true_eq]

theorem rollback?_of_absent (hc : w.conn? c = none) (b : Nat) :
    Scene.rollback? b ⟨w, .rollback c⟩ = none := by
  simp only [Scene.rollback?, hc, Option.filter_none]

theorem rollback?_of_conn? (hk : w.conn? c = some k) (b : Nat) :
    Scene.rollback? b ⟨w, .rollback c⟩ =
      if k.backend = b ∧ k.onRollback = .obeys ∧ (w.rollback c).1.isOk = true then some k
      else none := by
  simp only [Scene.rollback?, hk, Option.filter_some, decide_eq_true_eq]

/-- A close that reaches its backend is booked: it is counted there, in the log and at the
connection. -/
theorem booked_of_obeys (hk : w.conn? c = some k) (hobeys : k.onClose = .obeys) :
    Scene.Booked k.backend ⟨w, .close c⟩ := by
  have hclose : Scene.close? k.backend ⟨w, .close c⟩ = some k :=
    (close?_of_conn? hk _).trans (if_pos ⟨rfl, hobeys⟩)
  have hbackend : (Scene.after ⟨w, .close c⟩).backend k.backend =
      (w.backend k.backend).recordClose k.serial :=
    (backend_close hk hobeys k.backend).trans (if_pos rfl)
  obtain ⟨above, below, hold, hnew⟩ := ledger_close hk hobeys k.backend
  rw [if_pos rfl] at hold hnew
  exact
    { attempts := by
        rw [hbackend]
        rfl
      answered := rfl
      refused := fun _ he => by cases he
      opened := by
        rw [hbackend]
        exact (List.append_nil _).symm
      closeLog := by
        rw [hbackend, hclose]
        rfl
      closed := by
        rw [hbackend, hclose]
        rfl
      closes := by
        show (((w.close c).2.ledger k.backend).map Prod.snd).sum = _
        rw [hclose, hold, hnew]
        simp only [List.map_append, List.sum_append, List.map_cons, List.map_nil, List.sum_cons,
          List.sum_nil, SimConn.line, Option.toList_some, List.length_singleton]
        omega
      rollbacks := by
        rw [hbackend]
        rfl }

theorem booked_close (w : World) (c : SimId) (b : Nat) : Scene.Booked b ⟨w, .close c⟩ := by
  rcases close_cases w c with ⟨hdeaf, hw⟩ | ⟨k, hk, hobeys, _⟩
  · refine SameAccounts.booked ?_ rfl ?_ rfl
    · show SameAccounts b w (w.close c).2
      rw [hw]
      exact .of_eq rfl rfl
    · cases hk : w.conn? c with
      | none => exact close?_of_absent hk b
      | some k =>
        rw [close?_of_conn? hk, if_neg]
        exact fun h => hdeaf ((obeys_iff hk).mpr h.2)
  · by_cases hb : b = k.backend
    · subst hb
      exact booked_of_obeys hk hobeys
    · -- another backend does not notice the close
      obtain ⟨above, below, hold, hnew⟩ := ledger_close hk hobeys b
      rw [if_neg hb] at hold hnew
      refine SameAccounts.booked (.of_eq ?_ (hnew.trans hold.symm)) rfl ?_ rfl
      · exact (backend_close hk hobeys b).trans (if_neg hb)
      · rw [close?_of_conn? hk, if_neg fun h => hb h.1.symm]

/-- A rollback that reaches a backend and succeeds is counted there, and any other rollback does
nothing. -/
theorem rollback_counted (hk : w.conn? c = some k) :
    if k.onRollback = .obeys ∧ (w.rollback c).1.isOk = true then
      (w.rollback c).2 = (w.updateConn c fun k => { k with status := .idle }).updateBackend
        k.backend Backend.recordRollback
    else (w.rollback c).2 = w := by
  rw [rollback, hk]
  cases hobeys : k.onRollback with
  | obeys =>
    simp only [hobeys]
    cases (w.backend k.backend).failRollback <;> simp [Except.isOk, Except.toBool]
  | _ => simp [hobeys]

/-- A rollback that reaches its backend and succeeds is booked: it is counted, and that is all. -/
theorem booked_of_succeeds (hk : w.conn? c = some k)
    (hsucceeds : k.onRollback = .obeys ∧ (w.rollback c).1.isOk = true) (b : Nat) :
    Scene.Booked b ⟨w, .rollback c⟩ := by
  have hcounted := rollback_counted hk
  have hrollback := rollback?_of_conn? hk b
  rw [if_pos hsucceeds] at hcounted
  have hbackend : (Scene.after ⟨w, .rollback c⟩).backend b =
      if b = k.backend then (w.backend b).recordRollback else w.backend b := by
    show (w.rollback c).2.backend b = _
    rw [hcounted]
    exact backend_updateBackend _ _ _ _
  have hledger : (Scene.after ⟨w, .rollback c⟩).ledger b = w.ledger b := by
    show (w.rollback c).2.ledger b = w.ledger b
    rw [hcounted]
    refine ledger_updateConn_of_line_eq ?_ ?_ b <;> exact fun _ => rfl
  by_cases hb : b = k.backend
  · rw [if_pos hb] at hbackend
    rw [if_pos ⟨hb.symm, hsucceeds⟩] at hrollback
    exact
      { attempts := by
          rw [hbackend]
          rfl
        answered := rfl
        refused := fun _ he => by cases he
        opened := by
          rw [hbackend]
          exact (List.append_nil _).symm
        closeLog := by
          rw [hbackend]
          exact (List.append_nil _).symm
        closed := by
          rw [hbackend]
          rfl
        closes := by
          rw [hledger]
          rfl
        rollbacks := by
          rw [hbackend, hrollback]
          rfl }
  · rw [if_neg hb] at hbackend
    rw [if_neg fun h => hb h.1.symm] at hrollback
    exact SameAccounts.booked (.of_eq hbackend hledger) rfl rfl hrollback

theorem booked_rollback (w : World) (c : SimId) (b : Nat) : Scene.Booked b ⟨w, .rollback c⟩ := by
  cases hk : w.conn? c with
  | none =>
    refine SameAccounts.booked ?_ rfl rfl (rollback?_of_absent hk b)
    show SameAccounts b w (w.rollback c).2
    rw [rollback, hk]
    exact .of_eq rfl rfl
  | some k =>
    by_cases hsucceeds : k.onRollback = .obeys ∧ (w.rollback c).1.isOk = true
    · exact booked_of_succeeds hk hsucceeds b
    · have hsame := rollback_counted hk
      rw [if_neg hsucceeds] at hsame
      refine SameAccounts.booked ?_ rfl rfl ?_
      · show SameAccounts b w (w.rollback c).2
        rw [hsame]
        exact .of_eq rfl rfl
      · rw [rollback?_of_conn? hk, if_neg fun h => hsucceeds h.2]

/-- **Every scene is booked**, at every backend. -/
theorem Scene.booked (b : Nat) (x : Scene) : x.Booked b := by
  obtain ⟨w, a⟩ := x
  cases a with
  | connect a => exact booked_connect w a b
  | close c => exact booked_close w c b
  | rollback c => exact booked_rollback w c b
  | read clock =>
    refine SameAccounts.booked ?_ rfl rfl rfl
    cases clock <;> exact .of_eq rfl rfl
  | advance span => exact SameAccounts.booked (.of_eq rfl rfl) rfl rfl rfl
  | mention a =>
    exact SameAccounts.booked (.of_eq (backend_mention w a b) rfl) rfl rfl rfl
  | adjust c f hf =>
    have hline : ∀ k, (f k).line = k.line := fun k => Prod.ext (hf.serial_eq k) (hf.closes_eq k)
    refine SameAccounts.booked (.of_eq rfl ?_) rfl rfl rfl
    exact ledger_updateConn_of_line_eq hf.backend_eq hline b
  | instruct a order =>
    refine SameAccounts.booked ?_ rfl rfl rfl
    exact {
      attempts := read_updateBackend Backend.attempts w a b order.keeps.attempts_eq
      opened := read_updateBackend Backend.opened w a b order.keeps.opened_eq
      closed := read_updateBackend Backend.closed w a b order.keeps.closed_eq
      rollbacks := read_updateBackend Backend.rollbacks w a b order.keeps.rollbacks_eq
      closeLog := read_updateBackend Backend.closeLog w a b order.keeps.closeLog_eq
      ledger := rfl }

/-! ### The accounts of all acts -/

/-- **The accounts of a backend are balanced**: they agree with what has happened, scene by scene,
and with the connections in the world after it. -/
structure Balanced (b : Nat) (xs : List Scene) (w : World) : Prop where
  /-- The connections are numbered from one on, in the order of opening. -/
  serials : (w.conns.filter fun k => k.backend = b).map SimConn.serial =
    List.range' 1 (w.backend b).opened
  /-- They are those that have been delivered. -/
  delivered : (xs.filterMap (Scene.delivery? b)).map SimConn.serial =
    List.range' 1 (w.backend b).opened
  /-- Every attempt is counted. -/
  attempts : (w.backend b).attempts = (xs.filterMap (Scene.answer? b)).length
  /-- An attempt has opened a connection, or was refused. -/
  refused : (w.backend b).attempts =
    (w.backend b).opened + (xs.filterMap (Scene.refusal? b)).length
  /-- A refusal carries the number of attempts just after it. -/
  numbered : ∀ x ∈ xs, ∀ e, x.refusal? b = some e →
    e = .connectRefused (x.after.backend b).attempts
  /-- The closes that have reached the backend are in the log. -/
  logged : (w.backend b).closeLog = (xs.filterMap (Scene.close? b)).map SimConn.serial
  /-- They are counted. -/
  closed : (w.backend b).closed = (w.backend b).closeLog.length
  /-- The connections have counted them, too. -/
  closes : (w.backend b).closed =
    ((w.conns.filter fun k => k.backend = b).map SimConn.closes).sum
  /-- A connection is in the log once for every close of it. -/
  count : ∀ k ∈ w.conns, k.backend = b → (w.backend b).closeLog.count k.serial = k.closes
  /-- Nothing else is in the log. -/
  known : ∀ s ∈ (w.backend b).closeLog, ∃ k ∈ w.conns, k.backend = b ∧ k.serial = s
  /-- The rollbacks that have reached the backend and have succeeded are counted. -/
  rollbacks : (w.backend b).rollbacks = (xs.filterMap (Scene.rollback? b)).length

theorem audited_replay (acts : List Act) : (({} : World).replay acts).Audited :=
  events_invariant (fun hevent => hevent.audited) (events_replay acts {}) audited_empty

/-- Every attempt is refused, or a connection is delivered. -/
theorem length_answers (b : Nat) (xs : List Scene) :
    (xs.filterMap (Scene.answer? b)).length =
      (xs.filterMap (Scene.refusal? b)).length + (xs.filterMap (Scene.delivery? b)).length := by
  simp only [List.filterMap_eq_flatMap_toList, List.length_flatMap]
  rw [← List.sum_map_add]
  exact congrArg (fun f => (xs.map f).sum) (funext fun x => (x.booked b).answered)

/-- **The accounts of every backend are balanced**, whatever has been done. -/
theorem balanced (acts : List Act) (b : Nat) :
    Balanced b (scenes acts {}) (({} : World).replay acts) := by
  have haudited := audited_replay acts
  have hattempts : ((replay acts {}).backend b).attempts = _ :=
    read_replay_of_add (fun w => (w.backend b).attempts) fun x => (x.booked b).attempts
  have hopened : List.range' 1 ((replay acts {}).backend b).opened = _ :=
    read_replay_of_append (fun w => List.range' 1 (w.backend b).opened) fun x => (x.booked b).opened
  have hlog : ((replay acts {}).backend b).closeLog = _ :=
    read_replay_of_append (fun w => (w.backend b).closeLog) fun x => (x.booked b).closeLog
  have hclosed : ((replay acts {}).backend b).closed = _ :=
    read_replay_of_add (fun w => (w.backend b).closed) fun x => (x.booked b).closed
  have hcloses : (((replay acts {}).ledger b).map Prod.snd).sum = _ :=
    read_replay_of_add (fun w => ((w.ledger b).map Prod.snd).sum) fun x => (x.booked b).closes
  have hrollbacks : ((replay acts {}).backend b).rollbacks = _ :=
    read_replay_of_add (fun w => (w.backend b).rollbacks) fun x => (x.booked b).rollbacks
  -- nothing has been counted in the empty world
  simp only [← List.map_filterMap] at hopened hlog
  change _ = [] ++ _ at hopened hlog
  change _ = 0 + _ at hattempts hclosed hcloses hrollbacks
  rw [List.nil_append] at hopened hlog
  rw [Nat.zero_add] at hattempts hclosed hcloses hrollbacks
  have hlength := congrArg List.length hopened
  rw [List.length_range', List.length_map] at hlength
  exact
    { serials := by
        have hserials := haudited.serials b
        rw [ledger, List.map_map] at hserials
        exact hserials
      delivered := hopened.symm
      attempts := hattempts
      refused := by
        rw [hattempts, length_answers, hlength, Nat.add_comm]
      numbered := by
        intro x hx e he
        exact (x.booked b).refused e he
      logged := hlog
      closed := by
        rw [hclosed, hlog, List.length_map]
      closes := by
        rw [hclosed, ← hcloses, ledger, List.map_map]
        rfl
      count := by
        rintro k hk rfl
        obtain ⟨c, hc⟩ := List.mem_iff_getElem?.mp hk
        exact haudited.count_closeLog hc
      known := by
        intro s hs
        obtain ⟨c, k, hc, hb, hs⟩ := haudited.exists_of_mem_closeLog hs
        exact ⟨k, List.mem_of_getElem? hc, hb, hs⟩
      rollbacks := hrollbacks }

/-! ### Connections that have been closed -/

/-- **Whatever has been closed by somebody is closed.** -/
def Marked (w : World) : Prop := ∀ ⦃c k⦄, w.conn? c = some k → 0 < k.closes → k.closed = true

theorem Event.marked {allowed : SimId → World → Prop} {w' : World} (h : Event allowed w w')
    (hw : w.Marked) : w'.Marked := by
  intro c k' hk' hpos
  cases hk : w.conn? c with
  | none =>
    -- a new connection has not been closed by anybody
    rw [h.born hk hk'] at hpos
    exact absurd hpos (Nat.lt_irrefl 0)
  | some k =>
    obtain ⟨k'', hk'', hbecomes⟩ := h.becomes hk
    obtain rfl : k' = k'' := Option.some.inj (hk'.symm.trans hk'')
    rcases hbecomes.kept_or_closed with ⟨hsame, hkept⟩ | ⟨_, _, hclosed⟩
    · rw [hsame] at hpos
      exact hkept (hw hk hpos)
    · exact hclosed

theorem marked_replay (acts : List Act) : (({} : World).replay acts).Marked :=
  events_invariant (fun hevent => hevent.marked) (events_replay acts {}) fun _ _ hk => by cases hk

/-- **A closed connection stays closed**, whatever is done. -/
theorem closed_replay (hk : w.conn? c = some k) (hclosed : k.closed = true) (acts : List Act) :
    ∃ k', (w.replay acts).conn? c = some k' ∧ k'.backend = k.backend ∧ k'.serial = k.serial ∧
      k'.closed = true := by
  induction acts generalizing w k with
  | nil => exact ⟨k, hk, rfl, rfl, hclosed⟩
  | cons a acts ih =>
    obtain ⟨k₁, hk₁, hbecomes⟩ := (event_act a w).becomes hk
    have hclosed₁ : k₁.closed = true := by
      rcases hbecomes.kept_or_closed with ⟨_, hkept⟩ | ⟨_, _, hnow⟩
      · exact hkept hclosed
      · exact hnow
    obtain ⟨k₂, hk₂, hbackend, hserial, hclosed₂⟩ := ih hk₁ hclosed₁
    exact ⟨k₂, hk₂, hbackend.trans hbecomes.backend_eq, hserial.trans hbecomes.serial_eq, hclosed₂⟩

end World

end ConnPool
