import ConnPool.Proofs.Session.Changes
import ConnPool.Proofs.Simulation.Ledger
import Mathlib.Data.List.Permutation

/-!
# No connection is closed twice

There are many ways in which a close may be on its way to a connection: a pool discards it,
evicts it, lets it go or is closed with it; two pools, a pruner and the registry may be at work
on one backend; a close that has failed is tried again when the pool is closed again; and a
borrower may hand one connection back twice. All of them ask first. So no close gets to a
connection that is closed already, be it by another close or by the other side.

That a connection is not closed twice is counted in the connection
(`ConnPool.World.ClosedOnce`). It comes to be seen in the logs of the backends because their
books are right (`ConnPool.World.Audited`). The main statement,
`ConnPool.Session.closed_at_most_once`, is about every script that does not close a connection
by itself.
-/

namespace ConnPool

open Relation (ReflTransGen)

namespace World

/-- A connection is open. -/
def IsOpen (c : SimId) (w : World) : Prop := w.isClosed c = false

/-- **No connection has been closed more than once**, and none that is open has been closed
at all. -/
def ClosedOnce (w : World) : Prop :=
  ∀ ⦃c k⦄, w.conn? c = some k → k.closes ≤ k.closed.toNat

/-- **A closed connection is spared**: between two worlds no close has reached any connection
that was closed in the first. -/
def Spares (w w' : World) : Prop :=
  ∀ ⦃c k⦄, w.conn? c = some k → k.closed = true → ∃ k', w'.conn? c = some k' ∧
    k'.backend = k.backend ∧ k'.serial = k.serial ∧ k'.closes = k.closes ∧ k'.closed = true

variable {w w' : World} {c : SimId} {k : SimConn}

/-- If only open connections are closed, a connection is closed for the first time or not at
all. -/
theorem Event.closedOnce (h : Event IsOpen w w') (hw : w.ClosedOnce) : w'.ClosedOnce := by
  intro c k' hk'
  cases hk : w.conn? c with
  | none =>
    rw [h.born hk hk']
    exact Nat.zero_le _
  | some k =>
    obtain ⟨k'', hk'', hbecomes⟩ := h.becomes hk
    obtain rfl : k' = k'' := Option.some.inj (hk'.symm.trans hk'')
    have hcloses : k.closes ≤ k.closed.toNat := hw hk
    rcases hbecomes.kept_or_closed with ⟨hsame, hclosed⟩ | ⟨hopen, hone, hclosed⟩
    · rw [hsame]
      exact Nat.le_trans hcloses (Bool.toNat_le_toNat hclosed)
    · have hnever : k.closed = false := (isClosed_of_conn? hk).symm.trans hopen
      rw [hnever, Bool.toNat_false] at hcloses
      rw [hone, hclosed, Bool.toNat_true]
      omega

theorem Spares.refl (w : World) : w.Spares w := fun _ k hk hclosed =>
  ⟨k, hk, rfl, rfl, rfl, hclosed⟩

theorem Spares.trans {v : World} (h : v.Spares w) (h' : w.Spares w') : v.Spares w' := by
  intro c k hk hclosed
  obtain ⟨k₁, hk₁, hbackend₁, hserial₁, hcloses₁, hclosed₁⟩ := h hk hclosed
  obtain ⟨k₂, hk₂, hbackend₂, hserial₂, hcloses₂, hclosed₂⟩ := h' hk₁ hclosed₁
  exact ⟨k₂, hk₂, hbackend₂.trans hbackend₁, hserial₂.trans hserial₁, hcloses₂.trans hcloses₁,
    hclosed₂⟩

theorem Event.spares (h : Event IsOpen w w') : w.Spares w' := by
  intro c k hk hclosed
  obtain ⟨k', hk', hbecomes⟩ := h.becomes hk
  rcases hbecomes.kept_or_closed with ⟨hsame, hkept⟩ | ⟨hopen, _⟩
  · exact ⟨k', hk', hbecomes.backend_eq, hbecomes.serial_eq, hsame, hkept hclosed⟩
  · cases hclosed.symm.trans ((isClosed_of_conn? hk).symm.trans hopen)

theorem spares_of_events (h : ReflTransGen (Event IsOpen) w w') : w.Spares w' :=
  events_invariant (fun hevent hv => hv.trans hevent.spares) h (.refl w)

/-- **In books that are right, no number occurs twice in a log** if no connection has been
closed more than once. -/
theorem Audited.nodup_closeLog (h : w.Audited) (hw : w.ClosedOnce) (b : Nat) :
    (w.backend b).closeLog.Nodup := by
  rw [List.nodup_iff_count_le_one]
  intro s
  by_cases hs : s ∈ (w.backend b).closeLog
  · obtain ⟨c, k, hk, rfl, rfl⟩ := h.exists_of_mem_closeLog hs
    rw [h.count_closeLog hk]
    exact Nat.le_trans (hw hk) k.closed.toNat_le
  · rw [List.count_eq_zero.mpr hs]
    exact Nat.zero_le 1

end World

namespace Session

/-- Cutting the link of a connection closes it. -/
theorem world_after_sever {past : List Step} {name : String} {b : Binding}
    (hname : (after past).names.get? name = some b) :
    (after (past ++ [.conn name .sever])).world =
      (after past).world.updateConn b.conn fun k => { k with closed := true } := by
  rw [after_append]
  show ((after past).perform (.conn name .sever)).2.2.world = _
  rw [perform, hname]
  rfl

variable {script : List Step}

/-- A script that closes no connection by itself leads on by closes of open ones alone. -/
theorem events_of_no_close (hscript : ∀ name, .conn name .close ∉ script) (s : Session) :
    ReflTransGen (World.Event World.IsOpen) s.world (playAll script s).2.world :=
  events_playAll (fun _ _ => id) (fun name hmem => absurd hmem (hscript name)) s

theorem audited_after (hscript : ∀ name, .conn name .close ∉ script) :
    (after script).world.Audited :=
  World.events_invariant (fun hevent => hevent.audited) (events_of_no_close hscript {})
    World.audited_empty

theorem closedOnce_after (hscript : ∀ name, .conn name .close ∉ script) :
    (after script).world.ClosedOnce :=
  World.events_invariant (fun hevent => hevent.closedOnce) (events_of_no_close hscript {})
    fun _ _ hk => by cases hk

/-- **What is closed at some point is spared from then on.** The log of its backend shows it as
often in the end as it did then. -/
theorem closeLog_count_of_closed {past rest : List Step} {c : SimId} {k : SimConn}
    (hscript : ∀ name, .conn name .close ∉ past ++ rest)
    (hk : (after past).world.conn? c = some k) (hclosed : k.closed = true) :
    ((after (past ++ rest)).world.backend k.backend).closeLog.count k.serial = k.closes := by
  have hspares : (after past).world.Spares (after (past ++ rest)).world := by
    rw [after_append]
    exact World.spares_of_events
      (events_of_no_close (fun name hmem => hscript name (List.mem_append_right past hmem)) _)
  obtain ⟨k', hk', hbackend, hserial, hcloses, _⟩ := hspares hk hclosed
  rw [← hbackend, ← hserial, ← hcloses]
  exact (audited_after hscript).count_closeLog hk'

/-- **No connection is closed twice.** After a script that closes no connection by itself, no
serial number occurs twice in the log of a backend. Every connection has been reached by one
close at most, and it is in the log exactly if it has been reached by one. A connection that is
closed at some point, by a close or by the other side, is not reached by any later close; in
particular one that is severed while it is open is reached by none at all. -/
theorem closed_at_most_once (hscript : ∀ name, .conn name .close ∉ script) :
    (∀ b, ((after script).world.backend b).closeLog.Nodup) ∧
      (∀ c k, (after script).world.conn? c = some k → k.closes ≤ 1 ∧
        ((after script).world.backend k.backend).closeLog.count k.serial = k.closes) ∧
      (∀ past rest c k, script = past ++ rest → (after past).world.conn? c = some k →
        k.closed = true → ((after script).world.backend k.backend).closeLog.count k.serial =
          ((after past).world.backend k.backend).closeLog.count k.serial) ∧
      ∀ past rest name b k, script = past ++ .conn name .sever :: rest →
        (after past).names.get? name = some b → (after past).world.conn? b.conn = some k →
        k.closed = false →
        k.serial ∉ ((after script).world.backend k.backend).closeLog := by
  have haudited : (after script).world.Audited := audited_after hscript
  refine ⟨haudited.nodup_closeLog (closedOnce_after hscript), fun c k hk => ⟨?_, ?_⟩, ?_, ?_⟩
  · exact Nat.le_trans (closedOnce_after hscript hk) k.closed.toNat_le
  · exact haudited.count_closeLog hk
  · rintro past rest c k rfl hk hclosed
    have hpast : ∀ name, .conn name .close ∉ past := fun name hmem =>
      hscript name (List.mem_append_left rest hmem)
    rw [closeLog_count_of_closed hscript hk hclosed, (audited_after hpast).count_closeLog hk]
  · rintro past rest name b k rfl hname hk hopen
    have hpast : ∀ name, .conn name .close ∉ past := fun name hmem =>
      hscript name (List.mem_append_left _ hmem)
    -- until then no close has reached it, and it is closed from then on
    have hnever : k.closes = 0 := by
      have hcloses : k.closes ≤ k.closed.toNat := closedOnce_after hpast hk
      rw [hopen, Bool.toNat_false] at hcloses
      omega
    have hsevered : (after (past ++ [.conn name .sever])).world.conn? b.conn =
        some { k with closed := true } := by
      rw [world_after_sever hname, World.conn?_updateConn, if_pos rfl, hk]
      rfl
    rw [List.append_cons] at hscript ⊢
    have hcount := closeLog_count_of_closed hscript hsevered rfl
    exact List.count_eq_zero.mp (hcount.trans hnever)

/-- A pool and a registered pool at one backend, and two connections of the first checked
out. -/
def borrowing : List Step :=
  [.build .exclusive { minConnections := 2, maxConnections := 3 } 0 .manual,
    .registry (.provide "dsn" {} 0), .pool 0 (.request .get (some "a")),
    .pool 0 (.request .get (some "b"))]

/-- Both pools are closed while every close is reported as failed, and the first of them once
more after a late release. -/
def closing : List Step :=
  [.backend 0 (.failClose true), .registry .closeAll, .pool 0 (.request .closeAll none),
    .pool 0 (.request (.put "a") none), .pool 0 (.request .closeAll none)]

/-- If the link of one of the connections is cut in between, the other two are closed once
each, and that one is not closed at all. -/
theorem closed_at_most_once_when_closes_fail :
    (∀ name, .conn name .close ∉ borrowing ++ .conn "b" .sever :: closing) ∧
      ((after (borrowing ++ .conn "b" .sever :: closing)).world.backend 0).closeLog = [3, 2] ∧
      ((after (borrowing ++ .conn "b" .sever :: closing)).world.backend 0).closeLog.Nodup ∧
      1 ∉ ((after (borrowing ++ .conn "b" .sever :: closing)).world.backend 0).closeLog := by
  have hscript : ∀ name, .conn name .close ∉ borrowing ++ .conn "b" .sever :: closing := by
    simp [borrowing, closing]
  obtain ⟨hnodup, _, _, hsevered⟩ := closed_at_most_once hscript
  have hname : (after borrowing).names.get? "b" =
      some (.pooled ⟨0, 0, Instant.start⟩ .manual) := rfl
  have hconn : (after borrowing).world.conn? 0 = some { backend := 0, serial := 1 } := rfl
  exact ⟨hscript, by cbv, hnodup 0, hsevered borrowing closing "b" _ _ rfl hname hconn rfl⟩

end Session

end ConnPool
