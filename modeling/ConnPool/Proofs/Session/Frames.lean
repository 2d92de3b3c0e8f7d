import ConnPool.Proofs.Fleet.Parted
import ConnPool.Proofs.Session.Changes

/-!
# Pools keep their hands off

However many pools a script builds, and whoever holds whose connections: a pool never closes
or rolls back a connection that is not its own. This file puts together what is known about
the records of a fleet (`ConnPool.Fleet.Recorded`) for the fleets that scripts lead to.
-/

namespace ConnPool

namespace Session

open Driver (Call)
open Fleet (OpenedBy Recorded)

/-- **There is a record of every script**, and the record of a longer script continues that of
a shorter one. -/
theorem recorded_append {past : List Step} {log : List (PoolId × Call SimId Fault)}
    (h : Recorded log (after past).fleet) (rest : List Step) :
    ∃ log', Recorded (log ++ log') (after (past ++ rest)).fleet := by
  rw [after_append]
  exact h.changes (changes_playAll (fun _ _ _ => trivial) (fun _ _ _ _ => trivial) (after past))

/-- **A pool touches only what is its own.** There is a record of all the calls that the pools
of a script make. By such a record no connection has been opened by two pools, and whatever
is asked of a pool:

* every call it makes is permitted, and touches no connection but of its own opening;
* a connection that is checked out is touched only when its checkout ends, or when the pool
  is closed;
* the other pools and the connections they own are as they were;
* a connection that the pool has not opened cannot be handed back to it, whatever its number
  and whatever the key: nothing happens at all. -/
theorem touches_only_own :
    (Recorded [] (after []).fleet ∧
      ∀ past rest log, Recorded log (after past).fleet →
        ∃ log', Recorded (log ++ log') (after (past ++ rest)).fleet) ∧
    ∀ log f, Recorded log f →
      (∀ i j c, OpenedBy log i c → OpenedBy log j c → i = j) ∧
      ∀ i m, f.member? i = some m → ∀ r,
        (∀ call ∈ f.calls i r, m.pool.Permits (m.pool.serve m.driver r f.world).2.1 r call ∧
          ∀ c, call.Touches c → OpenedBy log i c) ∧
        (∀ k g, m.pool.held.get? k = some g → ∀ call ∈ f.calls i r, call.Touches g.conn →
          r = .closeAll ∨ ∃ h key force, r = .release h key force ∧
            m.pool.checkout? h key = some k) ∧
        (∀ j n, j ≠ i → f.member? j = some n →
          (f.serve i r).2.member? j = some n ∧ ∀ c, n.pool.Owns c →
            (∀ call ∈ f.calls i r, ¬call.Touches c) ∧
              (f.serve i r).2.world.conn? c = f.world.conn? c) ∧
        ∀ h key force, r = .release h key force → ¬OpenedBy log i h.conn →
          f.serve i r =
            (some (.released (if m.pool.closed then .ok () else .error .unknownHandle)), f) := by
  refine ⟨⟨.start, fun past rest log h => recorded_append h rest⟩, fun log f h => ?_⟩
  have hparted := h.parted
  refine ⟨fun i j c => hparted.opened_once, fun i m hm r => ⟨fun call hcall => ?_,
    fun k g hk call hcall => hparted.ends_of_touches hm hk hcall,
    fun j n hij hn => hparted.serve_other hij hn r, ?_⟩⟩
  · exact ⟨Fleet.permits_of_mem_calls hm hcall, fun c => hparted.opened_of_touches hm hcall⟩
  · rintro g key force rfl hforeign
    exact hparted.release_foreign hm hforeign key force

/-- Two pools at one backend, with a connection of each checked out under the same name. -/
def twoLoans : List Step :=
  [.build .exclusive { minConnections := 0 } 0 .manual,
   .build .exclusive { minConnections := 0 } 0 .manual,
   .pool 0 (.request (.acquire (some (.named "key"))) (some "a")),
   .pool 1 (.request (.acquire (some (.named "key"))) (some "b"))]

/-- Both connections have the number 0. The one of the second pool cannot be handed back to
the first, not even under the name that the first one has lent its own connection under. -/
theorem touches_only_own_of_two_loans :
    ∃ log, Recorded log (after twoLoans).fleet ∧
      (after twoLoans).handle? "a" = some ⟨0, 0, Instant.start⟩ ∧
      (after twoLoans).handle? "b" = some ⟨0, 1, Instant.start⟩ ∧
      OpenedBy log 1 1 ∧
      (after twoLoans).fleet.serve 0 (.release ⟨0, 1, Instant.start⟩ (some (.named "key")) false) =
        (some (.released (.error .unknownHandle)), (after twoLoans).fleet) := by
  obtain ⟨⟨hstart, hextend⟩, hall⟩ := touches_only_own
  obtain ⟨log, hlog⟩ := hextend [] twoLoans [] hstart
  obtain ⟨honce, hserve⟩ := hall _ _ hlog
  -- the second pool closes the connection when it is discarded there, so it is its own
  have hcall : Call.close 1 (.ok ()) ∈
      (after twoLoans).fleet.calls 1 (.release ⟨0, 1, Instant.start⟩ none true) :=
    List.mem_cons_self
  have hopened := ((hserve 1 _ rfl _).1 _ hcall).2 1 (.close 1 _)
  have hforeign : ¬OpenedBy ([] ++ log) 0 1 := fun h => absurd (honce 0 1 1 h hopened) (by decide)
  exact ⟨_, hlog, rfl, rfl, hopened, (hserve 0 _ rfl _).2.2.2 _ _ _ rfl hforeign⟩

end Session

end ConnPool
