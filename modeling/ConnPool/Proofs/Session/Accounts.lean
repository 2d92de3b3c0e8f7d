import ConnPool.Proofs.Session.Acts
import ConnPool.Proofs.Simulation.Accounts

/-!
# The accounts after a script

Many have to do with one backend: pools that share it, factories of the registry, pruners, recycle
checks, and the script, which opens connections there, closes them and rolls them back by itself.
The accounts of the backend know nothing of that. They are balanced at every point of every script
(`ConnPool.Session.accounts_agree`), because a script is made of acts and the accounts add up from
act to act.
-/

namespace ConnPool

namespace Session

/-- **The accounts agree with the connections.** After every step of a script the world is what the
acts of the script until then have made of an empty one. And at every point on the way, after a step
or in the middle of one, the accounts of every backend are balanced, and a connection that has been
closed by somebody is closed, then and at every point after it. -/
theorem accounts_agree (script : List Step) :
    (∀ past rest, script = past ++ rest → acts script {} = acts past {} ++ acts rest (after past) ∧
        (after past).world = World.replay (acts past {}) {}) ∧
      (∀ past rest, acts script {} = past ++ rest → ∀ b,
        World.Balanced b (World.scenes past {}) (World.replay past {})) ∧
      ∀ past next rest, acts script {} = past ++ next ++ rest →
        ∀ c k, (World.replay past {}).conn? c = some k → 0 < k.closes →
          k.closed = true ∧ ∃ k', (World.replay (past ++ next) {}).conn? c = some k' ∧
            k'.backend = k.backend ∧ k'.serial = k.serial ∧ k'.closed = true := by
  refine ⟨?_, fun past _ _ b => World.balanced past b, ?_⟩
  · rintro past rest rfl
    exact ⟨acts_append past rest {}, world_playAll past {}⟩
  · intro past next _ _ c k hk hpos
    have hclosed : k.closed = true := World.marked_replay past hk hpos
    refine ⟨hclosed, ?_⟩
    rw [World.replay_append]
    exact World.closed_replay hk hclosed next

/-- Two pools share a backend with the script. The second pool is built while an attempt is to be
refused, the script closes a connection of its own twice although closing fails, and a connection of
the first pool comes back from a transaction and is then let go. -/
def sharedBackend : List Step :=
  [.build .exclusive { minConnections := 1, maxConnections := 3 } 0 .manual,
    .backend 0 (.connect (some "own")), .backend 0 (.refuseNext 1),
    .build .oneThread { minConnections := 2, maxConnections := 2 } 0 .manual,
    .backend 0 (.failClose true), .conn "own" .close, .conn "own" .close,
    .pool 0 (.request (.acquire none) (some "lent")), .conn "lent" (.setStatus .inTransaction),
    .pool 0 (.request (.release "lent" none false) none),
    .pool 0 (.request (.acquire none) (some "lent")),
    .pool 0 (.request (.release "lent" none true) none)]

/-- Of four attempts the third was refused. The second connection has been closed twice, and it
stays closed while the first pool goes on. -/
theorem accounts_agree_of_two_pools :
    ∃ w past rest k, (after sharedBackend).world = w ∧ acts sharedBackend {} = past ++ rest ∧
      World.Balanced 0 (World.scenes (past ++ rest) {}) w ∧
      (w.backend 0).attempts = 4 ∧ (w.backend 0).opened = 3 ∧
      (World.scenes (past ++ rest) {}).filterMap (World.Scene.refusal? 0) = [.connectRefused 3] ∧
      (w.backend 0).closed = 3 ∧ (w.backend 0).closeLog = [2, 2, 1] ∧
      (w.backend 0).rollbacks = 1 ∧
      (World.replay past {}).conn? 1 = some k ∧ k.closes = 2 ∧ rest.length = 7 ∧
      ∃ k', w.conn? 1 = some k' ∧ k'.closed = true := by
  obtain ⟨hsteps, hbalanced, hclosed⟩ := accounts_agree sharedBackend
  have hworld := (hsteps sharedBackend [] (List.append_nil _).symm).2
  obtain ⟨past, hpast⟩ : ∃ past, (acts sharedBackend {}).take 14 = past := ⟨_, rfl⟩
  obtain ⟨rest, hrest⟩ : ∃ rest, (acts sharedBackend {}).drop 14 = rest := ⟨_, rfl⟩
  have hsplit : acts sharedBackend {} = past ++ rest := by
    rw [← hpast, ← hrest, List.take_append_drop]
  have hconn : (World.replay past {}).conn? 1 = some
      { backend := 0, serial := 2, closed := true, closes := 2 } := by
    rw [← hpast]
    rfl
  obtain ⟨_, k', hk', _, _, hclosed'⟩ :=
    hclosed past rest [] (hsplit.trans (List.append_nil _).symm) 1 _ hconn (by decide)
  rw [← hsplit, ← hworld] at hk'
  refine ⟨_, past, rest, _, rfl, hsplit, ?_, rfl, rfl, ?_, rfl, rfl, rfl, hconn, rfl, ?_, k', hk',
    hclosed'⟩
  · rw [hworld, ← hsplit]
    exact hbalanced _ [] (List.append_nil _).symm 0
  · rw [← hsplit]
    rfl
  · rw [← hrest]
    rfl

end Session

end ConnPool
