import ConnPool.Proofs.Session.Acts
import ConnPool.Proofs.Simulation.Refusals

/-!
# Refusals in a script

A script tells a backend to refuse the next attempts to open a connection and goes on with whatever
it likes: it builds pools, has them open connections and opens some itself, all at the same backend,
and in between it may have every attempt refused for a while. None of the refusals it has ordered is
lost, and none comes twice (`ConnPool.Session.refusals_spent_exactly`).
-/

namespace ConnPool

namespace Session

open World (budget)

/-- A script that orders refusals sets the budget. -/
theorem budget_after_refuseNext (past : List Step) (b n : Nat) :
    (after (past ++ [.backend b (.refuseNext n)])).world.budget b = n := by
  rw [after_append]
  show ((((after past).world.mention b).updateBackend b _).backend b).refusals = n
  rw [World.backend_updateBackend, if_pos rfl]

/-- **Refusals are spent exactly.** A backend has been told to refuse the next `n` attempts, and is
not told so again. Then at every point on the way each attempt that was barred has been refused at
no cost; of the admitted ones the first `n` have been refused, and all others have succeeded; and
what is left of the budget is what they have left. So a pool with a floor, built while no attempt is
barred, makes one attempt and opens nothing if there is a budget, and then there is one less; and if
there is none, it makes as many attempts as it has a floor, and opens a connection with each of
them. -/
theorem refusals_spent_exactly :
    (∀ past b n rest, (∀ m, .backend b (.refuseNext m) ∉ rest) →
      ∀ s, after (past ++ [.backend b (.refuseNext n)]) = s →
        (playAll rest s).2.world = s.world.replay (acts rest s) ∧
        ∀ done still, acts rest s = done ++ still →
          World.Spent b n (World.scenes done s.world) (s.world.replay done)) ∧
      ∀ (w : World) (b : Nat) (clock : ClockKind) (config : Config), config.Valid →
        0 < config.floor → (w.backend b).refuseAll = false →
        (∀ n, w.budget b = n + 1 →
          Pool.build (World.driver b clock) config w =
            (.ok (Pool.fresh config), w.updateBackend b fun _ =>
              { w.backend b with attempts := (w.backend b).attempts + 1, refusals := n }) ∧
          (Pool.build (World.driver b clock).logged config (w, [])).2.2 =
            [.connect (.error (.connectRefused ((w.backend b).attempts + 1)))]) ∧
        (w.budget b = 0 → ∃ p v, Pool.build (World.driver b clock) config w = (.ok p, v) ∧
          p.size = config.floor ∧ World.Delivered b config.floor w v ∧
          (Pool.build (World.driver b clock).logged config (w, [])).2.2 =
            (List.range' w.conns.length config.floor).map fun c => .connect (.ok c)) := by
  refine ⟨?_, fun w b clock config hvalid hfloor hadmits => ⟨fun n hbudget => ?_, fun hnone => ?_⟩⟩
  · rintro past b n rest hrest s rfl
    refine ⟨world_playAll rest _, fun done still hacts => ?_⟩
    have hdone : ∀ m, .instruct b (.refuseNext m) ∉ done := fun m hmem =>
      hrest m (step_of_refuseNext_mem_acts (hacts ▸ List.mem_append_left still hmem))
    have hspent := World.spent_replay hdone (after (past ++ [.backend b (.refuseNext n)])).world
    rwa [budget_after_refuseNext] at hspent
  · exact World.build_of_budget hvalid hfloor hadmits hbudget clock
  · exact World.build_of_accepts hvalid ⟨hadmits, hnone⟩ clock

/-- A backend is told to refuse the next two attempts. A pool takes one of the refusals and a pool
of the registry the other, and an attempt in between is barred. Then the script and a third pool
open what they want. -/
def refusing : List Step :=
  [.build .exclusive { minConnections := 2, maxConnections := 2 } 0 .manual,
    .backend 0 (.refuseAll true), .backend 0 (.connect none), .backend 0 (.refuseAll false),
    .registry (.provide "dsn" {} 0), .backend 0 (.connect (some "own")),
    .build .oneThread { minConnections := 2, maxConnections := 3 } 0 .wall]

/-- Three attempts have been refused, of which one was barred. A pool that is built before them
makes one attempt, and one that is built after them opens three connections. -/
theorem refusals_spent_exactly_by_three_pools :
    ∃ s w p v, after [.backend 0 (.refuseNext 2)] = s ∧ (playAll refusing s).2.world = w ∧
      World.Spent 0 2 (World.scenes (acts refusing s) s.world) w ∧ budget 0 w = 0 ∧
      ((World.scenes (acts refusing s) s.world).filterMap (World.Scene.admitted? 0)).map
        Except.isOk = [false, false, true, true, true] ∧
      ((World.scenes (acts refusing s) s.world).filterMap (World.Scene.barred? 0)).length = 1 ∧
      (Pool.build (World.driver 0 .manual).logged { minConnections := 3 } (s.world, [])).2.2 =
        [.connect (.error (.connectRefused 1))] ∧
      Pool.build (World.driver 0 .manual) { minConnections := 3 } w = (.ok p, v) ∧ p.size = 3 ∧
      (v.backend 0).attempts = 9 ∧ (v.backend 0).opened = 6 := by
  obtain ⟨hspent, hbuild⟩ := refusals_spent_exactly
  have hrest : ∀ m, .backend 0 (.refuseNext m) ∉ refusing := by simp [refusing]
  obtain ⟨s, hs⟩ : ∃ s, after [.backend 0 (.refuseNext 2)] = s := ⟨_, rfl⟩
  obtain ⟨w, hw⟩ : ∃ w, (playAll refusing s).2.world = w := ⟨_, rfl⟩
  have hfirst : (s.world.backend 0).refuseAll = false ∧ s.world.budget 0 = 2 ∧
      (s.world.backend 0).attempts = 0 := by
    rw [← hs]
    exact ⟨rfl, rfl, rfl⟩
  have hlast : (w.backend 0).refuseAll = false ∧ w.budget 0 = 0 ∧
      (w.backend 0).attempts = 6 ∧ (w.backend 0).opened = 3 := by
    rw [← hw, ← hs]
    exact ⟨rfl, rfl, rfl, rfl⟩
  obtain ⟨_, hrefused⟩ := (hbuild s.world 0 .manual { minConnections := 3 } (by decide) (by decide)
    hfirst.1).1 1 hfirst.2.1
  obtain ⟨p, v, hbuilt, hsize, hdelivered, _⟩ :=
    (hbuild w 0 .manual { minConnections := 3 } (by decide) (by decide) hlast.1).2 hlast.2.1
  rw [hfirst.2.2] at hrefused
  refine ⟨s, w, p, v, hs, hw, ?_, hlast.2.1, ?_, ?_, hrefused, hbuilt, hsize, ?_, ?_⟩
  · obtain ⟨hworld, hpoints⟩ := hspent [] 0 2 refusing hrest s hs
    rw [← hw, hworld]
    exact hpoints _ [] (List.append_nil _).symm
  · rw [← hs]
    rfl
  · rw [← hs]
    rfl
  · rw [hdelivered.backend, hlast.2.2.1]
    rfl
  · rw [hdelivered.backend, hlast.2.2.2]
    rfl

end Session

end ConnPool
