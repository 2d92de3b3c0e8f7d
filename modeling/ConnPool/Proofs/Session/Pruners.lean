import ConnPool.Proofs.Session.Unattended

/-!
# Pruners are prunes

Whatever a script does with pruners, to the pools and their world it comes to prunes at the
ticks of the pruners, and to nothing else (`ConnPool.Session.pruners_are_prunes`). When the
ticks come can be read off the timetables of the pruners, and a script writes the timetables
by starting and stopping pruners (`ConnPool.Session.rescheduled`).

For pools on the manual clock even less is left of a wait. The clock stands still while
somebody waits, so the first tick of a pool evicts what there is to evict, and the others find
nothing.
-/

namespace ConnPool

namespace Session

open Fleet (firsts)

/-! ### Writing timetables -/

/-- **The timetables after a step.** A pruner that is started ticks from now on, at an interval
that suits pruners. One that is stopped through its handle does so no more, if it still did. -/
def rescheduled (step : Step) (s : Session) : List Timetable :=
  match step with
  | .spawnPruner i interval =>
    s.service.timetables ++ [⟨i, s.service.now, Pruner.fit interval, false⟩]
  | .pruner j .shutdown =>
    if s.service.finished? j = some false then
      s.service.timetables.modify j fun e => { e with stopped := true }
    else s.service.timetables
  | _ => s.service.timetables

theorem timetables_play (step : Step) (s : Session) :
    (s.play step).2.service.timetables = s.rescheduled step := by
  cases hstep : step.drivesPruners with
  | true =>
    cases step with
    | spawnPruner i interval => exact List.map_append
    | pruner j step =>
      cases step with
      | finished => rfl
      | shutdown => exact s.service.timetables_shutdown j
      | join limit => exact s.service.timetables_join j limit
    | wait i span => exact Service.timetables_pass _ _ _
    | _ => cases hstep
  | false =>
    have hsame : (s.play step).2 = (s.play step).2.manned s.service.pruners s.service.now :=
      congrArg Prod.snd (play_manned s.service.pruners s.service.now hstep s)
    rw [hsame]
    cases step with
    | spawnPruner i interval => cases hstep
    | pruner j step => cases hstep
    | _ => rfl

/-- **When a pool is due** by the timetables. -/
theorem mem_dueAt_iff {s : Service} {t : Nat} {i : PoolId} :
    i ∈ s.dueAt t ↔ ∃ e ∈ s.timetables, e.pool = i ∧ e.stopped = false ∧
      s.fleet.isClosed i = false ∧ ∃ k, 0 < k ∧ e.start + (e.interval.times k).ceilMillis = t := by
  rw [Service.mem_dueAt]
  constructor
  · rintro ⟨p, hp, rfl, hphase, hopen, hticks⟩
    exact ⟨p.timetable, List.mem_map_of_mem hp, rfl, decide_eq_false hphase, hopen, hticks⟩
  · rintro ⟨e, he, rfl, hstopped, hopen, hticks⟩
    obtain ⟨p, hp, rfl⟩ := List.mem_map.mp he
    exact ⟨p, hp, rfl, of_decide_eq_false hstopped, hopen, hticks⟩

/-! ### Steps and waits at the end of a script -/

theorem after_concat (past : List Step) (step : Step) :
    after (past ++ [step]) = ((after past).play step).2 := after_append past [step]

/-- Without pruners no step has to do with any. -/
theorem drivesPruners_of_mem_unpruned {script : List Step} {s : Session} {step : Step}
    (h : step ∈ unpruned script s) : step.drivesPruners = false := by
  induction script generalizing s with
  | nil => cases h
  | cons first script ih =>
    rcases List.mem_append.mp h with hfirst | hrest
    · rw [byHand] at hfirst
      split at hfirst
      · obtain ⟨i, _, rfl⟩ := List.mem_map.mp hfirst
        rfl
      · rename_i hdrives
        obtain rfl := List.mem_singleton.mp hfirst
        exact Bool.eq_false_iff.mpr hdrives
    · exact ih hrest

theorem after_unpruned (script : List Step) :
    after (unpruned script {}) = (after script).unattended :=
  playAll_unpruned (s := {}) script fun _ hp => nomatch hp

/-- **The pools that are due while somebody waits.** -/
def dueIn (span : Nat) (s : Session) : List PoolId := s.service.dueBy (s.service.now + span)

theorem after_wait (past : List Step) (i : PoolId) (span : Nat) :
    after (past ++ [.wait i span]) =
      { after past with service := (after past).service.wait span } := after_concat past _

theorem after_wait_wait (past : List Step) (i j : PoolId) (a b : Nat) :
    after (past ++ [.wait i a, .wait j b]) =
      { after past with service := ((after past).service.wait a).wait b } :=
  after_append past [.wait i a, .wait j b]

/-- **Pruners come to prunes at their ticks.** Take any script, and have the pools pruned by
hand when they are due instead.

* The script then does without pruners, and the pools, the world, the registry and the names
  are after it what they are with pruners.
* A step that has nothing to do with pruners remains as it is, and so does the reply to it.
  In place of any other step the pools are pruned that are due from its beginning to its end.
* A pool is due at the ticks of each of its pruners, if it is open by then and the pruner has
  not been stopped. The `k`th tick comes when `k` intervals have passed since the pruner was
  started, for `k` from one on; what is started and stopped when, is up to the script.
* A wait, however long, prunes each pool on the manual clock that is due once, where it is due
  first, and does nothing to the pools that are not due. If only such pools are due, the pools
  are pruned in the order in which they are due for the first time.
* Two waits are one wait. -/
theorem pruners_are_prunes :
    (∀ script, after (unpruned script {}) = (after script).unattended ∧
      ∀ step ∈ unpruned script {}, step.drivesPruners = false) ∧
    (∀ past step,
      unpruned (past ++ [step]) {} = unpruned past {} ++
        (if step.drivesPruners then
          ((after past).service.dueBy (after (past ++ [step])).service.now).map .prune
        else [step]) ∧
      (step.drivesPruners = false →
        ((after (unpruned past {})).play step).1 = ((after past).play step).1 ∧
        (after (past ++ [step])).service.now = (after past).service.now)) ∧
    (∀ past step i t,
      (i ∈ (after past).service.dueAt t ↔
        ∃ e ∈ (after past).service.timetables, e.pool = i ∧ e.stopped = false ∧
          (after past).fleet.isClosed i = false ∧
          ∃ k, 0 < k ∧ e.start + (e.interval.times k).ceilMillis = t) ∧
      (after (past ++ [step])).service.timetables = (after past).rescheduled step) ∧
    (∀ past i span,
      (after (past ++ [.wait i span])).service.now = (after past).service.now + span ∧
      (after (past ++ [.wait i span])).fleet =
        (after past).fleet.pruneEach (firsts (after past).fleet ((after past).dueIn span)) ∧
      (∀ k ∈ (after past).dueIn span, (after past).fleet.onManual k = true →
        (firsts (after past).fleet ((after past).dueIn span)).count k = 1) ∧
      ((∀ k ∈ (after past).dueIn span, (after past).fleet.onManual k = true) →
        firsts (after past).fleet ((after past).dueIn span) =
          ((after past).dueIn span).eraseDups) ∧
      ∀ k ∉ (after past).dueIn span,
        (after (past ++ [.wait i span])).fleet.member? k = (after past).fleet.member? k) ∧
    ∀ past i j k a b,
      after (past ++ [.wait i a, .wait j b]) = after (past ++ [.wait k (a + b)]) := by
  refine ⟨fun script => ⟨after_unpruned script, fun _ => drivesPruners_of_mem_unpruned⟩,
    fun past step => ⟨?_, fun hstep => ?_⟩, fun past step i t => ⟨mem_dueAt_iff, ?_⟩,
    fun past i span => ?_, fun past i j k a b => ?_⟩
  · rw [unpruned_append, after_concat]
    rfl
  · have hreply := play_manned [] 0 hstep (after past)
    have hsame := play_manned (after past).service.pruners (after past).service.now hstep
      (after past)
    rw [after_unpruned, after_concat]
    exact ⟨congrArg (fun outcome => outcome.1) hreply,
      congrArg (fun outcome => outcome.2.service.now) hsame⟩
  · rw [after_concat]
    exact timetables_play step (after past)
  · have hfleet := (wellKept_after past).fleet_wait span
    rw [after_wait]
    refine ⟨Service.now_wait span _, ?_, fun k hk hmanual => Fleet.count_firsts hmanual hk,
      Fleet.firsts_eq_eraseDups, fun k hk => ?_⟩
    · rw [Fleet.pruneEach_firsts]
      exact hfleet
    · exact (congrArg (·.member? k) hfleet).trans (Fleet.member?_pruneEach hk _)
  · rw [after_wait_wait, after_wait, (wellKept_after past).wait_wait]

/-- Two pools with a pruner each, and a connection in each of them that has idled for long. -/
def twoPruners : List Step :=
  [.build .manyThreads { minConnections := 0, idleTimeout := ⟨5⟩ } 0 .manual,
   .build .manyThreads { minConnections := 0, idleTimeout := ⟨5⟩ } 0 .manual,
   .pool 0 (.request (.acquire none) (some "a")),
   .pool 0 (.request (.release "a" none false) none),
   .pool 1 (.request (.acquire none) (some "b")),
   .pool 1 (.request (.release "b" none false) none),
   .spawnPruner 0 (Duration.ofMillis 30),
   .spawnPruner 1 (Duration.ofMillis 25),
   .advance ⟨5⟩]

/-- Seven ticks come while somebody waits for a tenth of a second, but only the first of each
pool counts. -/
theorem pruners_are_prunes_of_two :
    (after twoPruners).dueIn 100 = [1, 0, 1, 0, 1, 0, 1] ∧
      (∀ k ∈ (after twoPruners).dueIn 100, (after twoPruners).fleet.onManual k = true) ∧
      (Step.wait 0 100).drivesPruners = true ∧
      unpruned (twoPruners ++ [.wait 0 100]) {} =
        unpruned twoPruners {} ++ [1, 0, 1, 0, 1, 0, 1].map .prune ∧
      (after (twoPruners ++ [.wait 0 100])).fleet =
        (((after twoPruners).fleet.prune 1).2.prune 0).2 ∧
      ((after (twoPruners ++ [.wait 0 60, .wait 1 40])).world.backend 0).closeLog = [2, 1] := by
  obtain ⟨_, hsteps, _, hwaits, hsplit⟩ := pruners_are_prunes
  have hdue : (after twoPruners).dueIn 100 = [1, 0, 1, 0, 1, 0, 1] := by decide +kernel
  have hmanual : ∀ k ∈ (after twoPruners).dueIn 100,
      (after twoPruners).fleet.onManual k = true := by decide +kernel
  obtain ⟨hnow, hfleet, _, hfirsts, _⟩ := hwaits twoPruners 0 100
  have hbyHand := (hsteps twoPruners (.wait 0 100)).1
  rw [hnow] at hbyHand
  have honce : [1, 0, 1, 0, 1, 0, 1].eraseDups = [1, 0] := by decide
  rw [hfirsts hmanual, hdue, honce] at hfleet
  refine ⟨hdue, hmanual, rfl, ?_, hfleet, ?_⟩
  · exact hbyHand.trans (congrArg (unpruned twoPruners {} ++ List.map .prune ·) hdue)
  · rw [hsplit twoPruners 0 1 0 60 40]
    show ((after (twoPruners ++ [.wait 0 100])).fleet.world.backend 0).closeLog = [2, 1]
    rw [hfleet]
    decide +kernel

end Session

end ConnPool
