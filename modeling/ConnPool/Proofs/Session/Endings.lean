import ConnPool.Proofs.Session.PrunerSteps
import Mathlib.Data.Nat.Find

/-!
# Pruners end at the first tick after a close

A pruner ends at the first of its ticks at which its pool is closed, and at each tick before that
it prunes its pool. Whether somebody holds its handle makes no difference: to wait for the pruner
in vain gives the handle up, and the pruner goes on. Only to stop it through the handle puts an
end to this before its time.

The main statement, `ConnPool.Session.ends_at_first_tick_after_close`, follows a pruner from the
step that starts it through any further steps of a script. The induction is on those steps
(`ConnPool.Session.Followed.concat`). What carries it is that a tick has come after a close or has
not, whatever is done after that tick (`ConnPool.Session.before_concat`), and that a tick which is
still to come is after a close if the pool is closed now (`ConnPool.Session.Lasting.before_iff`).
-/

namespace ConnPool

namespace Session

variable {i : PoolId} {j t : Nat} {p : Pruner} {past rest script : List Step}
  {interval : Duration} {tick : Nat → Nat}

/-! ### A pruner from its start on -/

/-- **A tick has come by a time at which the pool was closed.** -/
def EndsBy (script : List Step) (i : PoolId) (tick : Nat → Nat) (u : Nat) : Prop :=
  ∃ k, 0 < k ∧ tick k ≤ u ∧ ClosedBefore script (tick k) i

/-- **What has become of a pruner** by the end of a script, `rest` being the steps since it was
started: whether its handle is held, whether it has been stopped or has ended, and when it has
pruned its pool. -/
structure Followed (script rest : List Step) (j : Nat) (i : PoolId) (tick : Nat → Nat)
    (p : Pruner) : Prop where
  present : (after script).service.pruner? j = some p
  pool_eq : p.pool = i
  tickTime_eq : p.tickTime = tick
  attached : p.attached = true ↔ ∀ step ∈ rest, ¬step.GivesUp j
  stopped : p.phase = .stopped → .pruner j .shutdown ∈ rest
  ended : p.phase = .ended → EndsBy script i tick (after script).service.now
  running : p.phase = .running → ¬EndsBy script i tick (after script).service.now
  prunes : ∀ t, (t, j) ∈ prunes script {} ↔ (∃ k, 0 < k ∧ tick k = t) ∧
    t ≤ (after script).service.now ∧ ¬ClosedBefore script t i ∧ ¬StoppedBefore script t j

/-- When the ticks come of a pruner that is started after some steps. -/
def ticksFrom (past : List Step) (interval : Duration) (k : Nat) : Nat :=
  (after past).service.now + ((Pruner.fit interval).times k).ceilMillis

/-- The pruner has only just been started. -/
theorem followed_start (past : List Step) (i : PoolId) (interval : Duration) :
    Followed (past ++ [.spawnPruner i interval]) [] (after past).service.pruners.length i
      (ticksFrom past interval)
      { pool := i, start := (after past).service.now, interval := Pruner.fit interval } := by
  have hnow : (after (past ++ [.spawnPruner i interval])).service.now =
      (after past).service.now := by
    rw [after_concat]
    rfl
  have hpos : 0 < (Pruner.fit interval).nanos :=
    Nat.lt_of_lt_of_le (by decide) (Pruner.minPruneInterval_le_fit interval)
  have hcome : ∀ k, 0 < k → (after past).service.now < ticksFrom past interval k :=
    fun k hk => Pruner.start_lt_tickTime (p := ⟨i, _, Pruner.fit interval, .running, true⟩) hpos hk
  exact {
    present := by
      rw [after_concat]
      exact List.getElem?_concat_length
    pool_eq := rfl
    tickTime_eq := rfl
    attached := iff_of_true rfl fun _ hmem => nomatch hmem
    stopped := nofun
    ended := nofun
    running := fun _ ⟨k, hk, hle, _⟩ => by
      rw [hnow] at hle
      exact absurd (hcome k hk) (Nat.not_lt.mpr hle)
    prunes := fun t => by
      refine iff_of_false (fun hmem => ?_) ?_
      · rw [prunes_concat, List.mem_append] at hmem
        rcases hmem with hmem | hmem
        · obtain ⟨p, hp⟩ := present_of_mem_prunes hmem
          obtain ⟨hlt, _⟩ := List.getElem?_eq_some_iff.mp hp
          exact Nat.lt_irrefl _ hlt
        · cases hmem
      · rintro ⟨⟨k, hk, rfl⟩, hle, _⟩
        rw [hnow] at hle
        exact absurd (hcome k hk) (Nat.not_lt.mpr hle) }

/-- **When it prunes in a step**: at those of its ticks that come in the step, unless its pool has
been closed or it has been stopped before. -/
theorem Followed.mem_prunesBy (h : Followed script rest j i tick p) (step : Step) :
    (t, j) ∈ (after script).prunesBy step ↔ (after script).service.now < t ∧
      t ≤ (after (script ++ [step])).service.now ∧ (∃ k, 0 < k ∧ tick k = t) ∧
        ¬ClosedBefore script t i ∧ ¬StoppedBefore script t j := by
  obtain ⟨hpresent, rfl, rfl, _⟩ := h
  have hself : ∀ {q}, (after script).service.pruner? j = some q → p = q := fun hq =>
    Option.some.inj (hpresent.symm.trans hq)
  rw [Session.mem_prunesBy (wellKept_after script) step, after_concat]
  refine and_congr_right fun hlt => and_congr_right fun _ => ?_
  have hopen : ¬ClosedBefore script t p.pool ↔ (after script).fleet.isClosed p.pool = false :=
    ((lasting_isClosed p.pool).before_iff hlt).not.trans Bool.eq_false_iff.symm
  have hstopped : StoppedBefore script t j ↔ p.phase = .stopped := by
    refine ((lasting_isStopped j).before_iff hlt).trans ⟨?_, fun hphase => ⟨p, hpresent, hphase⟩⟩
    rintro ⟨q, hq, hphase⟩
    obtain rfl := hself hq
    exact hphase
  rw [hopen, hstopped]
  constructor
  · rintro ⟨q, hq, hdue⟩
    obtain rfl := hself hq
    obtain ⟨hphase, hpool, htick⟩ := Service.due_iff.mp hdue
    exact ⟨htick, hpool, hphase⟩
  · rintro ⟨htick, hpool, hphase⟩
    exact ⟨p, hpresent, Service.due_iff.mpr ⟨hphase, hpool, htick⟩⟩

/-- **What one more step makes of it.** -/
theorem Followed.concat (h : Followed script rest j i tick p) (step : Step) :
    ∃ p', Followed (script ++ [step]) (rest ++ [step]) j i tick p' := by
  have hmem := fun t => h.mem_prunesBy (t := t) step
  obtain ⟨hpresent, rfl, rfl, hattached, hstopped, hended, hrunning, hprunes⟩ := h
  have hkept := wellKept_after script
  have hpos := (hkept p (List.mem_of_getElem? hpresent)).pos
  obtain ⟨p', hp'⟩ := becomes_play hkept hpresent step
  have hle : (after script).service.now ≤ (after (script ++ [step])).service.now :=
    now_le_of_past (List.prefix_append _ _)
  have hnow : ((after script).play step).2.service.now =
    (after (script ++ [step])).service.now := by rw [after_concat]
  -- what was before a tick that has come is settled, and so is what is before one to come
  have hclosed : ∀ {t}, t ≤ (after (script ++ [step])).service.now →
      (ClosedBefore (script ++ [step]) t p.pool ↔ ClosedBefore script t p.pool) := before_concat
  have hnext : ∀ {t}, (after script).service.now < t →
      (ClosedBefore script t p.pool ↔ (after script).fleet.isClosed p.pool = true) :=
    (lasting_isClosed p.pool).before_iff
  refine ⟨p', {
    present := after_concat script step ▸ hp'.present
    pool_eq := hp'.pool_eq
    tickTime_eq := hp'.tickTime_eq
    attached := ?attached
    stopped := ?stopped
    ended := ?ended
    running := ?running
    prunes := ?prunes }⟩
  case attached =>
    rw [hp'.attached, hattached, List.forall_mem_append, List.forall_mem_singleton]
  case stopped =>
    intro hphase
    rw [List.mem_append, List.mem_singleton]
    rcases hp'.stopped.mp hphase with hphase | ⟨_, _, hstep⟩
    · exact Or.inl (hstopped hphase)
    · exact Or.inr hstep.symm
  case ended =>
    intro hphase
    rcases hp'.ended.mp hphase with hphase | ⟨_, hpool, htick⟩
    · obtain ⟨k, hk, hcome, hclosed'⟩ := hended hphase
      have hcome' := Nat.le_trans hcome hle
      exact ⟨k, hk, hcome', (hclosed hcome').mpr hclosed'⟩
    · rw [hnow] at htick
      exact ⟨_, Nat.succ_pos _, htick,
        (hclosed htick).mpr ((hnext (Pruner.lt_nextTick hpos _)).mpr hpool)⟩
  case running =>
    rintro hphase ⟨k, hk, hcome, hpool⟩
    have hbefore : p.phase = .running := by
      cases hold : p.phase with
      | running => rfl
      | ended => cases hphase.symm.trans (hp'.ended.mpr (Or.inl hold))
      | stopped => cases hphase.symm.trans (hp'.stopped.mpr (Or.inl hold))
    rw [hclosed hcome] at hpool
    by_cases hold : p.tickTime k ≤ (after script).service.now
    · exact hrunning hbefore ⟨k, hk, hold, hpool⟩
    · -- it would have ended at its first tick in this step
      have hlt := Nat.lt_of_not_le hold
      rw [hnext hlt] at hpool
      have htick := Nat.le_trans (Pruner.nextTick_le hpos hk hlt) hcome
      rw [← hnow] at htick
      cases hphase.symm.trans (hp'.ended.mpr (Or.inr ⟨hbefore, hpool, htick⟩))
  case prunes =>
    intro t
    have hconcat : Session.prunes (script ++ [step]) {} =
      Session.prunes script {} ++ (after script).prunesBy step := prunes_concat script step {}
    have hstop : t ≤ (after (script ++ [step])).service.now →
        (StoppedBefore (script ++ [step]) t j ↔ StoppedBefore script t j) := before_concat
    rw [hconcat, List.mem_append, hprunes, hmem]
    constructor
    · rintro (⟨htick, hold, hopen, hgoing⟩ | ⟨_, hcome, htick, hopen, hgoing⟩)
      · have hcome := Nat.le_trans hold hle
        exact ⟨htick, hcome, (hclosed hcome).not.mpr hopen, (hstop hcome).not.mpr hgoing⟩
      · exact ⟨htick, hcome, (hclosed hcome).not.mpr hopen, (hstop hcome).not.mpr hgoing⟩
    · rintro ⟨htick, hcome, hopen, hgoing⟩
      have hopen' := (hclosed hcome).not.mp hopen
      have hgoing' := (hstop hcome).not.mp hgoing
      rcases Nat.lt_or_ge (after script).service.now t with hlt | hold
      · exact Or.inr ⟨hlt, hcome, htick, hopen', hgoing'⟩
      · exact Or.inl ⟨htick, hold, hopen', hgoing'⟩

/-- **A pruner is followed** from its start through any further steps. -/
theorem followed (past rest : List Step) (i : PoolId) (interval : Duration) :
    ∃ p, Followed (past ++ .spawnPruner i interval :: rest) rest
      (after past).service.pruners.length i (ticksFrom past interval) p := by
  induction rest using List.reverseRecOn with
  | nil => exact ⟨_, followed_start past i interval⟩
  | append_singleton rest step ih =>
    obtain ⟨p, hp⟩ := ih
    have hnext := hp.concat step
    rwa [List.append_assoc] at hnext

/-! ### Whether it has ended -/

theorem Followed.ended_iff (h : Followed script rest j i tick p) (hphase : p.phase ≠ .stopped) :
    p.phase = .ended ↔ EndsBy script i tick (after script).service.now := by
  refine ⟨h.ended, fun hends => ?_⟩
  cases hold : p.phase with
  | ended => rfl
  | stopped => exact absurd hold hphase
  | running => exact absurd hends (h.running hold)

/-- A pruner whose handle is held has not been stopped. -/
theorem Followed.not_stopped (h : Followed script rest j i tick p) (hheld : p.attached = true) :
    p.phase ≠ .stopped := fun hphase => h.attached.mp hheld _ (h.stopped hphase) .shutdown

theorem Followed.held_iff (h : Followed script rest j i tick p) :
    (∃ done, (after script).service.finished? j = some done) ↔ p.attached = true := by
  rw [Service.finished?_eq h.present]
  split
  · rename_i hheld
    exact iff_of_true ⟨_, rfl⟩ hheld
  · rename_i hheld
    exact iff_of_false nofun hheld

theorem Followed.done_iff (h : Followed script rest j i tick p) {done : Bool}
    (hdone : (after script).service.finished? j = some done) :
    done = true ↔ EndsBy script i tick (after script).service.now := by
  have hheld := h.held_iff.mp ⟨done, hdone⟩
  rw [Service.finished?_eq h.present, if_pos hheld, Option.some_inj] at hdone
  rw [← hdone, decide_eq_true_iff, h.ended_iff (h.not_stopped hheld)]

theorem Followed.hasEnded_iff (h : Followed script rest j i tick p)
    (hgoing : .pruner j .shutdown ∉ rest) : (after script).service.hasEnded j = true ↔
      EndsBy script i tick (after script).service.now := by
  rw [← h.ended_iff fun hphase => hgoing (h.stopped hphase), Service.hasEnded_iff]
  constructor
  · rintro ⟨q, hq, hphase⟩
    obtain rfl : p = q := Option.some.inj (h.present.symm.trans hq)
    exact hphase
  · exact fun hphase => ⟨p, h.present, hphase⟩

/-! ### Waiting for its end -/

/-- **The first tick after a close**, of those of a pruner. -/
structure IsEnd (script : List Step) (i : PoolId) (tick : Nat → Nat) (k : Nat) : Prop where
  pos : 0 < k
  closed : ClosedBefore script (tick k) i
  first : ∀ l, 0 < l → ClosedBefore script (tick l) i → k ≤ l

theorem exists_isEnd {k : Nat} (hk : 0 < k) (h : ClosedBefore script (tick k) i) :
    ∃ l, l ≤ k ∧ IsEnd script i tick l := by
  classical
  have hsome : ∃ l, 0 < l ∧ ClosedBefore script (tick l) i := ⟨k, hk, h⟩
  exact ⟨Nat.find hsome, Nat.find_min' hsome ⟨hk, h⟩, (Nat.find_spec hsome).1,
    (Nat.find_spec hsome).2, fun l hl hclosed => Nat.find_min' hsome ⟨hl, hclosed⟩⟩

/-- **What comes of waiting for the end of a pruner.** Either the tick comes in time at which it
ends, or has come before; or it does not, and the waiting is in vain. -/
theorem Followed.join (h : Followed script rest j i tick p) (hheld : p.attached = true) (w : Nat) :
    (EndsBy script i tick ((after script).service.now + w) ∧
        ((after script).service.join j w).1 = some true ∧ ∃ k, IsEnd script i tick k ∧
          ((after script).service.join j w).2.now = max (after script).service.now (tick k)) ∨
      (¬EndsBy script i tick ((after script).service.now + w) ∧
        ((after script).service.join j w).1 = some false ∧
        ((after script).service.join j w).2.now = (after script).service.now + w) := by
  have hphase := h.not_stopped hheld
  obtain ⟨hpresent, rfl, rfl, _, _, hended, hrunning, _⟩ := h
  have hkept := wellKept_after script
  have hpos := (hkept p (List.mem_of_getElem? hpresent)).pos
  have hnext : ∀ {t}, (after script).service.now < t →
      (ClosedBefore script t p.pool ↔ (after script).fleet.isClosed p.pool = true) :=
    (lasting_isClosed p.pool).before_iff
  cases hold : p.phase with
  | stopped => exact absurd hold hphase
  | ended =>
    obtain ⟨k, hk, hcome, hclosed⟩ := hended hold
    obtain ⟨l, hlk, hl⟩ := exists_isEnd hk hclosed
    obtain ⟨hanswer, hnow⟩ := Service.join_of_ended hpresent hheld hold w
    have hcome' := Nat.le_trans (p.tickTime_mono hlk) hcome
    exact Or.inl ⟨⟨k, hk, Nat.le_trans hcome (Nat.le_add_right _ _), hclosed⟩, hanswer, l, hl,
      hnow.trans (Nat.max_eq_left hcome').symm⟩
  | running =>
    -- a tick that has come was not after a close, or the pruner would have ended
    have hlate : ∀ {k}, 0 < k → ClosedBefore script (p.tickTime k) p.pool →
        (after script).service.now < p.tickTime k := fun hk hclosed =>
      Nat.lt_of_not_le fun hle => hrunning hold ⟨_, hk, hle, hclosed⟩
    have hfirst := Pruner.lt_nextTick hpos (after script).service.now
    rcases hkept.join_of_running hpresent hheld hold w with
      ⟨hanswer, hpool, hle, hnow⟩ | ⟨hanswer, hpool, hnow⟩
    · have hclosed := (hnext hfirst).mpr hpool
      refine Or.inl ⟨⟨_, Nat.succ_pos _, hle, hclosed⟩, hanswer, _,
        ⟨Nat.succ_pos _, hclosed, fun l hl hclosed => ?_⟩,
        hnow.trans (Nat.max_eq_right (Nat.le_of_lt hfirst)).symm⟩
      refine Nat.succ_le_of_lt (Nat.lt_of_not_le fun hcome => ?_)
      exact Nat.not_le_of_gt (hlate hl hclosed) ((Pruner.tickTime_le_iff hpos hl).mpr hcome)
    · refine Or.inr ⟨?_, hanswer, hnow⟩
      rintro ⟨k, hk, hcome, hclosed⟩
      have hlt := hlate hk hclosed
      exact Nat.not_le_of_gt (hpool ((hnext hlt).mp hclosed))
        (Nat.le_trans (Pruner.nextTick_le hpos hk hlt) hcome)

/-! ### Shutting it down -/

/-- **A pruner that has been shut down does not prune any more**: either it had ended before, or
it has been stopped. -/
theorem Followed.le_of_shutdown {rest' later : List Step} {p' : Pruner}
    (h : Followed script rest j i tick p) (hheld : p.attached = true)
    (h' : Followed (script ++ .pruner j .shutdown :: later) rest' j i tick p')
    (hmem : (t, j) ∈ Session.prunes (script ++ .pruner j .shutdown :: later) {}) :
    t ≤ (after script).service.now := by
  obtain ⟨_, _, hopen, hgoing⟩ := (h'.prunes t).mp hmem
  refine Nat.le_of_not_lt fun hlt => ?_
  cases hphase : p.phase with
  | stopped => exact h.not_stopped hheld hphase
  | ended =>
    obtain ⟨k, _, hcome, hclosed⟩ := h.ended hphase
    exact hopen ((hclosed.of_past (List.prefix_append _ _)).mono
      (Nat.le_of_lt (Nat.lt_of_le_of_lt hcome hlt)))
  | running =>
    obtain ⟨q, hq⟩ := becomes_play (wellKept_after script) h.present (.pruner j .shutdown)
    have hnow : (after (script ++ [.pruner j .shutdown])).service.now =
        (after script).service.now := by
      rw [after_concat]
      exact (after script).service.now_shutdown j
    refine hgoing ⟨script ++ [.pruner j .shutdown], ⟨later, (List.append_cons ..).symm⟩,
      hnow ▸ hlt, q, ?_, ?_⟩
    · rw [after_concat]
      exact hq.present
    · exact hq.stopped.mpr (Or.inr ⟨hphase, hheld, rfl⟩)

/-! ### Main statement -/

/-- **A pruner ends at its first tick after its pool closes**, and not before. Take a script that
starts a pruner on some pool. Its `k`th tick comes when `k` intervals have passed since then, for
`k` from one on, the interval being raised to ten milliseconds if it is shorter. A pool is closed by
being asked to, by the removal of its dsn, and by tearing down the registry.

* The handle is held until the pruner is shut down or waited for. As long as it is held, it tells
  that the pruner has ended if a tick has come at which the pool was closed. When it is not held any
  more, the pruner has ended under the same condition, unless it has been shut down.
* A pruner that has ended stays so.
* Prunes are all that is done to the fleet in the steps that have to do with pruners. This one
  prunes its pool at each of its ticks at which the pool was not closed, unless it has been shut
  down before. That somebody has waited for it in vain makes no difference. It does not prune at the
  tick at which it ends, or after that.
* Whoever waits for it to end is told that it has ended, if a tick at which the pool is closed has
  come or comes in time. By then the first of these ticks has come, and it has not become later than
  that. Otherwise the waiting takes its time.
* Once it has been shut down through its handle, it never prunes again. -/
theorem ends_at_first_tick_after_close (hscript : script = past ++ .spawnPruner i interval :: rest)
    (hj : j = (after past).service.pruners.length)
    (htick : ∀ k, tick k =
      (after past).service.now + ((interval.max (Duration.ofMillis 10)).times k).ceilMillis) :
    (∀ t, ClosedBefore script t i ↔ ∃ before step, before ++ [step] <+: script ∧
      (after (before ++ [step])).service.now < t ∧ (after before).Closes i step ∧
        i < (after before).fleet.members.length) ∧
    (((∃ done, (after script).service.finished? j = some done) ↔
        ∀ step ∈ rest, ¬step.GivesUp j) ∧
      (∀ done, (after script).service.finished? j = some done →
        (done = true ↔ EndsBy script i tick (after script).service.now)) ∧
      (.pruner j .shutdown ∉ rest → ((after script).service.hasEnded j = true ↔
        EndsBy script i tick (after script).service.now))) ∧
    (∀ more, (after script).service.hasEnded j = true →
      (after (script ++ more)).service.hasEnded j = true) ∧
    ((∀ before step, step.drivesPruners = true → (after (before ++ [step])).fleet =
        (after before).fleet.pruneEach (((after before).prunesBy step).filterMap fun e =>
          (after before).service.poolOf? e.2)) ∧
      (∀ t, (t, j) ∈ prunes script {} ↔ (∃ k, 0 < k ∧ tick k = t) ∧
        t ≤ (after script).service.now ∧ ¬ClosedBefore script t i ∧ ¬StoppedBefore script t j) ∧
      ∀ k t, ClosedBefore script (tick k) i → (t, j) ∈ prunes script {} → t < tick k) ∧
    (∀ done w, (after script).service.finished? j = some done →
      (EndsBy script i tick ((after script).service.now + w) ∧
        ((after script).play (.pruner j (.join w))).1.answer = .flag true ∧
        ∃ k, IsEnd script i tick k ∧ ((after script).play (.pruner j (.join w))).2.service.now =
          max (after script).service.now (tick k)) ∨
      (¬EndsBy script i tick ((after script).service.now + w) ∧
        ((after script).play (.pruner j (.join w))).1.answer = .flag false ∧
        ((after script).play (.pruner j (.join w))).2.service.now =
          (after script).service.now + w)) ∧
    ∀ before later done t, script = before ++ .pruner j .shutdown :: later →
      (after before).service.finished? j = some done → (t, j) ∈ prunes script {} →
        t ≤ (after before).service.now := by
  obtain rfl : tick = ticksFrom past interval := funext htick
  obtain ⟨p, hp⟩ := followed past rest i interval
  rw [← hscript, ← hj] at hp
  refine ⟨fun t => closedBefore_iff,
    ⟨hp.held_iff.trans hp.attached, fun done hdone => hp.done_iff hdone, hp.hasEnded_iff⟩,
    fun more => (lasting_hasEnded j).of_past (List.prefix_append script more),
    ⟨fun before step hstep => ?fleet, hp.prunes, fun k t hclosed hmem => ?spared⟩,
    fun done w hdone => ?join, fun before later done t hbefore hdone hmem => ?shutdown⟩
  case fleet =>
    rw [after_concat]
    exact fleet_prunesBy hstep (after before)
  case spared =>
    obtain ⟨_, _, hopen, _⟩ := (hp.prunes t).mp hmem
    exact Nat.lt_of_not_le fun hle => hopen (hclosed.mono hle)
  case join =>
    have hanswer : ((after script).play (.pruner j (.join w))).1.answer =
      ((after script).service.join j w).1.elim .nothing .flag := rfl
    have hnow : ((after script).play (.pruner j (.join w))).2.service =
      ((after script).service.join j w).2 := rfl
    rw [hanswer, hnow]
    refine (hp.join (hp.held_iff.mp ⟨done, hdone⟩) w).imp ?_ ?_
    · rintro ⟨hends, htrue, hend⟩
      exact ⟨hends, htrue ▸ rfl, hend⟩
    · rintro ⟨hends, hfalse, hend⟩
      exact ⟨hends, hfalse ▸ rfl, hend⟩
  case shutdown =>
    subst hscript hj
    rcases List.append_eq_append_iff.mp hbefore with ⟨l, rfl, hl⟩ | ⟨l, hpast, _⟩
    · cases l with
      | nil => cases hl
      | cons first l =>
        obtain ⟨rfl, hrest⟩ := List.cons.inj hl
        obtain ⟨q, hq⟩ := followed past l i interval
        rw [hbefore] at hp hmem
        exact hq.le_of_shutdown (hq.held_iff.mp ⟨done, hdone⟩) hp hmem
    · -- it had not been started then
      obtain ⟨q, hq, _⟩ := Option.map_eq_some_iff.mp hdone
      obtain ⟨_, hq'⟩ := (lasting_present _).of_past ⟨l, hpast.symm⟩
        ⟨q, (Option.filter_eq_some_iff.mp hq).1⟩
      obtain ⟨hlt, _⟩ := List.getElem?_eq_some_iff.mp hq'
      exact absurd hlt (Nat.lt_irrefl _)

/-- A pruner that ticks every 25 milliseconds, and a pool that is closed between two ticks. -/
def closedBetweenTicks : List Step :=
  [.build .manyThreads { minConnections := 0 } 0 .manual, .spawnPruner 0 (Duration.ofMillis 25),
   .wait 0 30, .pool 0 (.request .closeAll none), .wait 0 10]

/-- The first tick has come before the close and has pruned the pool; the second is still to come.
Who waits for it for five milliseconds waits in vain, and who waits for fifteen is told after ten
that the pruner has ended. -/
theorem ends_at_first_tick_after_close_between_ticks :
    (after closedBetweenTicks).service.now = 40 ∧
      (after closedBetweenTicks).service.finished? 0 = some false ∧
      prunes closedBetweenTicks {} = [(25, 0)] ∧ ClosedBefore closedBetweenTicks 50 0 ∧
      ¬ClosedBefore closedBetweenTicks 25 0 ∧
      ((after closedBetweenTicks).play (.pruner 0 (.join 5))).1.answer = .flag false ∧
      ((after closedBetweenTicks).play (.pruner 0 (.join 5))).2.service.now = 45 ∧
      ((after closedBetweenTicks).play (.pruner 0 (.join 15))).1.answer = .flag true ∧
      ((after closedBetweenTicks).play (.pruner 0 (.join 15))).2.service.now = 50 := by
  obtain ⟨_, _, _, ⟨_, hprunes, _⟩, hjoin, _⟩ := ends_at_first_tick_after_close
    (show closedBetweenTicks = [_] ++ Step.spawnPruner 0 _ :: _ from rfl)
    (show 0 = _ from rfl) fun _ => rfl
  have hrecord : prunes closedBetweenTicks {} = [(25, 0)] := by decide +kernel
  have hdone : (after closedBetweenTicks).service.finished? 0 = some false := by decide +kernel
  have hnow₀ : (after closedBetweenTicks).service.now = 40 := by decide +kernel
  have hclosed : ClosedBefore closedBetweenTicks 50 0 :=
    ⟨_, List.prefix_rfl, by decide +kernel, by decide +kernel⟩
  obtain ⟨_, _, hopen, _⟩ := (hprunes 25).mp (hrecord ▸ List.mem_singleton_self _)
  have hlate : ((after closedBetweenTicks).play (.pruner 0 (.join 5))).2.service.now = 45 := by
    decide +kernel
  refine ⟨hnow₀, hdone, hrecord, hclosed, hopen, ?_, hlate, ?_, by decide +kernel⟩
  · rcases hjoin false 5 hdone with ⟨_, _, k, _, hnow⟩ | ⟨_, hanswer, _⟩
    · -- no tick comes at that time
      rw [hlate, hnow₀] at hnow
      change 45 = max 40 (0 + (k * 25000000 + 999999) / 1000000) at hnow
      omega
    · exact hanswer
  · rcases hjoin false 15 hdone with ⟨_, hanswer, _⟩ | ⟨hnever, _⟩
    · exact hanswer
    · exact absurd ⟨2, by decide, by decide +kernel, hclosed⟩ hnever

end Session

end ConnPool
