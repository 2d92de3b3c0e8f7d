import ConnPool.Proofs.Closing
import ConnPool.Proofs.Pool.Names
import ConnPool.Proofs.Recycling
import ConnPool.Proofs.Simulation.Shuffles

/-!
# Shutting a pool down

A pool that is closed closes everything it has, the idle connections in the order in which they
have waited and then those that are checked out, in whatever order its table suggests. This file is
about the connections. Each of them has one turn, and is closed in its turn unless it says that it
is closed already (`ConnPool.Pool.ShutsDown`); no close that fails keeps another connection from
its turn. The pool itself is marked as closed and keeps its books, so that it can be closed again,
and then those connections are attempted that are open still.

Which connections are closed is a matter of turns, as long as nothing is known about the driver. If
connections are closed independently of each other (`ConnPool.Driver.ClosesApart`) it can be read
off the world at the beginning, and so can what comes of each close
(`ConnPool.Driver.ClosesEach.eq_filterMap`). So it does not matter in which order those that are
checked out have had their turns.
-/

namespace ConnPool

namespace Driver

variable {W C ε : Type} {d : Driver W C ε} {R : W → W → Prop} {l : List (Handle C)}
  {closes closes' : Closes C ε} {w v v' : W}

/-! ### Turns -/

/-- The close of a connection, if it had its turn now. -/
def turn (d : Driver W C ε) (w : W) (g : Handle C) : Option (Handle C × Except ε Unit) :=
  match (d.shut g.conn w).1 with
  | .ok false => none
  | .ok true => some (g, .ok ())
  | .error e => some (g, .error e)

/-- A connection that is closed lets its turn pass. -/
theorem map_fst_turn (d : Driver W C ε) (w : W) (g : Handle C) :
    (d.turn w g).map Prod.fst = if (d.isClosed g.conn w).1 then none else some g := by
  have hend := shutDown d g.conn w
  rw [turn]
  generalize d.shut g.conn w = result at hend ⊢
  rcases hend with hclosed | ⟨hopen, _⟩ | ⟨hopen, _⟩
  · rw [hclosed]
    rfl
  · rw [hopen]
    rfl
  · rw [hopen]
    rfl

/-- The turns of the others are what they would have been if one had not had its own. -/
theorem ClosesApart.turn_shut (hd : d.ClosesApart R) {g : Handle C} (w : W)
    (hdistinct : ∀ h ∈ l, g.conn ≠ h.conn) :
    l.filterMap (d.turn (d.shut g.conn w).2) = l.filterMap (d.turn w) := by
  refine List.filterMap_congr fun h hh => ?_
  rw [turn, turn, hd.answer (hdistinct h hh).symm]

/-- **If connections are closed independently of each other**, the closes are those that would be
made at the beginning. -/
theorem ClosesEach.eq_filterMap (h : d.ClosesEach l w closes v) (hd : d.ClosesApart R)
    (hdistinct : Distinct l) : closes = l.filterMap (d.turn w) := by
  induction h with
  | nil => rfl
  | @skip g l w w₁ v closes hclosed _ ih =>
    obtain ⟨hfirst, hrest⟩ := List.pairwise_cons.mp hdistinct
    have hshut := shut_of_closed hclosed
    have hnone : d.turn w g = none := by rw [turn, hshut]
    have hothers := hd.turn_shut w hfirst
    rw [hshut] at hothers
    rw [List.filterMap_cons_none hnone, ih hrest, hothers]
  | @close g l w w₁ w₂ v result closes hopen hclose _ ih =>
    obtain ⟨hfirst, hrest⟩ := List.pairwise_cons.mp hdistinct
    have hshut := shut_of_open hopen hclose
    have hsome : d.turn w g = some (g, result) := by
      rw [turn, hshut]
      cases result <;> rfl
    have hothers := hd.turn_shut w hfirst
    rw [hshut] at hothers
    rw [List.filterMap_cons_some hsome, ih hrest, hothers]

/-- So it is the connections that are open at the beginning that are closed. -/
theorem map_fst_filterMap_turn (d : Driver W C ε) (l : List (Handle C)) (w : W) :
    (l.filterMap (d.turn w)).map Prod.fst = l.filter fun g => !(d.isClosed g.conn w).1 := by
  rw [List.map_filterMap, ← List.filterMap_eq_filter]
  refine List.filterMap_congr fun g _ => ?_
  rw [map_fst_turn, Option.guard]
  cases (d.isClosed g.conn w).1 <;> rfl

/-! ### Closing for good -/

variable {later : W → W → Prop} {known : C → W → Prop}

/-- **Once all have had their turns, all are closed.** -/
theorem ClosesForGood.closed_closeEach (hd : d.ClosesForGood later known)
    (hknown : ∀ g ∈ l, known g.conn w) : ∀ g ∈ l, d.Closed g.conn (d.closeEach l w).2 := by
  induction l generalizing w with
  | nil => exact fun _ hg => absurd hg List.not_mem_nil
  | cons g l ih =>
    have hfirst : later w (d.shut g.conn w).2 := hd.shut rfl
    obtain ⟨hg, hl⟩ := List.forall_mem_cons.mp hknown
    refine List.forall_mem_cons.mpr ⟨?_, ih fun h hh => hd.known_of_later hfirst (hl h hh)⟩
    exact hd.closed_of_later (hd.toAlong.closeEach l _) (hd.known_of_later hfirst hg)
      (hd.closed_of_shut hg rfl)

/-- Where all are closed, no turn is taken. -/
theorem ClosesForGood.closesEach_nil (hd : d.ClosesForGood later known)
    (hclosed : ∀ g ∈ l, known g.conn w ∧ d.Closed g.conn w) :
    d.ClosesEach l w [] (d.closeEach l w).2 := by
  induction l generalizing w with
  | nil => exact .nil
  | cons g l ih =>
    obtain ⟨⟨_, hg⟩, hl⟩ := List.forall_mem_cons.mp hclosed
    have hisClosed : d.isClosed g.conn w = (true, (d.isClosed g.conn w).2) := Prod.ext hg rfl
    rw [closeEach_cons, shut_of_closed hisClosed]
    refine .skip hisClosed (ih fun h hh => ?_)
    have hlater := hd.isClosed hisClosed
    exact ⟨hd.known_of_later hlater (hl h hh).1,
      hd.closed_of_later hlater (hl h hh).1 (hl h hh).2⟩

end Driver

namespace Pool

open Driver (Call)

variable {W C ε : Type} {d : Driver W C ε} {R : W → W → Prop} {p : Pool C} {w v : W}
  {order : List (Handle C)} {closes : Closes C ε} {report : ClosingReport ε}

/-! ### All that a pool has -/

/-- Whatever the order of those that are checked out, they are all there. -/
theorem mem_idleHandles_append_iff (horder : order.Perm p.held.values) {g : Handle C} :
    g ∈ p.idleHandles ++ order ↔ p.Has g := by
  rw [List.mem_append, idleHandles, List.mem_reverse, horder.mem_iff, Table.mem_values, Has]

/-- **No connection is there twice.** -/
theorem Consistent.nodup_idleHandles_append (hp : p.Consistent)
    (horder : order.Perm p.held.values) :
    ((p.idleHandles ++ order).map Handle.id).Nodup := by
  rw [List.map_append, List.nodup_append]
  refine ⟨?_, (horder.map Handle.id).nodup_iff.mpr hp.nodup_values, ?_⟩
  · rw [idleHandles, List.map_reverse]
    exact List.nodup_reverse.mpr hp.idle_nodup
  · rintro id hidle id' hheld rfl
    obtain ⟨g, hg, rfl⟩ := List.mem_map.mp hheld
    obtain ⟨k, hk⟩ := Table.mem_values.mp (horder.mem_iff.mp hg)
    rw [idleHandles, List.map_reverse, List.mem_reverse] at hidle
    exact hp.apart hk hidle

/-! ### What a pool has is known -/

section Known

variable {later : W → W → Prop} {known : C → W → Prop} {q : Pool C} {w' : W}

/-- **A pool has nothing but connections that are known.** -/
def Knows (known : C → W → Prop) (s : Pool C × W) : Prop := ∀ c, s.1.Owns c → known c s.2

theorem Knows.of_inherits (h : Knows known (p, w)) (hd : d.ClosesForGood later known)
    (hlater : later w w') (hq : q.Inherits p) : Knows known (q, w') :=
  fun c hc => hd.known_of_later hlater (h c (hq.owns hc))

/-- It may have one connection more than before, if that one is known. -/
theorem Knows.of_inheritsBut (h : Knows known (p, w)) (hd : d.ClosesForGood later known)
    (hlater : later w w') {new : Handle C} (hnew : known new.conn w') (hq : q.InheritsBut p new) :
    Knows known (q, w') := by
  intro c hc
  obtain ⟨g, hg, rfl⟩ := owns_iff_has.mp hc
  rcases hq g hg with rfl | ⟨g', hg', _, hconn⟩
  · exact hnew
  · exact hd.known_of_later hlater (h _ (hconn ▸ hg'.owns))

theorem Opens.knows {s s' : Pool C × W} (hstep : Opens d s s')
    (hd : d.ClosesForGood later known) (h : Knows known s) : Knows known s' := by
  cases hstep with
  | failed _ _ hconnect => exact h.of_inherits hd (hd.connect hconnect) (.refl _)
  | added _ _ hconnect hnow hsince =>
    have hread := hd.trans (hd.now hnow) (hd.now hsince)
    exact h.of_inheritsBut hd (hd.trans (hd.connect hconnect) hread)
      (hd.known_of_later hread (hd.known_of_connect hconnect)) (inheritsBut_stack _ _ _)

variable [DecidableEq C]

theorem Disposed.knows {h : Handle C} {key : Option Key} {k : Key} {force : Bool}
    {s : Pool C × W} (hs : Disposed d h force (p.checkIn k h, w) s)
    (hk : p.checkout? h key = some k) (hd : d.ClosesForGood later known)
    (hp : Knows known (p, w)) : Knows known s := by
  have hrest := inherits_checkIn p k h
  cases hs with
  | letGo _ => exact hp.of_inherits hd (hd.shut rfl) hrest
  | rejected _ hcheck _ => exact hp.of_inherits hd (hd.recycle hcheck) hrest
  | shelved _ hcheck _ hnow =>
    obtain ⟨_, g, hheld, hid, hconn⟩ := checkout?_eq_some_iff.mp hk
    exact hp.of_inherits hd (hd.trans (hd.recycle hcheck) (hd.now hnow))
      (((inheritsBut_stack _ h _).trans hrest).inherits ⟨g, Or.inr ⟨k, hheld⟩, hid, hconn⟩)

theorem Move.knows {r : Request (Handle C)} {s s' : Pool C × W} (hstep : Move d r s s')
    (hd : d.ClosesForGood later known) (h : Knows known s) : Knows known s' := by
  cases hstep with
  | discard _ hdrop =>
    cases hdrop with
    | mk htop hcheck _ => exact h.of_inherits hd (hd.recycle hcheck) (inherits_unstack [] _ htop)
  | @reuse key p _ _ g _ _ _ _ htop hcheck _ =>
    refine h.of_inherits hd (hd.recycle hcheck) (((inheritsBut_checkOut _ key g).trans
      (inherits_unstack [] _ htop)).inherits ⟨g, Or.inl ?_, rfl, rfl⟩)
    exact htop ▸ List.mem_cons_self
  | fail _ _ _ hconnect => exact h.of_inherits hd (hd.connect hconnect) (.refl _)
  | @lend key p _ _ _ conn now _ _ _ _ hconnect hnow =>
    exact h.of_inheritsBut hd (hd.trans (hd.connect hconnect) (hd.now hnow))
      (hd.known_of_later (hd.now hnow) (hd.known_of_connect hconnect))
      (inheritsBut_checkOut p.number key ⟨p.nextId, conn, now⟩)
  | giveBack hk hs => exact hs.knows hk hd h
  | refill hopens => exact hopens.knows hd h
  | look _ => exact h.of_inherits hd (hd.now rfl) (.refl _)
  | evict _ hidle => exact h.of_inherits hd (hd.shut rfl) (inherits_unstack _ _ hidle)
  | shut _ => exact h.of_inherits hd (hd.shut rfl) (.refl _)
  | close => exact h.of_inherits hd (hd.refl _) (.refl _)

variable {env : W → W → Prop} {config : Config} {w₀ : W} {hist : List (Moment W C)}
  {s : Pool C × W}

/-- **A pool knows all its connections** in every state that it reaches. -/
theorem Reached.knows (h : Reached d env config w₀ hist s) (hd : d.ClosesForGood later known)
    (henv : ∀ w w', env w w' → later w w') : Knows known s := by
  refine h.invariant (I := Knows known) (fun _ => ?_) (fun _ _ hstep hs => hstep.knows hd hs)
    (fun p w w' hw hs => hs.of_inherits hd (henv w w' hw) (.refl p))
    fun m _ hs => serve_invariant (I := Knows known) (fun _ _ hstep hs => hstep.knows hd hs) hs
  rintro c (⟨_, hg, _⟩ | ⟨_, _, hk, _⟩)
  · cases hg
  · cases hk

/-- If no connection is delivered twice, none has two numbers. -/
theorem Reached.sound (h : Reached d env config w₀ hist s) (hd : d.OpensNew known)
    (henv : ∀ w w', env w w' → ∀ c, known c w → known c w') : Sound known s.1 s.2 := by
  obtain ⟨p, w, hbuild, hrun⟩ := h
  refine hrun.invariant (I := fun s => Sound known s.1 s.2)
    (fun p w w' hw hs => hs.mono (henv w w' hw)) (fun m _ hs => ?_) (sound_of_build hd hbuild)
  rw [Moment.after, serve_eq_serveIn]
  exact hs.serveIn hd _ m.request

end Known

/-! ### Main statement -/

/-- **A pool has been shut down** in a world: the connections it has have been closed, those that
are checked out in some order, with a report. -/
structure ShutsDown (d : Driver W C ε) (p : Pool C) (order : List (Handle C)) (w : W)
    (closes : Closes C ε) (report : ClosingReport ε) (v : W) : Prop where
  /-- Every connection has had its turn, first those that are idle and then those that are checked
  out, and it has been closed unless it has said that it is closed already. -/
  closed_each : d.ClosesEach (p.idleHandles ++ order) w closes v
  /-- These are all the connections that the pool has, -/
  mem_iff : ∀ g, g ∈ p.idleHandles ++ order ↔ p.Has g
  /-- and none of them has had two turns. -/
  one_turn : ((p.idleHandles ++ order).map Handle.id).Nodup
  /-- So the closes keep to the order, -/
  in_order : (closes.map Prod.fst).Sublist (p.idleHandles ++ order)
  /-- and none of the connections has been closed twice. -/
  closed_once : (closes.map fun a => a.1.id).Nodup
  /-- The number of the closes that have succeeded is reported, -/
  closed_eq : report.closed = closes.closed
  /-- and so are the closes that have failed. -/
  failures_eq : report.failures = closes.failures
  /-- Nothing else has been called, whether the pool has been closed before or not. -/
  calls_eq : ∀ closed,
    (({ p with closed := closed }).closeIn d.logged order (w, [])).2.2.2 = closes.calls

/-- **Closing a pool shuts it down**, also if it has been closed before. -/
theorem Consistent.shutsDown (hp : p.Consistent) (horder : order.Perm p.held.values) (w : W) :
    ∃ closes report v, p.closeIn d order w = (report, { p with closed := true }, v) ∧
      ShutsDown d p order w closes report v := by
  obtain ⟨closes, heach, -, hlog⟩ := d.closesEach (p.idleHandles ++ order) w []
  obtain ⟨-, hcount, hfailures⟩ := heach.closeEach
  have hnodup := hp.nodup_idleHandles_append horder
  have hids := heach.sublist.map Handle.id
  rw [List.map_map] at hids
  exact ⟨closes, _, _, rfl, heach, fun g => mem_idleHandles_append_iff horder, hnodup,
    heach.sublist, hnodup.sublist hids, hcount, hfailures, fun _ => hlog⟩

/-- If no connection has two numbers, no connection has two turns. -/
theorem ShutsDown.distinct (h : ShutsDown d p order w closes report v) (hapart : p.Apart) :
    Distinct (p.idleHandles ++ order) :=
  hapart.distinct (fun g hg => (h.mem_iff g).mp hg) h.one_turn

/-- **Connections that are closed independently of each other** can be closed in any order. -/
theorem ShutsDown.reordered (hd : d.ClosesApart R) (hapart : p.Apart)
    (h : ShutsDown d p order w closes report v) {order' : List (Handle C)} {closes' : Closes C ε}
    {report' : ClosingReport ε} {v' : W} (h' : ShutsDown d p order' w closes' report' v')
    (hperm : order.Perm order') :
    ∃ idle used used', closes = idle ++ used ∧ closes' = idle ++ used' ∧
      idle.map Prod.fst = p.idleHandles.filter (fun g => !(d.isClosed g.conn w).1) ∧
      used'.Perm used ∧ report'.closed = report.closed ∧
      report'.failures.Perm report.failures ∧ R v v' ∧ d.ReportsAlike v v' := by
  have hdistinct := h.distinct hapart
  have hdistinct' := h'.distinct hapart
  have hcloses := h.closed_each.eq_filterMap hd hdistinct
  have hcloses' := h'.closed_each.eq_filterMap hd hdistinct'
  rw [List.filterMap_append] at hcloses hcloses'
  have hused := hperm.symm.filterMap (d.turn w)
  have hworld : R v v' := by
    obtain ⟨_, _, u, u', hu, hu', -, hR⟩ :=
      hd.closeEach (hperm.append_left p.idleHandles) hdistinct (hd.equiv.refl w)
    obtain rfl : u = v := (congrArg Prod.snd hu).symm.trans h.closed_each.closeEach.1
    obtain rfl : u' = v' := (congrArg Prod.snd hu').symm.trans h'.closed_each.closeEach.1
    exact hR
  refine ⟨_, _, _, hcloses, hcloses', d.map_fst_filterMap_turn _ w, hused, ?_, ?_, hworld,
    fun c => ?_⟩
  · rw [h.closed_eq, h'.closed_eq, hcloses, hcloses']
    exact (hused.append_left _).countP_eq _
  · rw [h.failures_eq, h'.failures_eq, hcloses, hcloses']
    exact (hused.append_left _).filterMap _
  · obtain ⟨_, _, _, hclosed, hclosed', _⟩ := hd.isClosed c hworld
    obtain ⟨_, _, _, hstatus, hstatus', _⟩ := hd.status c hworld
    rw [hclosed, hclosed', hstatus, hstatus']
    exact ⟨rfl, rfl⟩

/-- **Once they are all closed, there is nothing left to close.** -/
theorem ShutsDown.again {later : W → W → Prop} {known : C → W → Prop}
    (hd : d.ClosesForGood later known) (hknown : Knows known (p, w))
    (h : ShutsDown d p order w closes report v) {order' : List (Handle C)} {closes' : Closes C ε}
    {report' : ClosingReport ε} {u v' : W} (hu : later v u)
    (h' : ShutsDown d p order' u closes' report' v') : closes' = [] ∧ report' = ⟨0, []⟩ := by
  have hclosed : ∀ g ∈ p.idleHandles ++ order', known g.conn u ∧ d.Closed g.conn u := by
    intro g hg
    have hhas := (h'.mem_iff g).mp hg
    have hg' := (h.mem_iff g).mpr hhas
    have hlast := h.closed_each.closeEach.1
    have hlater : later w v := hlast ▸ hd.toAlong.closeEach (p.idleHandles ++ order) w
    have hv : known g.conn v := hd.known_of_later hlater (hknown _ hhas.owns)
    refine ⟨hd.known_of_later hu hv, hd.closed_of_later hu hv ?_⟩
    rw [← hlast]
    exact hd.closed_closeEach (fun f hf => hknown _ ((h.mem_iff f).mp hf).owns) g hg'
  obtain rfl : closes' = [] := h'.closed_each.unique (hd.closesEach_nil hclosed)
  obtain ⟨n, failures⟩ := report'
  exact ⟨rfl, congrArg₂ ClosingReport.mk h'.closed_eq h'.failures_eq⟩

variable [DecidableEq C] {env : W → W → Prop} {config : Config} {w₀ : W}
  {hist : List (Moment W C)}

/-- **Closing a pool is thorough, stops at nothing and does not depend on an order.**

* In whatever order the connections that are checked out have their turns, and whether the pool has
  been closed before or not, everything it has is closed that is not closed already. The closes that
  fail are reported, and the pool has kept its books and is closed.
* If connections are closed independently of each other and none has been delivered twice, it is the
  connections that are open beforehand that are closed, each of them once. What comes of each close
  is the same in every order, and so is what can be seen of the world afterwards. Only the closes of
  those that are checked out may be made in another order.
* If every close closes its connection, even one that fails, then nothing is left to be closed at
  any later time: the report is clean, and nothing is called. -/
theorem shuts_down_in_any_order (hreached : Reached d env config w₀ hist (p, w)) :
    (p.closeAll d w = p.closeIn d p.heldHandles w ∧ p.heldHandles.Perm p.held.values) ∧
      (∀ closed order u, order.Perm p.held.values →
        ∃ closes report v, ({ p with closed := closed }).closeIn d order u =
          (report, { p with closed := true }, v) ∧ ShutsDown d p order u closes report v) ∧
      (∀ R known, d.ClosesApart R → d.OpensNew known →
        (∀ u u', env u u' → ∀ c, known c u → known c u') →
        ∀ order u closes report v, order.Perm p.held.values →
          ShutsDown d p order u closes report v →
          Distinct (p.idleHandles ++ order) ∧
            closes.map Prod.fst =
              (p.idleHandles ++ order).filter (fun g => !(d.isClosed g.conn u).1) ∧
            ∀ order' closes' report' v', order'.Perm p.held.values →
              ShutsDown d p order' u closes' report' v' →
              ∃ idle used used', closes = idle ++ used ∧ closes' = idle ++ used' ∧
                idle.map Prod.fst = p.idleHandles.filter (fun g => !(d.isClosed g.conn u).1) ∧
                used'.Perm used ∧ report'.closed = report.closed ∧
                report'.failures.Perm report.failures ∧ R v v' ∧ d.ReportsAlike v v') ∧
      ∀ later known, d.ClosesForGood later known → (∀ u u', env u u' → later u u') →
        ∀ order closes report v, ShutsDown d p order w closes report v →
          ∀ order' u closes' report' v', later v u → ShutsDown d p order' u closes' report' v' →
            closes' = [] ∧ report' = ⟨0, []⟩ := by
  have hp : p.Consistent := hreached.consistent
  refine ⟨⟨rfl, p.heldHandles_perm⟩, ?anyhow, ?independent, ?again⟩
  case anyhow =>
    intro closed order u horder
    exact hp.shutsDown horder u
  case independent =>
    intro R known hd hnew henv order u closes report v horder h
    have hapart : p.Apart := (hreached.sound hnew henv).apart
    have hdistinct := h.distinct hapart
    refine ⟨hdistinct, ?_, fun order' closes' report' v' horder' h' => ?_⟩
    · rw [h.closed_each.eq_filterMap hd hdistinct, Driver.map_fst_filterMap_turn]
    · exact h.reordered hd hapart h' (horder.trans horder'.symm)
  case again =>
    intro later known hd henv order closes report v h order' u closes' report' v' hu h'
    exact h.again hd (hreached.knows hd henv) hu h'

/-- Two connections are idle, one that the server has closed and one that does not let itself be
closed. Three are checked out; one of them ignores being closed, one is closed and reported to have
failed, and one refuses. In either order one close succeeds. A pool whose connections do as they are
told has nothing left to close when it is closed again, although every close has been reported to
have failed. -/
theorem shuts_down_in_any_order_reversed :
    ∃ hist p w closes report v closes' report' v' hist₂ q u closes₂ report₂ x closes₃ report₃ y,
      Reached (World.driver 0 .manual) (fun w w' => w.conns.length ≤ w'.conns.length)
        { minConnections := 5, maxConnections := 5 } {} hist (p, w) ∧
      p.idleIds = [0, 1] ∧ p.held.values.map Handle.id = [2, 3, 4] ∧
      p.closeIn (World.driver 0 .manual) p.held.values w =
        (report, { p with closed := true }, v) ∧
      p.closeIn (World.driver 0 .manual) p.held.values.reverse w =
        (report', { p with closed := true }, v') ∧
      ShutsDown (World.driver 0 .manual) p p.held.values w closes report v ∧
      ShutsDown (World.driver 0 .manual) p p.held.values.reverse w closes' report' v' ∧
      closes.map (fun a => a.1.id) = [1, 2, 3, 4] ∧
      report = ⟨1, [⟨1, .closeRefused 2⟩, ⟨3, .closeFailed 4⟩, ⟨4, .closeRefused 5⟩]⟩ ∧
      report' = ⟨1, [⟨1, .closeRefused 2⟩, ⟨4, .closeRefused 5⟩, ⟨3, .closeFailed 4⟩]⟩ ∧
      World.Reordered v v' ∧
      Reached (World.driver 0 .manual) World.Later
        { minConnections := 2, maxConnections := 2 } { backends := [{ failClose := true }] }
        hist₂ (q, u) ∧
      ShutsDown (World.driver 0 .manual) q q.held.values u closes₂ report₂ x ∧
      report₂ = ⟨0, [⟨0, .closeFailed 1⟩, ⟨1, .closeFailed 2⟩]⟩ ∧
      ({ q with closed := true }).closeIn (World.driver 0 .manual) q.held.values x =
        (⟨0, []⟩, { q with closed := true }, y) ∧
      ShutsDown (World.driver 0 .manual) q q.held.values x closes₃ report₃ y ∧ closes₃ = [] := by
  let w : World := {
    backends := [{ attempts := 5, opened := 5, failClose := true }]
    conns := [.born 0 1 { severed := true }, { SimConn.born 0 2 {} with onClose := .refuses },
      { SimConn.born 0 3 {} with onClose := .ignores }, .born 0 4 {},
      { SimConn.born 0 5 {} with onClose := .refuses }] }
  have h : Reached (World.driver 0 .manual) (fun w w' => w.conns.length ≤ w'.conns.length)
      { minConnections := 5, maxConnections := 5 } {} _ (_, w) :=
    ⟨_, _, rfl, (((Run.start.serve (.acquire (some (.named "a")))).serve
      (.acquire (some (.named "b")))).serve .get).drift (by decide)⟩
  have h₂ : Reached (World.driver 0 .manual) World.Later
      { minConnections := 2, maxConnections := 2 } { backends := [{ failClose := true }] } _ (_, _) :=
    ⟨_, _, rfl, Run.start.serve .get⟩
  obtain ⟨-, hanyhow, hapart, -⟩ := shuts_down_in_any_order h
  obtain ⟨closes, report, v, hclose, hdown⟩ := hanyhow false _ w (.refl _)
  obtain ⟨closes', report', v', hclose', hdown'⟩ := hanyhow false _ w (List.reverse_perm _)
  obtain rfl : _ = report := congrArg Prod.fst hclose
  obtain rfl : _ = report' := congrArg Prod.fst hclose'
  obtain ⟨-, hopen, hother⟩ := hapart World.Reordered World.Known (World.driver_closesApart 0 .manual)
    (World.driver_opensNew 0 .manual)
    (fun _ _ hle _ hc => World.known_iff_lt.mpr (Nat.lt_of_lt_of_le (World.known_iff_lt.mp hc) hle)) _
    _ _ _ _ (.refl _) hdown
  obtain ⟨_, _, _, _, _, _, _, _, _, hworld, _⟩ := hother _ _ _ _ (List.reverse_perm _) hdown'
  have hids : closes.map (fun a => a.1.id) = [1, 2, 3, 4] :=
    List.map_map.symm.trans (congrArg (List.map Handle.id) hopen)
  obtain ⟨-, hanyhow₂, -, hagain⟩ := shuts_down_in_any_order h₂
  obtain ⟨closes₂, report₂, x, hclose₂, hdown₂⟩ := hanyhow₂ false _ _ (.refl _)
  obtain ⟨closes₃, report₃, y, hclose₃, hdown₃⟩ := hanyhow₂ true _ x (.refl _)
  obtain ⟨hnil, hclean⟩ := hagain World.Later _ (World.driver_closesForGood 0 .manual)
    (fun _ _ => id) _ _ _ _ hdown₂ _ _ _ _ _ (World.later_refl x) hdown₃
  obtain rfl : _ = report₂ := congrArg Prod.fst hclose₂
  subst hclean
  exact ⟨_, _, _, _, _, _, _, _, _, _, _, _, _, _, _, _, _, _, h, rfl, rfl, hclose, hclose', hdown,
    hdown', hids, rfl, rfl, hworld, h₂, hdown₂, rfl, hclose₃, hdown₃, hnil⟩

end Pool

end ConnPool
