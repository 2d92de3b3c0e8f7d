import ConnPool.Proofs.Pool.Apart
import ConnPool.Proofs.Pool.Closed
import ConnPool.Proofs.Pool.Permits
import ConnPool.Proofs.Pool.Renaming

/-!
# Closing in any order

A pool that is closed closes the connections that are checked out, and nothing about a table
says in which order. `ConnPool.Pool.serveIn` serves a pool with that order given, and this file
compares a pool with a renamed twin that has an order of its own.

In the same order the two give the same answers (`ConnPool.Pool.Renamed.serveIn_alike`). In
different ones the order may show in what the closes report, since nothing keeps the close of one
connection from making another fail. It shows in nothing else: the pool is closed then, and a
closed pool does not depend on the world any more (`ConnPool.Pool.Renamed.serveIn_anyhow`).

If closing a connection is a matter of this connection alone (`ConnPool.Driver.ClosesApart`),
the order does not show in the reports either, but for that of the failures
(`ConnPool.Pool.Renamed.serveIn`). This takes one thing more. Of a connection that the pool has
twice, the first close would be a close and the second would find it closed; so the factory
must not deliver a connection twice (`ConnPool.Driver.OpensNew`).
-/

namespace ConnPool

open Function (Injective)
open Driver (Alike)

variable {W C ε : Type} {d : Driver W C ε} {R : W → W → Prop} {known : C → W → Prop} {w w' : W}

/-! ### Closes that do not get in each other's way -/

/-- **Connections are closed independently of each other.** Shutting one gives the same answer
whether another has been shut before or not, and which comes first makes no difference that the
driver would show. -/
structure Driver.ClosesApart (d : Driver W C ε) (R : W → W → Prop) : Prop
    extends d.Conceals R where
  equiv : Equivalence R
  answer : ∀ {c c' : C}, c ≠ c' → ∀ w, (d.shut c (d.shut c' w).2).1 = (d.shut c w).1
  world : ∀ {c c' : C}, c ≠ c' → ∀ w, R (d.shut c (d.shut c' w).2).2 (d.shut c' (d.shut c w).2).2

/-- No two handles of a list mean the same connection. -/
def Distinct (l : List (Handle C)) : Prop := l.Pairwise fun g h => g.conn ≠ h.conn

/-- Answers that are the same but for their order, in worlds that look the same. -/
def Driver.Shuffled (R : W → W → Prop) (x y : CloseAttempts ε × W) : Prop :=
  ∃ attempts attempts' v v', x = (attempts, v) ∧ y = (attempts', v') ∧
    attempts'.Perm attempts ∧ R v v'

/-- Two connections may be shut in either order. -/
theorem Driver.ClosesApart.swap (hd : d.ClosesApart R) {c c' : C} (hne : c ≠ c') (hw : R w w') :
    ∃ a b v v' u u', d.shut c w = (a, v) ∧ d.shut c' v = (b, u) ∧
      d.shut c' w' = (b, v') ∧ d.shut c v' = (a, u') ∧ R u u' := by
  obtain ⟨a, v₁, v₁', h₁, h₁', hv₁⟩ := hd.toConceals.shut c hw
  obtain ⟨b, v₂, v₂', h₂, h₂', hv₂⟩ := hd.toConceals.shut c' hw
  have hanswer := hd.answer hne.symm w
  have hanswer' := hd.answer hne w'
  have hworld := hd.world hne.symm w'
  obtain ⟨b', u₁, u₁', h₃, h₃', hu₁⟩ := hd.toConceals.shut c' hv₁
  rw [h₁, h₂, h₃] at hanswer
  rw [h₂', h₁'] at hanswer'
  rw [h₁', h₂', h₃'] at hworld
  obtain rfl : b' = b := hanswer
  refine ⟨a, b', v₁, v₂', u₁, (d.shut c v₂').2, h₁, h₃, h₂', Prod.ext hanswer' rfl, ?_⟩
  exact hd.equiv.trans hu₁ hworld

/-- **The order of closes does not matter**, if no connection is closed twice. -/
theorem Driver.ClosesApart.closeEach (hd : d.ClosesApart R) {l l' : List (Handle C)}
    (hperm : l.Perm l') (hdistinct : Distinct l) (hw : R w w') :
    Driver.Shuffled R (d.closeEach l w) (d.closeEach l' w') := by
  induction hperm generalizing w w' with
  | nil => exact ⟨[], [], w, w', rfl, rfl, .refl _, hw⟩
  | cons g _ ih =>
    obtain ⟨result, w₁, w₁', h₁, h₁', hw₁⟩ := hd.toConceals.shut g.conn hw
    obtain ⟨rest, rest', w₂, w₂', h₂, h₂', hrest, hw₂⟩ := ih hdistinct.of_cons hw₁
    simp only [Driver.closeEach, h₁, h₁', h₂, h₂']
    exact ⟨_, _, _, _, rfl, rfl, hrest.cons _, hw₂⟩
  | swap g h l =>
    have hne : h.conn ≠ g.conn := (List.pairwise_cons.mp hdistinct).1 g List.mem_cons_self
    obtain ⟨a, b, v, v', u, u', h₁, h₂, h₁', h₂', hu⟩ := hd.swap hne hw
    obtain ⟨rest, w₃, w₃', h₃, h₃', hw₃⟩ := hd.toConceals.closeEach l hu
    simp only [Driver.closeEach, h₁, h₂, h₃, h₁', h₂', h₃']
    exact ⟨_, _, _, _, rfl, rfl, .swap _ _ _, hw₃⟩
  | trans hperm₁ _ ih₁ ih₂ =>
    have hdistinct' := (hperm₁.pairwise_iff fun hne => Ne.symm hne).mp hdistinct
    obtain ⟨a₁, a₂, v₁, v₂, h₁, h₂, ha, hv⟩ := ih₁ hdistinct hw
    obtain ⟨a₂', a₃, v₂', v₃, h₂', h₃, ha', hv'⟩ := ih₂ hdistinct' (hd.equiv.refl w')
    obtain ⟨rfl, rfl⟩ := Prod.mk.inj (h₂.symm.trans h₂')
    exact ⟨a₁, a₃, v₁, v₃, h₁, h₃, ha'.trans ha, hd.equiv.trans hv hv'⟩

/-- Closing connections goes along what every single close goes along. -/
theorem Driver.Along.closeEach (hd : d.Along R) (l : List (Handle C)) (w : W) :
    R w (d.closeEach l w).2 := by
  induction l generalizing w with
  | nil => exact hd.refl w
  | cons h l ih => exact hd.trans (hd.shut rfl) (ih _)

/-- What is closed in two goes. -/
theorem Driver.closeEach_append (d : Driver W C ε) (l l' : List (Handle C)) (w : W) :
    d.closeEach (l ++ l') w =
      ((d.closeEach l w).1 ++ (d.closeEach l' (d.closeEach l w).2).1,
        (d.closeEach l' (d.closeEach l w).2).2) := by
  induction l generalizing w with
  | nil => rfl
  | cons h l ih => simp only [List.cons_append, Driver.closeEach, ih]

/-- Every connection has its turn. -/
theorem Driver.map_fst_closeEach (d : Driver W C ε) (l : List (Handle C)) (w : W) :
    (d.closeEach l w).1.map Prod.fst = l.map Handle.id := by
  induction l generalizing w with
  | nil => rfl
  | cons h l ih => simp only [Driver.closeEach, List.map_cons, ih]

/-- Only what is to be closed can fail to close. -/
theorem Driver.exists_of_mem_failures (d : Driver W C ε) {l : List (Handle C)} {w : W}
    {f : FailedClose ε} (hf : f ∈ (d.closeEach l w).1.failures) : ∃ h ∈ l, h.id = f.id := by
  obtain ⟨⟨id, result⟩, hmem, hfailed⟩ := List.mem_filterMap.mp hf
  have hid : id ∈ l.map Handle.id :=
    d.map_fst_closeEach l w ▸ List.mem_map_of_mem (f := Prod.fst) hmem
  cases result with
  | ok _ => cases hfailed
  | error e =>
    cases hfailed
    exact List.mem_map.mp hid

/-! ### Answers up to the order of failures -/

/-- **Answers of a pool agree** if they are the same but for the order of the failures of those
connections that were checked out when the pool was closed. -/
inductive Response.Agrees (p : Pool C) : Response C ε → Response C ε → Prop
  | same (a : Response C ε) : Agrees p a a
  | closed (n : Nat) (idle : List (FailedClose ε)) {used used' : List (FailedClose ε)}
      (hperm : used'.Perm used) (hused : ∀ f ∈ used, ∃ g ∈ p.held.values, g.id = f.id) :
      Agrees p (.closed ⟨n, idle ++ used⟩) (.closed ⟨n, idle ++ used'⟩)

/-- Reports that agree tell the same failures. -/
theorem Response.Agrees.perm_failures {p : Pool C} {report report' : ClosingReport ε}
    (h : Response.Agrees p (.closed report) (.closed report')) :
    report'.failures.Perm report.failures := by
  cases h with
  | same _ => exact .refl _
  | closed n idle hperm _ => exact hperm.append_left idle

/-- **Closing reports resemble each other** if they tell the same about the connections that were
idle when the pool was closed. -/
def ClosingReport.Resembles (p : Pool C) (report report' : ClosingReport ε) : Prop :=
  ∃ idle used used', report.failures = idle ++ used ∧ report'.failures = idle ++ used' ∧
    ∀ f ∈ used ++ used', ∃ g ∈ p.held.values, g.id = f.id

/-- **Answers resemble each other** if they are the same, or if both report what came of closing
the pool. The reports on a pool that has been open until then resemble each other, too. -/
inductive Response.Resembles (p : Pool C) : Response C ε → Response C ε → Prop
  | same (a : Response C ε) : Resembles p a a
  | closed {report report' : ClosingReport ε}
      (hopen : p.closed = false → report.Resembles p report') :
      Resembles p (.closed report) (.closed report')

namespace Pool

variable {r : String → String} {p q : Pool C}

/-- The numbers of those that are checked out are different. -/
theorem Consistent.nodup_values (hp : p.Consistent) : (p.held.values.map Handle.id).Nodup := by
  have hkeys : p.held.entries.Pairwise fun e e' => e.1 ≠ e'.1 :=
    List.pairwise_map.mp p.held.nodup
  rw [Table.values, List.map_map]
  refine List.pairwise_map.mpr (hkeys.imp_of_mem fun he he' hne hid => hne ?_)
  exact hp.held_inj (Table.get?_eq_some_iff.mpr he) (Table.get?_eq_some_iff.mpr he') hid

/-- Handles with different numbers are handles of different connections, if no connection has two
numbers. -/
theorem Apart.distinct (hp : p.Apart) {l : List (Handle C)} (hhas : ∀ g ∈ l, p.Has g)
    (hnodup : (l.map Handle.id).Nodup) : Distinct l :=
  (List.pairwise_map.mp hnodup).imp_of_mem fun hg hh hne hconn =>
    hne (hp _ _ (hhas _ hg) (hhas _ hh) hconn)

/-- The connections checked out are different ones, if no connection has two numbers. -/
theorem Consistent.distinct_values (hp : p.Consistent) (hapart : p.Apart) :
    Distinct p.held.values :=
  hapart.distinct (fun _ hg => Or.inr (Table.mem_values.mp hg)) hp.nodup_values

/-! ### Serving in any order -/

variable [DecidableEq C]

/-- **Answers a request** as `ConnPool.Pool.serve` does, except that the connections checked
out are closed in a given order. -/
def serveIn (d : Driver W C ε) (order : List (Handle C)) :
    Request (Handle C) → Pool C → W → Response C ε × Pool C × W
  | .closeAll, p, w =>
    match p.closeIn d order w with
    | (report, p, w) => (.closed report, p, w)
  | request, p, w => p.serve d request w

/-- A pool closes them by ascending number. -/
theorem serve_eq_serveIn (d : Driver W C ε) (request : Request (Handle C)) (p : Pool C) (w : W) :
    p.serve d request w = p.serveIn d p.heldHandles request w := by
  cases request <;> rfl

omit [DecidableEq C] in
/-- That is one of the orders. -/
theorem heldHandles_perm (p : Pool C) : p.heldHandles.Perm p.held.values :=
  List.mergeSort_perm _ _

omit [DecidableEq C] in
/-- **Closing a pool and its renamed twin**, each in an order of its own. -/
theorem Renamed.closeIn_shuffled (h : p.Renamed r q) (hd : d.ClosesApart R)
    {order order' : List (Handle C)} (hperm : order.Perm order') (hdistinct : Distinct order)
    (horder : order.Perm p.held.values) (hw : R w w') :
    ∃ report report' v v', p.closeIn d order w = (report, { p with closed := true }, v) ∧
      q.closeIn d order' w' = (report', { q with closed := true }, v') ∧
      Response.Agrees p (.closed report) (.closed report') ∧ R v v' := by
  have hidle : q.idleHandles = p.idleHandles := congrArg List.reverse h.idle
  obtain ⟨attempts, w₁, w₁', h₁, h₁', hw₁⟩ := hd.toConceals.closeEach p.idleHandles hw
  obtain ⟨used, used', w₂, w₂', h₂, h₂', hused, hw₂⟩ := hd.closeEach hperm hdistinct hw₁
  have hclosed : (attempts ++ used').closed = (attempts ++ used).closed :=
    (hused.append_left attempts).countP_eq _
  refine ⟨⟨(attempts ++ used).closed, attempts.failures ++ used.failures⟩,
    ⟨(attempts ++ used).closed, attempts.failures ++ used'.failures⟩, w₂, w₂', ?_, ?_, ?_, hw₂⟩
  · simp only [Pool.closeIn, Driver.closeEach_append, h₁, h₂, CloseAttempts.failures,
      List.filterMap_append]
  · simp only [Pool.closeIn, Driver.closeEach_append, hidle, h₁', h₂', hclosed,
      CloseAttempts.failures, List.filterMap_append]
  · refine .closed _ _ (hused.filterMap _) fun f hf => ?_
    have hmem : f ∈ (d.closeEach order w₁).1.failures := by rwa [h₂]
    exact (d.exists_of_mem_failures hmem).imp fun g hg => hg.imp_left horder.mem_iff.mp

/-- **A renamed request to a renamed pool**, each served in an order of its own. -/
theorem Renamed.serveIn (h : p.Renamed r q) (hr : Injective r) (hd : d.ClosesApart R)
    (hp : p.Consistent) (hapart : p.Apart) {order order' : List (Handle C)}
    (horder : order.Perm p.held.values) (horder' : order'.Perm q.held.values)
    (request : Request (Handle C)) (hw : R w w') :
    ∃ a a' p₁ q₁ v v', p.serveIn d order request w = (a, p₁, v) ∧
      q.serveIn d order' (request.rename r) w' = (a', q₁, v') ∧
      a.Agrees p a' ∧ p₁.Renamed r q₁ ∧ R v v' := by
  obtain ⟨a, p₁, q₁, v, v', h₁, h₁', hpool, hv⟩ := h.serve hr hd.toConceals hp request hw
  cases request with
  | closeAll =>
    have hperm : order.Perm order' := horder.trans (h.values_held.symm.trans horder'.symm)
    have hdistinct : Distinct order :=
      (horder.symm.pairwise_iff fun hne => Ne.symm hne).mp (hp.distinct_values hapart)
    obtain ⟨report, report', u, u', h₂, h₂', hagree, hu⟩ :=
      h.closeIn_shuffled hd hperm hdistinct horder hw
    simp only [Request.rename, Pool.serveIn, h₂, h₂']
    exact ⟨_, _, _, _, _, _, rfl, rfl, hagree, { h with closed := rfl }, hu⟩
  | _ => exact ⟨a, a, p₁, q₁, v, v', h₁, h₁', .same a, hpool, hv⟩

/-! ### Closes that do get in each other's way -/

/-- **Over any driver**, the order in which connections are closed does not show if it is the
same for both. -/
theorem Renamed.serveIn_alike (h : p.Renamed r q) (hr : Injective r) (hp : p.Consistent)
    (order : List (Handle C)) (request : Request (Handle C)) (w : W) :
    Renamed.Twins r Eq (p.serveIn d order request w)
      (q.serveIn d order (request.rename r) w) := by
  have hserve := h.serve hr d.conceals_eq hp request (rfl : w = w)
  cases request with
  | closeAll =>
    obtain ⟨report, p₁, q₁, v, v', h₁, h₁', hpool, hv⟩ :=
      h.closeIn d.conceals_eq order (rfl : w = w)
    simp only [Request.rename, Pool.serveIn, h₁, h₁']
    exact Renamed.twins _ hpool hv
  | _ => exact hserve

omit [DecidableEq C] in
/-- What is reported of the idle connections comes before what is reported of the others. -/
theorem failures_closeIn (d : Driver W C ε) (order : List (Handle C)) (p : Pool C) (w : W) :
    (p.closeIn d order w).1.failures =
      (d.closeEach p.idleHandles w).1.failures ++
        (d.closeEach order (d.closeEach p.idleHandles w).2).1.failures := by
  simp only [closeIn, Driver.closeEach_append, CloseAttempts.failures, List.filterMap_append]

omit [DecidableEq C] in
/-- **The idle connections are closed first**, so no order shows in what is reported of them. -/
theorem Renamed.closeIn_resembles (h : p.Renamed r q) {order order' : List (Handle C)}
    (horder : order.Perm p.held.values) (horder' : order'.Perm q.held.values) (w : W) :
    (p.closeIn d order w).1.Resembles p (q.closeIn d order' w).1 := by
  have hidle : q.idleHandles = p.idleHandles := congrArg List.reverse h.idle
  have hheld : ∀ {l : List (Handle C)} {v : W}, l.Perm p.held.values →
      ∀ f ∈ (d.closeEach l v).1.failures, ∃ g ∈ p.held.values, g.id = f.id := fun hl f hf =>
    (d.exists_of_mem_failures hf).imp fun g hg => hg.imp_left hl.mem_iff.mp
  refine ⟨_, _, _, failures_closeIn d order p w, hidle ▸ failures_closeIn d order' q w,
    fun f hf => ?_⟩
  rcases List.mem_append.mp hf with hf | hf
  · exact hheld horder f hf
  · exact hheld (horder'.trans h.values_held) f hf

/-- **A closed pool does not depend on the world.** Whatever becomes of the worlds of a pool and
its renamed twin once they are closed, they answer alike, reports apart. -/
theorem Renamed.serveIn_closed (h : p.Renamed r q) (hr : Injective r) (hclosed : p.closed = true)
    (order order' : List (Handle C)) (request : Request (Handle C)) (w w' : W) :
    ∃ a a' p₁ q₁ v v', p.serveIn d order request w = (a, p₁, v) ∧
      q.serveIn d order' (request.rename r) w' = (a', q₁, v') ∧
      a.Resembles p a' ∧ p₁.Renamed r q₁ ∧ p₁.closed = true := by
  have hclosed' : q.closed = true := h.closed.trans hclosed
  cases request with
  | acquire key =>
    simp only [Request.rename, Pool.serveIn, Pool.serve, Pool.acquire, hclosed, hclosed', if_pos]
    exact ⟨_, _, p, q, _, _, rfl, rfl, .same _, h, hclosed⟩
  | release g key force =>
    simp only [Request.rename, Pool.serveIn, Pool.serve, Pool.release, h.checkout? hr]
    cases p.checkout? g key with
    | none =>
      simp only [Option.map_none, hclosed, hclosed', if_pos]
      exact ⟨_, _, p, q, _, _, rfl, rfl, .same _, h, hclosed⟩
    | some k =>
      have hshut := (disposed d g force (p.checkIn k g) w).eq_of_closed hclosed
      have hshut' := (disposed d g force (q.checkIn (k.rename r) g) w').eq_of_closed hclosed'
      have hclosed₁ : (p.checkIn k g).closed = true := hclosed
      have hclosed₁' : (q.checkIn (k.rename r) g).closed = true := hclosed'
      simp only [Option.map_some, hshut, hshut', hclosed₁, hclosed₁', if_pos]
      exact ⟨_, _, _, _, _, _, rfl, rfl, .same _, h.checkIn hr k g, hclosed⟩
  | prune =>
    simp only [Request.rename, Pool.serveIn, Pool.serve, Pool.prune, hclosed, hclosed',
      Bool.true_or, if_pos]
    exact ⟨_, _, p, q, _, _, rfl, rfl, .same _, h, hclosed⟩
  | closeAll =>
    refine ⟨_, _, _, _, _, _, rfl, rfl, .closed fun hopen => ?_, { h with closed := rfl }, rfl⟩
    rw [hclosed] at hopen
    cases hopen

/-- **Over any driver**, the order in which connections are closed shows in nothing but the
report of the closing, and in the world. -/
theorem Renamed.serveIn_anyhow (h : p.Renamed r q) (hr : Injective r) (hp : p.Consistent)
    (hw : w = w' ∨ p.closed = true) {order order' : List (Handle C)}
    (horder : order.Perm p.held.values) (horder' : order'.Perm q.held.values)
    (request : Request (Handle C)) :
    ∃ a a' p₁ q₁ v v', p.serveIn d order request w = (a, p₁, v) ∧
      q.serveIn d order' (request.rename r) w' = (a', q₁, v') ∧
      a.Resembles p a' ∧ p₁.Renamed r q₁ ∧ (v = v' ∨ p₁.closed = true) := by
  rcases hw with rfl | hclosed
  · obtain ⟨a, p₁, q₁, v, v', h₁, h₁', hpool, hv⟩ :=
      h.serve hr d.conceals_eq hp request (rfl : w = w)
    cases request with
    | closeAll =>
      exact ⟨_, _, _, _, _, _, rfl, rfl, .closed fun _ => h.closeIn_resembles horder horder' w,
        { h with closed := rfl }, Or.inr rfl⟩
    | _ => exact ⟨a, a, p₁, q₁, v, v', h₁, h₁', .same a, hpool, Or.inl hv⟩
  · obtain ⟨a, a', p₁, q₁, v, v', h₁, h₁', hanswer, hpool, hclosed₁⟩ :=
      h.serveIn_closed (d := d) hr hclosed order order' request w w'
    exact ⟨a, a', p₁, q₁, v, v', h₁, h₁', hanswer, hpool, Or.inr hclosed₁⟩

/-! ### Pools fit to be closed in any order -/

/-- **The books of a pool are in order**, what it owns is known, and no connection has two
numbers. -/
structure Sound (known : C → W → Prop) (p : Pool C) (w : W) : Prop where
  consistent : p.Consistent
  known_of_owns : ∀ c, p.Owns c → known c w
  apart : p.Apart

omit [DecidableEq C] in
theorem Sound.mono (h : Sound known p w) (hlater : ∀ c, known c w → known c w') :
    Sound known p w' :=
  { h with known_of_owns := fun c hc => hlater c (h.known_of_owns c hc) }

/-- Whatever the order, the books stay in order. -/
theorem Consistent.serveIn (hp : p.Consistent) (d : Driver W C ε) (order : List (Handle C))
    (request : Request (Handle C)) (w : W) : (p.serveIn d order request w).2.1.Consistent := by
  have hserve := serve_invariant (d := d) (r := request) (w := w)
    (I := fun s => s.1.Consistent) (fun _ _ hstep => hstep.consistent) hp
  cases request with
  | closeAll => exact { hp with }
  | _ => exact hserve

/-- **They stay so**, in whatever order connections are closed. -/
theorem Sound.serveIn (h : Sound known p w) (hd : d.OpensNew known) (order : List (Handle C))
    (request : Request (Handle C)) :
    Sound known (p.serveIn d order request w).2.1 (p.serveIn d order request w).2.2 := by
  have hsince := serve_since hd h.known_of_owns h.apart request
  rw [serve_logged] at hsince
  have hconsistent := h.consistent.serveIn d order request w
  cases request with
  | closeAll =>
    refine ⟨hconsistent, fun c hc => ?_, h.apart⟩
    exact hd.toAlong.closeEach (p.idleHandles ++ order) w c (h.known_of_owns c hc)
  | _ => exact ⟨hconsistent, hsince.known_of_owns, hsince.apart⟩

end Pool

end ConnPool
