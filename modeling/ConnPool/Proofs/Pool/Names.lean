import ConnPool.Proofs.Pool.Shuffles
import ConnPool.Proofs.Simulation.Shuffles
import Mathlib.Logic.Equiv.Basic

/-!
# Names do not matter

Does it matter what a borrower is called? It would if a name could be taken for an issued key
that is displayed alike, and that does not happen. It would as well if tables were walked through
in an order that depends on the names in them. That may happen when a pool is closed, so names
matter as far as it matters in which order connections are closed, and no further.
`ConnPool.Pool.names_do_not_matter` is the proof. It compares two dialogues with a pool in which
everybody goes by different names: the same turns (`ConnPool.Pool.Turn`), with every name replaced
by another one.

A dialogue in which the connections that are checked out are closed by ascending number is
`ConnPool.Pool.serveEach`. Dialogues in which they are closed in any other order, a new one each
time, are `ConnPool.Pool.Dialogue`. However such a dialogue goes, it may go so under other names
(`ConnPool.Pool.Dialogue.retold`). If the order is another one, that can only show in what the
closings report (`ConnPool.Pool.Renamed.dialogue`), and it does not show there either if
connections are closed independently of each other (`ConnPool.Pool.Renamed.dialogue_apart`).
-/

namespace ConnPool

open Function (Injective)
open Relation (ReflTransGen)

namespace Pool

variable {W C ε : Type} {d : Driver W C ε}

/-! ### Dialogues with a pool -/

/-- **A turn of a dialogue**: what becomes of the world in the meantime, and what the pool is
asked then. -/
structure Turn (W C : Type) where
  /-- What becomes of the world. -/
  drift : W → W
  /-- What the pool is asked. -/
  request : Request (Handle C)

/-- The turn with another name in its request. -/
def Turn.rename (r : String → String) (t : Turn W C) : Turn W C :=
  { t with request := t.request.rename r }

variable [DecidableEq C]

/-- **Serves turn after turn**: the answers, and the pool and the world in the end. -/
def serveEach (d : Driver W C ε) :
    List (Turn W C) → Pool C × W → List (Response C ε) × Pool C × W
  | [], s => ([], s)
  | t :: turns, s =>
    match s.1.serve d t.request (t.drift s.2) with
    | (answer, s) =>
      match serveEach d turns s with
      | (answers, s) => (answer :: answers, s)

/-- **The dialogues with a pool**, with their transcripts: the pool that each turn finds, and
what it answers. Whenever the pool is closed, those of its connections that are checked out may
be closed in any order. -/
inductive Dialogue (d : Driver W C ε) :
    List (Turn W C) → Pool C × W → List (Pool C × Response C ε) → Pool C × W → Prop
  /-- The dialogue is over. -/
  | ended {s : Pool C × W} : Dialogue d [] s [] s
  /-- A turn is taken. -/
  | turn {t : Turn W C} {turns : List (Turn W C)} {p : Pool C} {w : W} {order : List (Handle C)}
      {script : List (Pool C × Response C ε)} {s : Pool C × W}
      (horder : order.Perm p.held.values)
      (hrest : Dialogue d turns (p.serveIn d order t.request (t.drift w)).2 script s) :
      Dialogue d (t :: turns) (p, w)
        ((p, (p.serveIn d order t.request (t.drift w)).1) :: script) s

variable {r : String → String} {turns : List (Turn W C)} {p q : Pool C} {w w' : W}
  {s s' : Pool C × W} {script script' : List (Pool C × Response C ε)}

/-- To serve turn after turn is one of the ways a dialogue may go. -/
theorem dialogue_serveEach (d : Driver W C ε) (turns : List (Turn W C)) (s : Pool C × W) :
    ∃ script, Dialogue d turns s script (serveEach d turns s).2 ∧
      (serveEach d turns s).1 = script.map Prod.snd := by
  induction turns generalizing s with
  | nil => exact ⟨[], .ended, rfl⟩
  | cons t turns ih =>
    have hserve := serve_eq_serveIn d t.request s.1 (t.drift s.2)
    simp only [serveEach, hserve]
    obtain ⟨script, hrest, hanswers⟩ :=
      ih (s.1.serveIn d s.1.heldHandles t.request (t.drift s.2)).2
    exact ⟨_, .turn s.1.heldHandles_perm hrest, congrArg (_ :: ·) hanswers⟩

/-- Whatever a dialogue is, it leaves books in order. -/
theorem Dialogue.consistent (h : Dialogue d turns s script s') (hp : s.1.Consistent) :
    s'.1.Consistent := by
  induction h with
  | ended => exact hp
  | turn _ _ ih => exact ih (hp.serveIn d _ _ _)

/-- **Two dialogues turn by turn.** What relates the states of a pool and of its twin, and is
kept by every turn, relates them in the end; and the transcripts are related line by line. -/
theorem Dialogue.related {S : Pool C × W → Pool C × W → Prop}
    {A : Pool C × Response C ε → Pool C × Response C ε → Prop} {t₀ t₀' : Pool C × W}
    (hstep : ∀ t ∈ turns, ∀ (p q : Pool C) (w w' : W) (order order' : List (Handle C)),
      order.Perm p.held.values → order'.Perm q.held.values → S (p, w) (q, w') →
      A (p, (p.serveIn d order t.request (t.drift w)).1)
          (q, (q.serveIn d order' (t.request.rename r) (t.drift w')).1) ∧
        S (p.serveIn d order t.request (t.drift w)).2
          (q.serveIn d order' (t.request.rename r) (t.drift w')).2)
    (h : Dialogue d turns t₀ script s)
    (h' : Dialogue d (turns.map (Turn.rename r)) t₀' script' s') (h₀ : S t₀ t₀') :
    List.Forall₂ A script script' ∧ S s s' := by
  induction h generalizing t₀' script' with
  | ended =>
    cases h'
    exact ⟨.nil, h₀⟩
  | @turn t turns p w order script s horder _ ih =>
    cases h' with
    | turn horder' hrest' =>
      obtain ⟨hanswer, hnext⟩ := hstep t List.mem_cons_self _ _ _ _ _ _ horder horder' h₀
      obtain ⟨hrest, hend⟩ := ih (fun t ht => hstep t (List.mem_cons_of_mem _ ht)) hrest' hnext
      exact ⟨.cons hanswer hrest, hend⟩

/-! ### The same dialogue under other names -/

variable {R : W → W → Prop} {known : C → W → Prop} {config : Config} {w₀ : W}

omit [DecidableEq C] in
/-- Filling a pool up serves nobody. -/
theorem opens_borrower_eq {s s' : Pool C × W} (h : ReflTransGen (Opens d) s s') :
    s'.1.borrower = s.1.borrower := by
  refine steps_invariant (I := fun t => t.1.borrower = s.1.borrower) ?_ h rfl
  intro t t' hopens ht
  cases hopens with
  | failed _ _ _ => exact ht
  | added _ _ _ _ _ => exact ht

omit [DecidableEq C] in
/-- Nobody has been served by a new pool, so there is no name in its books. -/
theorem renamed_of_build (hbuild : build d config w₀ = (.ok p, w)) (r : String → String) :
    p.Renamed r p := by
  obtain ⟨_, hopens⟩ := build_opens hbuild
  have hheld : p.held = ∅ := opens_held_eq hopens
  have hborrower : p.borrower = ∅ := opens_borrower_eq hopens
  refine ⟨rfl, rfl, p.stamps.maps_refl, ?_, ?_, rfl, rfl, rfl⟩
  · rw [hheld]
    exact Table.maps_empty
  · rw [hborrower]
    exact Table.maps_empty

/-- **The same turns under other names**, over any driver. -/
theorem Renamed.serveEach (h : p.Renamed r q) (hr : Injective r) (hp : p.Consistent)
    (turns : List (Turn W C)) (w : W) :
    Renamed.Twins r Eq (serveEach d turns (p, w))
      (serveEach d (turns.map (Turn.rename r)) (q, w)) := by
  induction turns generalizing p q w with
  | nil => exact Renamed.twins [] h rfl
  | cons t turns ih =>
    have hp₁ := hp.serveIn d p.heldHandles t.request (t.drift w)
    rw [← serve_eq_serveIn] at hp₁
    obtain ⟨a, p₁, q₁, v, v', h₁, h₁', hpool₁, rfl⟩ :=
      h.serve hr d.conceals_eq hp t.request (rfl : t.drift w = t.drift w)
    rw [h₁] at hp₁
    obtain ⟨answers, p₂, q₂, v₂, v₂', h₂, h₂', hpool₂, hv₂⟩ := ih hpool₁ hp₁ v
    simp only [List.map_cons, Turn.rename, Pool.serveEach, h₁, h₁', h₂, h₂']
    exact Renamed.twins _ hpool₂ hv₂

omit [DecidableEq C] in
/-- **A dialogue retold under other names**: line by line the pool is the same but for the names,
and gives the same answer. So it does in the end, and the world is the same. -/
def Retold (r : String → String) (script script' : List (Pool C × Response C ε))
    (s s' : Pool C × W) : Prop :=
  List.Forall₂ (fun x x' => x.1.Renamed r x'.1 ∧ x'.2 = x.2) script script' ∧
    s.1.Renamed r s'.1 ∧ s'.2 = s.2

/-- **Whatever a dialogue is, it may be held under other names**, over any driver: by closing the
same connections in the same order. -/
theorem Dialogue.retold {t₀ : Pool C × W} (hs : Dialogue d turns t₀ script s)
    (h : t₀.1.Renamed r q) (hr : Injective r) (hp : t₀.1.Consistent) :
    ∃ script' s', Dialogue d (turns.map (Turn.rename r)) (q, t₀.2) script' s' ∧
      Retold r script script' s s' := by
  induction hs generalizing q with
  | ended => exact ⟨[], _, .ended, .nil, h, rfl⟩
  | @turn t turns p w order script s horder _ ih =>
    have hp₁ := hp.serveIn d order t.request (t.drift w)
    obtain ⟨a, p₁, q₁, v, _, h₁, h₁', hpool, rfl⟩ :=
      h.serveIn_alike (d := d) hr hp order t.request (t.drift w)
    rw [h₁] at ih hp₁ ⊢
    obtain ⟨script', s', hrest, hlines, hend⟩ := ih hpool hp₁
    have hnext : Dialogue d (turns.map (Turn.rename r))
        (q.serveIn d order (t.request.rename r) (t.drift w)).2 script' s' := by rwa [h₁']
    refine ⟨_, s', .turn (horder.trans h.values_held.symm) hnext, ?_, hend⟩
    exact .cons ⟨h, congrArg Prod.fst h₁'⟩ hlines

/-- **Nothing else can happen under other names.** -/
theorem Renamed.original (h : p.Renamed r q) (hr : Injective r) (hp : p.Consistent)
    (hs' : Dialogue d (turns.map (Turn.rename r)) (q, w) script' s') :
    ∃ script s, Dialogue d turns (p, w) script s ∧ Retold r script script' s s' := by
  induction turns generalizing p q w script' with
  | nil =>
    cases hs'
    exact ⟨[], _, .ended, .nil, h, rfl⟩
  | cons t turns ih =>
    cases hs' with
    | @turn _ _ _ _ order script' _ horder' hrest' =>
      have hp₁ := hp.serveIn d order t.request (t.drift w)
      obtain ⟨a, p₁, q₁, v, _, h₁, h₁', hpool, rfl⟩ :=
        h.serveIn_alike (d := d) hr hp order t.request (t.drift w)
      rw [h₁] at hp₁
      change Dialogue d _ (q.serveIn d order (t.request.rename r) (t.drift w)).2 _ _ at hrest'
      rw [h₁'] at hrest'
      obtain ⟨script, s, hrest, hlines, hend⟩ := ih hpool hp₁ hrest'
      have hnext : Dialogue d turns (p.serveIn d order t.request (t.drift w)).2 script s := by
        rwa [h₁]
      refine ⟨_, s, .turn (horder'.trans h.values_held) hnext, ?_, hend⟩
      refine .cons ⟨h, ?_⟩ hlines
      rw [h₁]
      exact congrArg Prod.fst h₁'

/-- **The same dialogue in any order**, over any driver: only what closings report may differ. -/
theorem Renamed.dialogue (h : p.Renamed r q) (hr : Injective r) (hp : p.Consistent)
    (hs : Dialogue d turns (p, w) script s)
    (hs' : Dialogue d (turns.map (Turn.rename r)) (q, w) script' s') :
    List.Forall₂ (fun x x' => x.1.Renamed r x'.1 ∧ x.2.Resembles x.1 x'.2) script script' ∧
      s.1.Renamed r s'.1 := by
  have hrun := hs.related (A := fun x x' => x.1.Renamed r x'.1 ∧ x.2.Resembles x.1 x'.2)
    (S := fun s s' => s.1.Consistent ∧ s.1.Renamed r s'.1 ∧ (s.2 = s'.2 ∨ s.1.closed = true))
    ?_ hs' ⟨hp, h, Or.inl rfl⟩
  · exact ⟨hrun.1, hrun.2.2.1⟩
  · rintro t _ p q w w' order order' horder horder' ⟨hp, hpool, hw⟩
    have hp₁ := hp.serveIn d order t.request (t.drift w)
    obtain ⟨a, a', p₁, q₁, v, v', h₁, h₁', hanswer, hpool₁, hv⟩ :=
      hpool.serveIn_anyhow (d := d) hr hp (hw.imp_left (congrArg t.drift)) horder horder' t.request
    rw [h₁] at hp₁
    rw [h₁, h₁']
    exact ⟨⟨hpool, hanswer⟩, hp₁, hpool₁, hv⟩

/-- What becomes of the world keeps what is known, and does not reveal what is concealed. -/
structure Turn.Respects (R : W → W → Prop) (known : C → W → Prop) (t : Turn W C) : Prop where
  conceals : ∀ {w w' : W}, R w w' → R (t.drift w) (t.drift w')
  keeps : ∀ c w, known c w → known c (t.drift w)

/-- **The same dialogue in any order**, over a driver whose connections are closed independently
of each other. -/
theorem Renamed.dialogue_apart (h : p.Renamed r q) (hr : Injective r) (hd : d.ClosesApart R)
    (hnew : d.OpensNew known) (hp : Sound known p w) (hw : R w w')
    (hturns : ∀ t ∈ turns, t.Respects R known) (hs : Dialogue d turns (p, w) script s)
    (hs' : Dialogue d (turns.map (Turn.rename r)) (q, w') script' s') :
    List.Forall₂ (fun x x' => x.2.Agrees x.1 x'.2) script script' ∧ R s.2 s'.2 := by
  have hrun := hs.related (A := fun x x' => x.2.Agrees x.1 x'.2)
    (S := fun s s' => Sound known s.1 s.2 ∧ s.1.Renamed r s'.1 ∧ R s.2 s'.2) ?_ hs' ⟨hp, h, hw⟩
  · exact ⟨hrun.1, hrun.2.2.2⟩
  · rintro t ht p q w w' order order' horder horder' ⟨hp, hpool, hw⟩
    have hdrift := hp.mono fun c => (hturns t ht).keeps c w
    have hp₁ := hdrift.serveIn hnew order t.request
    obtain ⟨a, a', p₁, q₁, v, v', h₁, h₁', hanswer, hpool₁, hv⟩ :=
      hpool.serveIn hr hd hp.consistent hp.apart horder horder' t.request
        ((hturns t ht).conceals hw)
    rw [h₁] at hp₁
    rw [h₁, h₁']
    exact ⟨hanswer, hp₁, hpool₁, hv⟩

/-- What a new pool has opened is known, and no connection is there twice. -/
theorem sound_of_build (hnew : d.OpensNew known) (hbuild : build d config w₀ = (.ok p, w)) :
    Sound known p w := by
  have hsame := build_project d.projects_logged config (w₀, [])
  rcases hlogged : build d.logged config (w₀, []) with ⟨result, v, log⟩
  rw [hlogged] at hsame
  cases hbuild.symm.trans hsame
  have hsince := build_since hnew hlogged
  exact ⟨consistent_of_build hbuild, hsince.known_of_owns, hsince.apart⟩

/-! ### Different keys -/

/-- **A release under another key is refused**, and changes nothing. -/
theorem Consistent.release_other (hp : p.Consistent) {k l : Key} {g : Handle C}
    (hk : p.held.get? k = some g) (hne : l ≠ k) (force : Bool) (w : W) :
    p.release d g (some l) force w =
      (if p.closed then .ok () else .error .unknownHandle, p, w) := by
  have hnone : p.checkout? g (some l) = none := by
    refine Option.eq_none_iff_forall_ne_some.mpr fun m hm => ?_
    obtain ⟨g', hheld, hsame, hkey⟩ := hp.checkout?_eq_some_iff.mp hm
    obtain rfl : l = m := by simpa using hkey
    exact hne (hp.held_inj hheld hk (Handle.isSame_iff.mp hsame).1)
  rw [release, hnone]

omit [DecidableEq C] in
/-- **An acquire under another key** does not deliver the connection. -/
theorem Consistent.acquire_other (hp : p.Consistent) {k l : Key} {g h : Handle C}
    (hk : p.held.get? k = some g) (hne : l ≠ k)
    (hacquire : (p.acquire d (some l) w).1 = .ok h) : h.id ≠ g.id := by
  intro hid
  rcases acquire_cases hacquire with ⟨hheld, _⟩ | ⟨hfree, _⟩
  · exact hne (hp.held_inj hheld hk hid)
  · exact hp.acquire_ne hfree hacquire hk hid.symm

/-! ### The main statement -/

/-- **Names do not matter.** A dialogue with a new pool is held again under other names,
different ones for different borrowers.

* To serve turn after turn is one of the ways the dialogue may go. All answers are the same then
  under the other names, and so is the world in the end. The pool is the same as well, but for the
  names in its tables.
* In whatever other order connections are closed, so the dialogue may go under the other names,
  too; and it cannot go otherwise. This is so over any driver.
* If the connections that are checked out are closed in another order each time, the pool is
  still the same at every turn, but for the names, and only the reports of these closings may
  tell; the first of them does not tell in what it reports of the idle connections. This is so over
  any driver as well. If connections are closed independently of each other, no connection is
  delivered twice, and what becomes of the world in the meantime respects that, then all that the
  reports differ in is the order of the failures among the connections that were checked out.
* What has been checked out under one key is neither handed back nor handed out under another,
  even if the two are displayed alike. -/
theorem names_do_not_matter (hr : Injective r) (hbuild : build d config w₀ = (.ok p, w)) :
    (∀ turns,
      (∃ script, Dialogue d turns (p, w) script (serveEach d turns (p, w)).2 ∧
        (serveEach d turns (p, w)).1 = script.map Prod.snd) ∧
      ∃ answers q q' v, serveEach d turns (p, w) = (answers, q, v) ∧
        serveEach d (turns.map (Turn.rename r)) (p, w) = (answers, q', v) ∧ q.Renamed r q') ∧
      (∀ turns,
        (∀ script s, Dialogue d turns (p, w) script s →
          ∃ script' s', Dialogue d (turns.map (Turn.rename r)) (p, w) script' s' ∧
            Retold r script script' s s') ∧
        ∀ script' s', Dialogue d (turns.map (Turn.rename r)) (p, w) script' s' →
          ∃ script s, Dialogue d turns (p, w) script s ∧ Retold r script script' s s') ∧
      (∀ turns script script' s s', Dialogue d turns (p, w) script s →
        Dialogue d (turns.map (Turn.rename r)) (p, w) script' s' →
          List.Forall₂ (fun x x' => x.1.Renamed r x'.1 ∧ x.2.Resembles x.1 x'.2) script script' ∧
            s.1.Renamed r s'.1 ∧
            ∀ (R : W → W → Prop) (known : C → W → Prop), d.ClosesApart R → d.OpensNew known →
              (∀ t ∈ turns, t.Respects R known) →
                List.Forall₂ (fun x x' => x.2.Agrees x.1 x'.2) script script' ∧ R s.2 s'.2) ∧
      ∀ turns script s, Dialogue d turns (p, w) script s → ∀ (k l : Key) (g : Handle C),
        s.1.held.get? k = some g → l ≠ k →
          (∀ force v, s.1.release d g (some l) force v =
            (if s.1.closed then .ok () else .error .unknownHandle, s.1, v)) ∧
          ∀ v h, (s.1.acquire d (some l) v).1 = .ok h → h.id ≠ g.id := by
  have hp : p.Consistent := consistent_of_build hbuild
  have hsame : p.Renamed r p := renamed_of_build hbuild r
  refine ⟨fun turns => ⟨dialogue_serveEach d turns (p, w), ?_⟩,
    fun turns => ⟨fun script s hs => hs.retold hsame hr hp,
      fun script' s' hs' => hsame.original hr hp hs'⟩,
    fun turns script script' s s' hs hs' => ?_, fun turns script s hs k l g hk hne => ?_⟩
  · obtain ⟨answers, q, q', v, _, h, h', hpool, rfl⟩ := hsame.serveEach (d := d) hr hp turns w
    exact ⟨answers, q, q', v, h, h', hpool⟩
  · obtain ⟨hscripts, hpool⟩ := hsame.dialogue hr hp hs hs'
    refine ⟨hscripts, hpool, fun R known hd hnew hturns => ?_⟩
    have hsound : Sound known p w := sound_of_build hnew hbuild
    exact hsame.dialogue_apart hr hd hnew hsound (hd.equiv.refl w) hturns hs hs'
  · have hend : s.1.Consistent := hs.consistent hp
    exact ⟨fun force v => hend.release_other hk hne force v,
      fun v h hacquire => hend.acquire_other hk hne hacquire⟩

/-- An anonymous borrower, one that is called as its key is displayed, and one with another
name. Then the pool is closed. -/
def lookalikes : List (Turn World SimId) :=
  [⟨id, .get⟩, ⟨id, .getKeyed "auto:0"⟩, ⟨id, .getKeyed "worker"⟩, ⟨id, .closeAll⟩]

/-- Every close is reported to have failed. -/
def failingWorld : World := { backends := [{ failClose := true }] }

/-- Two of the three exchange their names, and their connections are closed in the reverse
order. -/
theorem names_do_not_matter_for_lookalikes :
    ∃ p script script' s s',
      build (World.driver 0 .manual) { minConnections := 0, maxConnections := 3 } failingWorld =
        (.ok p, failingWorld) ∧
      (serveEach (World.driver 0 .manual)
          (lookalikes.map (Turn.rename (Equiv.swap "auto:0" "worker"))) (p, failingWorld)).1 =
        (serveEach (World.driver 0 .manual) lookalikes (p, failingWorld)).1 ∧
      Dialogue (World.driver 0 .manual) lookalikes (p, failingWorld) script s ∧
      Dialogue (World.driver 0 .manual)
        (lookalikes.map (Turn.rename (Equiv.swap "auto:0" "worker"))) (p, failingWorld)
        script' s' ∧
      List.Forall₂ (fun x x' => x.2.Agrees x.1 x'.2) script script' ∧
      s.1.Renamed (Equiv.swap "auto:0" "worker") s'.1 ∧
      (script.map Prod.snd).getLast? = some (.closed ⟨0,
        [⟨0, .closeFailed 1⟩, ⟨1, .closeFailed 2⟩, ⟨2, .closeFailed 3⟩]⟩) ∧
      (script'.map Prod.snd).getLast? = some (.closed ⟨0,
        [⟨2, .closeFailed 3⟩, ⟨1, .closeFailed 2⟩, ⟨0, .closeFailed 1⟩]⟩) ∧
      ∀ v h, (s.1.acquire (World.driver 0 .manual) (some (.named "auto:0")) v).1 = .ok h →
        h.id ≠ 0 := by
  have hbuild : build (World.driver 0 .manual) { minConnections := 0, maxConnections := 3 }
      failingWorld = (.ok (fresh { minConnections := 0, maxConnections := 3 }), failingWorld) :=
    rfl
  have hnames := names_do_not_matter (Equiv.swap "auto:0" "worker").injective hbuild
  obtain ⟨_, _, _, _, _, hplay, hplay', _⟩ := hnames.1 lookalikes
  -- the latest checkout is the first in the table
  have hs : Dialogue (World.driver 0 .manual) lookalikes
      (fresh { minConnections := 0, maxConnections := 3 }, failingWorld) _ _ :=
    .turn (List.reverse_perm _) (.turn (List.reverse_perm _) (.turn (List.reverse_perm _)
      (.turn (List.reverse_perm _) .ended)))
  have hs' : Dialogue (World.driver 0 .manual)
      (lookalikes.map (Turn.rename (Equiv.swap "auto:0" "worker")))
      (fresh { minConnections := 0, maxConnections := 3 }, failingWorld) _ _ :=
    .turn (.refl _) (.turn (.refl _) (.turn (.refl _) (.turn (.refl _) .ended)))
  obtain ⟨_, hpool, hapart⟩ := hnames.2.2.1 _ _ _ _ _ hs hs'
  have hturns : ∀ t ∈ lookalikes, t.Respects World.Reordered World.Known := by
    simp only [lookalikes, List.mem_cons, List.not_mem_nil, or_false]
    rintro t (rfl | rfl | rfl | rfl) <;> exact ⟨id, fun _ _ => id⟩
  have hagree := hapart World.Reordered World.Known (World.driver_closesApart 0 .manual)
    (World.driver_opensNew 0 .manual) hturns
  refine ⟨_, _, _, _, _, hbuild, by rw [hplay, hplay'], hs, hs', hagree.1, hpool, rfl, rfl, ?_⟩
  exact (hnames.2.2.2 _ _ _ hs (.auto 0) (.named "auto:0") ⟨0, 0, Instant.start⟩ rfl
    (by decide)).2

/-! ### Closes that depend on each other -/

/-- How many connections a backend has opened, and which of them have been closed. -/
structure Jealous where
  opened : Nat := 0
  closed : List Nat := []

/-- **A jealous backend**: it lets one connection go, and reports every further close as failed. -/
def jealous : Driver Jealous Nat Unit where
  connect w := (.ok w.opened, { w with opened := w.opened + 1 })
  close c w := (if w.closed.isEmpty then .ok () else .error (), { w with closed := c :: w.closed })
  isClosed c w := (w.closed.contains c, w)
  status _ w := (.idle, w)
  rollback _ w := (.ok (), w)
  now w := (.start, w)

/-- Two borrowers, and then the pool is closed. -/
def twoBorrowers : List (Turn Jealous Nat) :=
  [⟨id, .getKeyed "a"⟩, ⟨id, .getKeyed "b"⟩, ⟨id, .closeAll⟩]

/-- **Where closes depend on each other, names do matter**, through the order they bring about.
Two borrowers exchange their names, and each time the one called `"a"` comes first when the pool is
closed. So the connection that was let go before is now the one whose close fails. -/
theorem names_matter_to_a_jealous_backend :
    ∃ p script script' s s',
      build jealous { minConnections := 0, maxConnections := 2 } {} = (.ok p, {}) ∧
      Dialogue jealous twoBorrowers (p, {}) script s ∧
      Dialogue jealous (twoBorrowers.map (Turn.rename (Equiv.swap "a" "b"))) (p, {}) script' s' ∧
      (script.map Prod.snd).getLast? = some (.closed ⟨1, [⟨1, ()⟩]⟩) ∧
      (script'.map Prod.snd).getLast? = some (.closed ⟨1, [⟨0, ()⟩]⟩) ∧
      ¬List.Forall₂ (fun x x' => x.2.Agrees x.1 x'.2) script script' := by
  have hs : Dialogue jealous twoBorrowers (fresh { minConnections := 0, maxConnections := 2 }, {})
      _ _ :=
    .turn (.refl _) (.turn (.refl _) (.turn (List.reverse_perm _) .ended))
  have hs' : Dialogue jealous (twoBorrowers.map (Turn.rename (Equiv.swap "a" "b")))
      (fresh { minConnections := 0, maxConnections := 2 }, {}) _ _ :=
    .turn (.refl _) (.turn (.refl _) (.turn (.refl _) .ended))
  refine ⟨_, _, _, _, _, rfl, hs, hs', rfl, rfl, ?_⟩
  rintro (_ | ⟨_, _ | ⟨_, _ | ⟨hclosed, _⟩⟩⟩)
  exact absurd hclosed.perm_failures (by decide)

end Pool

end ConnPool
