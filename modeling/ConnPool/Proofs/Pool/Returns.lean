import ConnPool.Proofs.Pool.Closed
import ConnPool.Proofs.Pool.Permits

/-!
# Which releases are accepted

A connection that comes back has to be one that has been checked out. Handles outlive the
checkouts they were given for, though: a borrower may hand one back twice, or hand it to the
wrong pool, where the same number means another connection. This file says which releases
**take effect** (`ConnPool.Pool.EndsCheckout`), and that the others are **turned down**
(`ConnPool.Pool.TurnedDown`).

A release that names a key takes effect if that key holds the very connection, and one that
names none if any key does. For the second the pool goes by the key it remembers for the
number, and that it remembers the right one is what `ConnPool.Pool.Consistent` is needed for.

Once a release has taken effect nobody holds the connection any more
(`ConnPool.Pool.Unheld`), and nobody does until it is lent again.
-/

namespace ConnPool

namespace Pool

variable {W C ε : Type} {d : Driver W C ε} [DecidableEq C] {env : W → W → Prop}
  {config : Config} {w₀ w : W} {hist : List (Moment W C)} {p : Pool C} {h : Handle C}
  {key : Option Key} {force : Bool} {k : Key}

/-! ### Releases that take effect -/

/-- **A request ends the checkout of a key**: a connection is held under the key before the
request, and none is held under it afterwards. -/
def EndsCheckout (d : Driver W C ε) (p : Pool C) (w : W) (r : Request (Handle C)) (k : Key) :
    Prop :=
  (p.held.get? k).isSome = true ∧ (p.serve d r w).2.1.held.get? k = none

/-- **A release is turned down**: the pool answers that it does not know the connection – a
closed pool does not even say so –, and that is everything that happens. -/
structure TurnedDown (d : Driver W C ε) (p : Pool C) (w : W) (h : Handle C) (key : Option Key)
    (force : Bool) : Prop where
  /-- The answer. -/
  answer : (p.release d h key force w).1 = if p.closed then .ok () else .error .unknownHandle
  /-- The pool is as it was, and so is the world. -/
  unchanged : (p.release d h key force w).2 = (p, w)
  /-- Nothing has been opened, closed or rolled back. -/
  none_called : p.calls d (.release h key force) w = []

/-- The checkout a release ends is the one it finds. -/
theorem endsCheckout_release_iff :
    EndsCheckout d p w (.release h key force) k ↔ p.checkout? h key = some k := by
  change (p.held.get? k).isSome = true ∧ (p.release d h key force w).2.1.held.get? k = none ↔ _
  constructor
  · rintro ⟨hheld, hgone⟩
    rcases hk : p.checkout? h key with _ | l
    · rw [release_of_none hk] at hgone
      exact absurd hgone (Option.isSome_iff_ne_none.mp hheld)
    · rw [held_release hk, Table.get?_erase] at hgone
      by_cases hkl : k = l
      · rw [hkl]
      · rw [if_neg hkl] at hgone
        exact absurd hgone (Option.isSome_iff_ne_none.mp hheld)
  · intro hk
    obtain ⟨_, g, hheld, _⟩ := checkout?_eq_some_iff.mp hk
    refine ⟨by rw [hheld, Option.isSome_some], ?_⟩
    rw [held_release hk, Table.get?_erase, if_pos rfl]

/-- **A release that finds no checkout is turned down.** -/
theorem turnedDown_of_none (hk : p.checkout? h key = none) : TurnedDown d p w h key force where
  answer := by simp only [release, hk]
  unchanged := release_of_none hk force w
  none_called := by
    change (p.release d.logged h key force (w, [])).2.2.2 = []
    rw [release_of_none hk]

theorem turnedDown_of_not_endsCheckout
    (hnone : ∀ k, ¬EndsCheckout d p w (.release h key force) k) :
    TurnedDown d p w h key force := by
  refine turnedDown_of_none (Option.eq_none_iff_forall_ne_some.mpr fun k hk => ?_)
  exact hnone k (endsCheckout_release_iff.mpr hk)

/-- A release that takes effect is accepted. -/
theorem release_eq_ok (hk : p.checkout? h key = some k) :
    (p.release d h key force w).1 = .ok () := by
  have hend := released d h key force p w
  generalize p.release d h key force w = result at hend ⊢
  rcases hend with hnone | _ | _
  · cases hnone.symm.trans hk
  · rfl
  · rfl

/-! ### Connections that nobody holds -/

/-- **Nobody holds a connection.** -/
def Unheld (p : Pool C) (h : Handle C) : Prop :=
  ∀ k g, p.held.get? k = some g → g.isSame h = false

/-- A release of a connection that nobody holds is turned down, whichever of its handles is
handed in and whatever key is named. -/
theorem Unheld.turnedDown (hp : p.Unheld h) {g : Handle C} (hsame : g.isSame h = true) :
    TurnedDown d p w g key force := by
  refine turnedDown_of_none (Option.eq_none_iff_forall_ne_some.mpr fun k hk => ?_)
  obtain ⟨_, f, hheld, hid, hconn⟩ := checkout?_eq_some_iff.mp hk
  obtain ⟨hid', hconn'⟩ := Handle.isSame_iff.mp hsame
  have hf : f.isSame h = true := Handle.isSame_iff.mpr ⟨hid.trans hid', hconn.trans hconn'⟩
  exact absurd hf (Bool.eq_false_iff.mp (hp k f hheld))

/-- After a release that takes effect nobody holds the connection. -/
theorem Consistent.unheld_release (hp : p.Consistent) (hk : p.checkout? h key = some k) :
    (p.release d h key force w).2.1.Unheld h := by
  intro l f hl
  rw [held_release hk] at hl
  obtain ⟨hne, hl⟩ := Table.get?_erase_eq_some_iff.mp hl
  obtain ⟨_, g, hheld, hid, _⟩ := Pool.checkout?_eq_some_iff.mp hk
  -- it was held under one key only, and that key holds nothing now
  refine Bool.eq_false_iff.mpr fun hsame => hne (hp.held_inj hl hheld ?_)
  exact (Handle.isSame_iff.mp hsame).1.trans hid.symm

/-- **Nobody holds a connection until it is lent again.** -/
theorem Run.unheld {s t : Pool C × W} {between : List (Moment W C)}
    (hrun : Run d env s between t) (hs : s.1.Consistent) (hunheld : s.1.Unheld h)
    (hlent : ∀ m ∈ between, ∀ k g, m.Lends d k g → g.isSame h = false) : t.1.Unheld h := by
  refine (hrun.invariant (I := fun s => s.1.Consistent ∧ s.1.Unheld h) (fun _ _ _ _ hp => hp)
    ?_ ⟨hs, hunheld⟩).2
  rintro m hm ⟨hp, hpool⟩
  refine ⟨serve_invariant (I := fun s => s.1.Consistent) (fun _ _ hstep => hstep.consistent) hp,
    fun k g hk => ?_⟩
  rcases Moment.lends_or_held hp hk with hlends | ⟨hk, _⟩
  · exact hlent m hm k g hlends
  · exact hpool k g hk

/-! ### Main statement -/

/-- **A release is accepted exactly if it names a current checkout.** If it names no key, it
takes effect if any key holds the very connection; if it names a key, it takes effect if that
key does, and it ends no other checkout. Every other release is turned down. And when a release
has taken effect, all further releases of the connection are turned down until it is lent
again, through whichever handle, under whatever key and whatever happens in between. -/
theorem accepted_iff_checked_out (hreached : Reached d env config w₀ hist (p, w))
    (h : Handle C) (force : Bool) :
    ((∃ k, EndsCheckout d p w (.release h none force) k) ↔
        ∃ k g, p.held.get? k = some g ∧ g.isSame h = true) ∧
      (∀ k, ((∃ l, EndsCheckout d p w (.release h (some k) force) l) ↔
          ∃ g, p.held.get? k = some g ∧ g.isSame h = true) ∧
        ∀ l, EndsCheckout d p w (.release h (some k) force) l → l = k) ∧
      (∀ key, (∀ k, ¬EndsCheckout d p w (.release h key force) k) →
        TurnedDown d p w h key force) ∧
      ∀ key k, EndsCheckout d p w (.release h key force) k →
        (p.release d h key force w).1 = .ok () ∧
          ∀ between q v, Run d env (p.release d h key force w).2 between (q, v) →
            (∀ m ∈ between, ∀ l g, m.Lends d l g → g.isSame h = false) →
            ∀ g, g.isSame h = true → ∀ key' force', TurnedDown d q v g key' force' := by
  have hp : p.Consistent := hreached.consistent
  -- which checkout is found is a matter of what is held, since the bookkeeping is consistent
  have hends : ∀ key k, EndsCheckout d p w (.release h key force) k ↔
      ∃ g, p.held.get? k = some g ∧ g.isSame h = true ∧ (key = none ∨ key = some k) :=
    fun key k => endsCheckout_release_iff.trans hp.checkout?_eq_some_iff
  refine ⟨?_, fun k => ⟨?_, ?_⟩, fun key => turnedDown_of_not_endsCheckout, ?_⟩
  · refine exists_congr fun k => (hends none k).trans (exists_congr fun g => ?_)
    rw [eq_self, true_or, and_true]
  · constructor
    · rintro ⟨l, hl⟩
      obtain ⟨g, hg, hsame, hkey⟩ := (hends (some k) l).mp hl
      obtain rfl : k = l := Option.some.inj (hkey.resolve_left (Option.some_ne_none k))
      exact ⟨g, hg, hsame⟩
    · rintro ⟨g, hg, hsame⟩
      exact ⟨k, (hends (some k) k).mpr ⟨g, hg, hsame, Or.inr rfl⟩⟩
  · intro l hl
    obtain ⟨_, _, _, hkey⟩ := (hends (some k) l).mp hl
    exact (Option.some.inj (hkey.resolve_left (Option.some_ne_none k))).symm
  · intro key k hend
    have hk := endsCheckout_release_iff.mp hend
    refine ⟨release_eq_ok hk, fun between q v hrun hlent g hg key' force' => ?_⟩
    have hnext : Consistent (p.release d h key force w).2.1 :=
      (hreached.serve (.release h key force)).consistent
    exact (hrun.unheld hnext (hp.unheld_release hk) hlent).turnedDown hg

/-- A borrower hands its connection back, twice. In between the pool is pruned and another
borrower gets a connection, one that it has asked for under an issued key. The second release is
turned down, and so is that of a handle from elsewhere with the same number as a connection that
is checked out. -/
theorem accepted_iff_checked_out_twice :
    ∃ hist p w between q v, Reached (World.driver 0 .manual) (fun _ _ => True)
        { minConnections := 0, maxConnections := 3 } {} hist (p, w) ∧
      EndsCheckout (World.driver 0 .manual) p w
        (.release ⟨0, 0, Instant.start⟩ none true) (.named "a") ∧
      Run (World.driver 0 .manual) (fun _ _ => True)
        (p.release (World.driver 0 .manual) ⟨0, 0, Instant.start⟩ none true w).2
        between (q, v) ∧
      between.map Moment.request = [.acquire (some (.auto 5)), .prune] ∧
      TurnedDown (World.driver 0 .manual) q v ⟨0, 0, Instant.start⟩ (some (.named "a")) false ∧
      TurnedDown (World.driver 0 .manual) p w ⟨0, 7, Instant.start⟩ (some (.named "a")) true := by
  have h : Reached (World.driver 0 .manual) (fun _ _ => True)
      { minConnections := 0, maxConnections := 3 } {} _ (_, _) :=
    ⟨_, _, rfl, (Run.start.serve (.acquire (some (.named "a")))).serve (.acquire none)⟩
  have hown := accepted_iff_checked_out h ⟨0, 0, Instant.start⟩ true
  have hforeign := accepted_iff_checked_out h ⟨0, 7, Instant.start⟩ true
  have hrun := fun s : Pool SimId × World => ((Run.start :
    Run (World.driver 0 .manual) (fun _ _ => True) s [] s).serve .prune).serve
      (.acquire (some (.auto 5)))
  refine ⟨_, _, _, _, _, _, h, endsCheckout_release_iff.mpr ?found, hrun _, rfl, ?again, ?_⟩
  case found => rfl
  case again =>
    refine (hown.2.2.2 none (.named "a") (endsCheckout_release_iff.mpr rfl)).2 _ _ _ (hrun _) ?_
      _ rfl _ _
    intro m hm l g hlends
    obtain ⟨key, hrequest, _, hok⟩ := hlends
    rcases List.mem_cons.mp hm with rfl | hm
    · -- the connection that is lent has been opened for the purpose
      cases hrequest
      cases hok
      rfl
    · rw [List.mem_singleton.mp hm] at hrequest
      cases hrequest
  · refine hforeign.2.2.1 _ fun k hk => ?_
    cases endsCheckout_release_iff.mp hk

end Pool

end ConnPool
