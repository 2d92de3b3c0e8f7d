import ConnPool.Proofs.Fleet.Closes
import ConnPool.Proofs.Pool.Refilling
import ConnPool.Proofs.Registry

/-!
# Providing a pool

Whoever asks a registry for the pool of a dsn gets the one that is registered, as long as it is
open. Otherwise one is built, and it takes the place of the closed one. What comes between – the
maker is asked for a backend, the settings are checked, the pool is filled up, the pool is
registered – either goes through as a whole (`ConnPool.Registry.Adds`) or leaves the registry and
the fleet as they were.

So a pool that has been provided for a dsn is provided again and again, until it is closed or the
registry forgets it. What may happen in the meantime is `ConnPool.Registry.Undisturbed`: anything
but a request to that pool to close, the removal of that dsn, and tearing the registry down.
Another dsn may be removed. This closes another pool, since no pool is registered for two dsns.
-/

namespace ConnPool

open Relation (ReflTransGen)
open World (Known)

namespace Pool

/-- **Filling a pool up leaves the connections alone** that are there already. -/
theorem conn?_of_opens {b : Nat} {clock : ClockKind} {s s' : Pool SimId × World}
    (h : ReflTransGen (Opens (World.driver b clock)) s s') {c : SimId} (hc : Known c s.2) :
    s'.2.conn? c = s.2.conn? c := by
  have hconnect : ∀ {w w' : World} {result}, (World.driver b clock).connect w = (result, w') →
      Known c w → w'.conn? c = w.conn? c := fun hcall hc =>
    (congrArg (fun s => s.2.conn? c) hcall).symm.trans (World.conn?_connect_of_known b hc)
  have hnow : ∀ {w w' : World} {reading}, (World.driver b clock).now w = (reading, w') →
      w'.conn? c = w.conn? c := fun hcall =>
    (congrArg (fun s => s.2.conn? c) hcall).symm.trans (by cases clock <;> rfl)
  refine steps_invariant (I := fun t => t.2.conn? c = s.2.conn? c) (fun t t' hstep ht => ?_) h rfl
  have hknown : Known c t.2 := hc.imp fun k hk => ht.trans hk
  cases hstep with
  | failed _ _ hcall => exact (hconnect hcall hknown).trans ht
  | added _ _ hcall hread hread' =>
    exact (hnow hread').trans ((hnow hread).trans ((hconnect hcall hknown).trans ht))

end Pool

namespace Registry

variable {env : World → World → Prop} {r : Registry} {f f₀ : Fleet} {dsn : String}
  {config : Config} {maker : String → Nat} {i : PoolId} {hist : History}

/-! ### The three answers -/

/-- The pool registered for the dsn is open. -/
theorem provide_of_open (hget : r.get? dsn = some i) (hopen : f.isClosed i = false)
    (config : Config) (maker : String → Nat) :
    r.provide dsn config maker f = (⟨.ok i, none⟩, r, f) := by
  rw [provide, open?_eq_some_iff.mpr ⟨hget, hopen⟩]

theorem open?_eq_none (hclosed : ∀ i, r.get? dsn = some i → f.isClosed i = true) :
    r.open? f dsn = none := by
  refine Option.eq_none_iff_forall_ne_some.mpr fun i hi => ?_
  obtain ⟨hget, hopen⟩ := open?_eq_some_iff.mp hi
  cases hopen.symm.trans (hclosed i hget)

/-- There is no open pool for the dsn, and the settings are refused. -/
theorem provide_of_defect (hclosed : ∀ i, r.get? dsn = some i → f.isClosed i = true)
    {defect : ConfigDefect} (hdefect : config.validate = .error defect) (maker : String → Nat) :
    r.provide dsn config maker f = (⟨.error (.configuration defect), some dsn⟩, r, f) := by
  simp only [provide, open?_eq_none hclosed, Fleet.build, Pool.build, hdefect]

/-- The pool that is built with some settings for a backend, in a world, and what becomes of the
world. -/
def newPool (config : Config) (b : Nat) (w : World) : Pool SimId × World :=
  (Pool.fresh config).refill (World.driver b .wall) w

/-- There is no open pool for the dsn, and one is built. -/
theorem provide_of_valid (hclosed : ∀ i, r.get? dsn = some i → f.isClosed i = true)
    (hvalid : config.Valid) (maker : String → Nat) :
    r.provide dsn config maker f =
      (⟨.ok f.members.length, some dsn⟩,
        { pools := r.pools.insert dsn f.members.length },
        { world := (newPool config (maker dsn) f.world).2
          members := f.members ++
            [⟨(newPool config (maker dsn) f.world).1, .manyThreads, maker dsn, .wall⟩] }) := by
  simp only [provide, open?_eq_none hclosed, Fleet.build, Pool.build_of_valid hvalid]
  rfl

/-! ### A new pool -/

/-- **A pool has been added for a dsn** to a registry and a fleet: the state after that is `s`. -/
structure Adds (r : Registry) (f : Fleet) (dsn : String) (config : Config) (b : Nat)
    (s : Registry × Fleet) : Prop where
  /-- The pool is at the end of the fleet, filled up from nothing as far as the backend allows. -/
  built : s.2.member? f.members.length =
    some ⟨(newPool config b f.world).1, .manyThreads, b, .wall⟩
  /-- Filling it up is all that has been done to the world. -/
  world_eq : s.2.world = (newPool config b f.world).2
  /-- It is open, even if the backend has failed. -/
  isOpen : s.2.isClosed f.members.length = false
  /-- It is registered for the dsn. -/
  registered : s.1.get? dsn = some f.members.length
  /-- What is registered for the other dsns is what was. -/
  others : ∀ other, other ≠ dsn → s.1.get? other = r.get? other
  /-- The pools that were there are as they were, -/
  members : ∀ j, j < f.members.length → s.2.member? j = f.member? j
  /-- and so are all connections. -/
  conns : ∀ c, Known c f.world → s.2.world.conn? c = f.world.conn? c

/-- **A registry that builds a pool adds it.** -/
theorem adds_provide (hclosed : ∀ i, r.get? dsn = some i → f.isClosed i = true)
    (hvalid : config.Valid) (maker : String → Nat) :
    Adds r f dsn config (maker dsn) (r.provide dsn config maker f).2 := by
  rw [provide_of_valid hclosed hvalid]
  have hopens : ReflTransGen (Pool.Opens (World.driver (maker dsn) .wall)) _
      (newPool config (maker dsn) f.world) := Pool.refill_opens _ rfl
  exact {
    built := List.getElem?_concat_length
    world_eq := rfl
    isOpen := by
      rw [Fleet.isClosed, Fleet.member?, List.getElem?_concat_length, Option.any_some]
      exact Pool.closed_of_opens hopens rfl
    registered := (Table.get?_insert _ _ _ _).trans (if_pos rfl)
    others := fun other hne => (Table.get?_insert _ _ _ _).trans (if_neg hne)
    members := fun j hj => List.getElem?_append_left hj
    conns := fun c hc => Pool.conn?_of_opens hopens hc }

/-- The maker is not asked for anything but the dsn. -/
theorem provide_congr {maker' : String → Nat} (h : maker' dsn = maker dsn) :
    r.provide dsn config maker' f = r.provide dsn config maker f := by
  rw [provide, provide, h]

/-! ### As long as nobody closes it -/

/-- **A step that does not disturb a pool** registered for a dsn: the pool is not told to close,
the dsn is not removed, and the registry is not torn down. -/
inductive Undisturbed (env : World → World → Prop) (dsn : String) (i : PoolId) :
    Registry × Fleet → Registry × Fleet → Prop
  /-- A pool answers a request. -/
  | serve {r : Registry} {f : Fleet} (j : PoolId) (request : Request (Handle SimId))
      (hspared : request = .closeAll → j ≠ i) :
      Undisturbed env dsn i (r, f) (r, (f.serve j request).2)
  /-- A pool is built that the registry does not know. -/
  | build {r : Registry} {f : Fleet} (sharing : Sharing) (config : Config) (b : Nat)
      (clock : ClockKind) : Undisturbed env dsn i (r, f) (r, (f.build sharing config b clock).2)
  /-- A pool is shared in another way. -/
  | share {r : Registry} {f : Fleet} (j : PoolId) (sharing : Sharing) :
      Undisturbed env dsn i (r, f) (r, f.share j sharing)
  /-- Something happens in the world. -/
  | drift {r : Registry} {f : Fleet} {w : World} (h : env f.world w) :
      Undisturbed env dsn i (r, f) (r, { f with world := w })
  /-- The pool of a dsn is asked for, of this one or of another. -/
  | provide {r : Registry} {f : Fleet} (other : String) (config : Config)
      (maker : String → Nat) : Undisturbed env dsn i (r, f) (r.provide other config maker f).2
  /-- Another dsn is removed. -/
  | remove {r : Registry} {f : Fleet} (other : String) (hother : other ≠ dsn) :
      Undisturbed env dsn i (r, f) (r.remove other f).2

/-- Providing a pool closes none. -/
theorem isClosed_provide (r : Registry) (f : Fleet) (dsn : String) (config : Config)
    (maker : String → Nat) (j : PoolId) :
    (r.provide dsn config maker f).2.2.isClosed j = f.isClosed j := by
  have hbuild := f.isClosed_build .manyThreads config (maker dsn) .wall j
  have hend := provides r f dsn config maker
  generalize r.provide dsn config maker f = result at hend ⊢
  cases hend with
  | shared _ _ => rfl
  | refused _ hrefused => rwa [hrefused] at hbuild
  | built _ hbuilt => rwa [hbuilt] at hbuild

/-- Removing a dsn closes the pool that is registered for it. -/
theorem isClosed_remove (r : Registry) (f : Fleet) (dsn : String) (j : PoolId) :
    (r.remove dsn f).2.2.isClosed j = true ↔
      f.isClosed j = true ∨ (r.get? dsn = some j ∧ j < f.members.length) := by
  rcases r.remove_cases f dsn with ⟨hnone, hsame⟩ | ⟨i, hget, hsame⟩ <;> rw [hsame]
  · simp [hnone]
  · rw [Fleet.closeAll_eq_serve, Fleet.isClosed_serve, hget]
    simp only [Option.some_inj, true_and, eq_comm (a := i)]

/-- What is provided is open. -/
theorem isClosed_of_provide (hresult : (r.provide dsn config maker f).1.result = .ok i) :
    f.isClosed i = false := by
  have hend := provides r f dsn config maker
  generalize r.provide dsn config maker f = result at hend hresult
  cases hend with
  | shared _ hopen =>
    cases hresult
    exact hopen
  | refused _ _ => cases hresult
  | @built j f' _ hbuild =>
    cases hresult
    -- a new pool has the next place
    rcases f.build_cases .manyThreads config (maker dsn) .wall with ⟨_, herror, _⟩ | ⟨_, hok, _⟩
    · rw [hbuild] at herror
      cases herror
    · rw [hbuild] at hok
      obtain rfl : i = f.members.length := Except.ok.inj hok
      exact Bool.eq_false_iff.mpr fun hclosed =>
        Nat.lt_irrefl _ (Fleet.lt_of_isClosed hclosed)

/-- **A pool is settled**: the registry has got there by a run, and the pool is open and registered
for the dsn. -/
structure Settled (env : World → World → Prop) (f₀ : Fleet) (dsn : String) (i : PoolId)
    (s : Registry × Fleet) : Prop where
  run : ∃ hist, Run env f₀ hist s
  registered : s.1.get? dsn = some i
  isOpen : s.2.isClosed i = false

/-- A pool that is provided is settled. -/
theorem Run.settled (h : Run env f₀ hist (r, f))
    (hresult : (r.provide dsn config maker f).1.result = .ok i) :
    Settled env f₀ dsn i (r.provide dsn config maker f).2 := by
  have hrun := h.provide dsn config maker
  have hopen : (r.provide dsn config maker f).2.2.isClosed i = false :=
    (r.isClosed_provide f dsn config maker i).trans (isClosed_of_provide hresult)
  exact ⟨⟨_, hrun⟩, hrun.knows.registered (provided_cons.mpr (Or.inl ⟨rfl, hresult⟩)) hopen, hopen⟩

/-- **A pool stays settled as long as it is not disturbed.** -/
theorem Undisturbed.settled {s s' : Registry × Fleet} (hstep : Undisturbed env dsn i s s')
    (h : Settled env f₀ dsn i s) : Settled env f₀ dsn i s' := by
  obtain ⟨⟨hist, hrun⟩, hget, hopen⟩ := h
  -- what is done to the fleet alone cannot take the pool out of the registry
  cases hstep with
  | serve j request hspared =>
    refine ⟨⟨hist, hrun.elsewhere (.serve j request _)⟩, hget, ?_⟩
    rw [← Bool.not_eq_true, Fleet.isClosed_serve]
    rintro (hclosed | ⟨hji, hrequest, _⟩)
    · cases hopen.symm.trans hclosed
    · exact hspared hrequest hji.symm
  | build sharing config b clock =>
    exact ⟨⟨hist, hrun.elsewhere (.build sharing config b clock _)⟩, hget,
      (Fleet.isClosed_build sharing config b clock _ i).trans hopen⟩
  | share j sharing =>
    exact ⟨⟨hist, hrun.elsewhere (.share j sharing _)⟩, hget,
      (Fleet.isClosed_share j sharing _ i).trans hopen⟩
  | drift henv => exact ⟨⟨hist, hrun.elsewhere (.drift _ henv)⟩, hget, hopen⟩
  | @provide r f other config maker =>
    have hopen' := (r.isClosed_provide f other config maker i).trans hopen
    have hrun' := hrun.provide other config maker
    refine ⟨⟨_, hrun'⟩, hrun'.knows.registered ?_ hopen', hopen'⟩
    exact provided_cons.mpr (Or.inr (hrun.knows.provided hget))
  | @remove r f other hother =>
    -- the pool of the other dsn is another one
    have hopen' : (r.remove other f).2.2.isClosed i = false := by
      rw [← Bool.not_eq_true, isClosed_remove]
      rintro (hclosed | ⟨hget', _⟩)
      · cases hopen.symm.trans hclosed
      · exact hother (hrun.knows.dsn_eq (hrun.knows.provided hget') (hrun.knows.provided hget))
    have hrun' := hrun.remove other
    exact ⟨⟨_, hrun'⟩, hrun'.knows.registered (hrun.knows.provided hget) hopen', hopen'⟩

/-! ### Main statement -/

/-- **A pool is built once for a dsn, as long as it is open**, and building one fails as a whole.
If an open pool is registered for the dsn, that is the answer, whatever settings are given; the
maker is not asked and nothing changes. Otherwise the maker is asked, for this dsn and for no other.
If the settings are valid, a new pool is added for the dsn, and the answer is that pool; if they
are not, the answer is what is wrong with them, and nothing changes. So whoever asks for the same
dsn again gets the same pool, unless it has been told to close, the dsn has been removed, or the
registry has been torn down in the meantime. -/
theorem built_once_while_open (h : Run env f₀ hist (r, f)) (dsn : String) (config : Config)
    (maker : String → Nat) :
    (∀ i, r.get? dsn = some i → f.isClosed i = false →
        r.provide dsn config maker f = (⟨.ok i, none⟩, r, f)) ∧
      ((∀ i, r.get? dsn = some i → f.isClosed i = true) →
        (r.provide dsn config maker f).1.asked = some dsn ∧
        (∀ maker', maker' dsn = maker dsn →
          r.provide dsn config maker' f = r.provide dsn config maker f) ∧
        (config.Valid → (r.provide dsn config maker f).1.result = .ok f.members.length ∧
          (∀ other, ¬Provided hist other f.members.length) ∧
          Adds r f dsn config (maker dsn) (r.provide dsn config maker f).2) ∧
        ∀ defect, config.validate = .error defect →
          r.provide dsn config maker f = (⟨.error (.configuration defect), some dsn⟩, r, f)) ∧
      ∀ i, (r.provide dsn config maker f).1.result = .ok i →
        ∀ r' f', ReflTransGen (Undisturbed env dsn i) (r.provide dsn config maker f).2 (r', f') →
          ∀ config' maker', r'.provide dsn config' maker' f' = (⟨.ok i, none⟩, r', f') := by
  refine ⟨fun i hget hopen => provide_of_open hget hopen config maker, fun hclosed =>
    ⟨?_, fun maker' hsame => provide_congr hsame, fun hvalid => ⟨?_, fun other hprovided => ?_,
      adds_provide hclosed hvalid maker⟩, fun defect hdefect =>
        provide_of_defect hclosed hdefect maker⟩, fun i hresult r' f' hsteps config' maker' => ?_⟩
  · cases hvalidate : config.validate with
    | error defect => rw [provide_of_defect hclosed hvalidate]
    | ok _ => rw [provide_of_valid hclosed (Config.validate_eq_ok_iff.mp hvalidate)]
  · rw [provide_of_valid hclosed hvalid]
  · exact Nat.lt_irrefl _ (h.knows.present hprovided)
  · have hsettled := steps_invariant (I := Settled env f₀ dsn i)
      (fun _ _ hstep => hstep.settled) hsteps (h.settled hresult)
    exact provide_of_open hsettled.registered hsettled.isOpen config' maker'

/-- The pool of a dsn has been closed by a borrower, and the backend refuses every attempt. With
settings that contradict each other the dsn is asked for in vain. With others it gets a new pool,
empty but open, and this is the one it gets from then on, also when another dsn has been removed. -/
theorem built_once_while_open_after_close :
    ∃ hist r f r' f', Run (fun _ _ => True) {} hist (r, f) ∧ r.get? "a" = some 0 ∧
      f.isClosed 0 = true ∧ f.members.length = 2 ∧
      r.provide "a" { minConnections := 4, maxConnections := 1 } (fun _ => 0) f =
        (⟨.error (.configuration .floorAboveCapacity), some "a"⟩, r, f) ∧
      Adds r f "a" {} 0 (r.provide "a" {} (fun _ => 0) f).2 ∧
      (newPool {} 0 f.world).1.size = 0 ∧
      Undisturbed (fun _ _ => True) "a" 2 (r.provide "a" {} (fun _ => 0) f).2 (r', f') ∧
      r'.get? "b" = none ∧
      ∀ config maker, r'.provide "a" config maker f' = (⟨.ok 2, none⟩, r', f') := by
  have h : Run (fun _ _ => True) {} _ (_, _) := (((Run.start.elsewhere
    (.drift {} (w := { backends := [{ refuseAll := true }] }) trivial)).provide
    "a" { minConnections := 0 } fun _ => 0).provide "b" {} fun _ => 0).elsewhere
    (.serve 0 .closeAll _)
  obtain ⟨_, hrefused, _⟩ := built_once_while_open h "a"
    { minConnections := 4, maxConnections := 1 } fun _ => 0
  obtain ⟨_, hbuilt, hagain⟩ := built_once_while_open h "a" {} fun _ => 0
  refine ⟨_, _, _, _, _, h, rfl, rfl, rfl, (hrefused ?closed).2.2.2 _ rfl,
    ((hbuilt ?closed).2.2.1 (by decide)).2.2, by decide +kernel, .remove "b" (by decide), rfl,
    hagain 2 rfl _ _ (.single (.remove "b" (by decide)))⟩
  intro i hget
  obtain rfl : 0 = i := Option.some.inj hget
  rfl

end Registry

end ConnPool
