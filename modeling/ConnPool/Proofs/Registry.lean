import ConnPool.Registry
import ConnPool.Proofs.Fleet

/-!
# No orphaned pool

A registry hands pools out and cannot take them back. Whoever has been given one can close it
behind the registry's back, and goes on holding it when the registry has put another in its
place. What has to be shown is that no pool is left open that the registry does not know any
more (`ConnPool.Registry.no_orphaned_pool`).

Two facts carry it.

* **A pool is replaced or forgotten only when it is closed.** It is replaced after having been
  found closed, and forgotten after having been closed. Between the two it may be closed by
  anybody, but nobody can open it again (`ConnPool.Fleet.isClosed_of_changes`).
* **A pool is new when it is built.** Its place in the fleet is one that no pool has had
  before, so it has not been handed out for another dsn.

A run of a registry (`ConnPool.Registry.Run`) keeps a history of what has been asked for and
what has been provided. Between two calls anything may be done to the fleet. Looking up what
is registered for a dsn changes nothing and so is no step of a run.
-/

namespace ConnPool

namespace Registry

/-! ### What each call comes to -/

variable {r : Registry} {f : Fleet} {dsn : String} {config : Config} {maker : String → Nat}

/-- **What it comes to when the pool of a dsn is asked for**: the answer, the registry and the
fleet after it. -/
inductive Provides (r : Registry) (f : Fleet) (dsn : String) (config : Config)
    (maker : String → Nat) : Provision × Registry × Fleet → Prop
  /-- The pool registered for the dsn is open, and is shared. -/
  | shared {i : PoolId} (hget : r.get? dsn = some i) (hopen : f.isClosed i = false) :
      Provides r f dsn config maker (⟨.ok i, none⟩, r, f)
  /-- There is no such pool, but the settings of a new one are refused. -/
  | refused {e : Refusal Fault} {f' : Fleet}
      (hclosed : ∀ i, r.get? dsn = some i → f.isClosed i = true)
      (hbuild : f.build .manyThreads config (maker dsn) .wall = (.error e, f')) :
      Provides r f dsn config maker (⟨.error e, some dsn⟩, r, f')
  /-- There is no such pool, and a new one is built and registered. -/
  | built {i : PoolId} {f' : Fleet} (hclosed : ∀ i, r.get? dsn = some i → f.isClosed i = true)
      (hbuild : f.build .manyThreads config (maker dsn) .wall = (.ok i, f')) :
      Provides r f dsn config maker
        (⟨.ok i, some dsn⟩, { pools := r.pools.insert dsn i }, f')

theorem open?_eq_some_iff {i : PoolId} :
    r.open? f dsn = some i ↔ r.get? dsn = some i ∧ f.isClosed i = false := by
  rw [open?, Option.filter_eq_some_iff, Bool.not_eq_true']

theorem provides (r : Registry) (f : Fleet) (dsn : String) (config : Config)
    (maker : String → Nat) : Provides r f dsn config maker (r.provide dsn config maker f) := by
  rw [provide]
  cases hopen : r.open? f dsn with
  | some i =>
    obtain ⟨hget, hopen⟩ := open?_eq_some_iff.mp hopen
    exact .shared hget hopen
  | none =>
    have hclosed : ∀ i, r.get? dsn = some i → f.isClosed i = true := by
      intro i hget
      rw [← Bool.not_eq_false]
      intro hfalse
      cases hopen.symm.trans (open?_eq_some_iff.mpr ⟨hget, hfalse⟩)
    rcases hbuild : f.build .manyThreads config (maker dsn) .wall with ⟨e | i, f'⟩
    · exact .refused hclosed hbuild
    · exact .built hclosed hbuild

/-- A pool is removed only after it has been closed. -/
theorem remove_cases (r : Registry) (f : Fleet) (dsn : String) :
    (r.get? dsn = none ∧ (r.remove dsn f).2 = (r, f)) ∨
      ∃ i, r.get? dsn = some i ∧
        (r.remove dsn f).2 = ({ pools := r.pools.erase dsn }, (f.closeAll i).2) := by
  rw [remove]
  cases hget : r.get? dsn with
  | none => exact Or.inl ⟨rfl, rfl⟩
  | some i => exact Or.inr ⟨i, rfl, rfl⟩

theorem mem_registrations {i : PoolId} : (dsn, i) ∈ r.registrations ↔ r.get? dsn = some i := by
  rw [registrations, List.mem_mergeSort, get?, Table.get?_eq_some_iff]

/-! ### What the calls do to the fleet -/

variable {env : World → World → Prop}

open Fleet (Changes Change)

theorem changes_provide (r : Registry) (f : Fleet) (dsn : String) (config : Config)
    (maker : String → Nat) : Changes env f (r.provide dsn config maker f).2.2 := by
  have hend := provides r f dsn config maker
  generalize r.provide dsn config maker f = result at hend
  cases hend with
  | shared _ _ => exact .refl
  | refused _ hbuild => exact Fleet.changes_build hbuild
  | built _ hbuild => exact Fleet.changes_build hbuild

theorem changes_remove (r : Registry) (f : Fleet) (dsn : String) :
    Changes env f (r.remove dsn f).2.2 := by
  rcases r.remove_cases f dsn with ⟨_, hsame⟩ | ⟨i, _, hsame⟩ <;> rw [hsame]
  exact Fleet.changes_closeAll f i

theorem changes_closeEach (l : List (String × PoolId)) (f : Fleet) :
    Changes env f (closeEach l f).2 := by
  induction l generalizing f with
  | nil => exact .refl
  | cons e l ih => exact (Fleet.changes_closeAll f e.2).trans (ih (f.closeAll e.2).2)

theorem changes_closeAll (r : Registry) (f : Fleet) : Changes env f (r.closeAll f).2.2 :=
  changes_closeEach r.registrations f

/-- Every pool of the list ends up closed, whatever the closes after it do. -/
theorem isClosed_closeEach {l : List (String × PoolId)} {i : PoolId} (hmem : (dsn, i) ∈ l)
    (hi : i < f.members.length) : (closeEach l f).2.isClosed i = true := by
  induction l generalizing f with
  | nil => cases hmem
  | cons e l ih =>
    have hfirst : Changes (fun _ _ => False) f (f.closeAll e.2).2 := Fleet.changes_closeAll f e.2
    have hrest : Changes (fun _ _ => False) (f.closeAll e.2).2 (closeEach (e :: l) f).2 :=
      changes_closeEach l (f.closeAll e.2).2
    rcases List.mem_cons.mp hmem with rfl | hmem
    · exact Fleet.isClosed_of_changes hrest (Fleet.isClosed_closeAll hi)
    · exact ih hmem (Nat.lt_of_lt_of_le hi (Fleet.length_le_of_changes hfirst))

/-! ### Runs of a registry -/

/-- What has been asked of a registry: the dsns, each with what was provided for it, the
latest first. -/
abbrev History := List (String × Provision)

/-- **Runs of a registry**, from an empty one over some fleet, with their history and the
state they end in. Anything may be done to the fleet between two calls. -/
inductive Run (env : World → World → Prop) (f₀ : Fleet) : History → Registry × Fleet → Prop
  /-- Nothing has happened. -/
  | start : Run env f₀ [] ({}, f₀)
  /-- Something is done to the fleet. -/
  | elsewhere {hist : History} {r : Registry} {f f' : Fleet} (h : Run env f₀ hist (r, f))
      (hstep : Change env f f') : Run env f₀ hist (r, f')
  /-- The pool of a dsn is asked for. -/
  | provide {hist : History} {r : Registry} {f : Fleet} (h : Run env f₀ hist (r, f))
      (dsn : String) (config : Config) (maker : String → Nat) :
      Run env f₀ ((dsn, (r.provide dsn config maker f).1) :: hist) (r.provide dsn config maker f).2
  /-- The pool of a dsn is removed. -/
  | remove {hist : History} {r : Registry} {f : Fleet} (h : Run env f₀ hist (r, f))
      (dsn : String) : Run env f₀ hist (r.remove dsn f).2
  /-- The registry is torn down. -/
  | closeAll {hist : History} {r : Registry} {f : Fleet} (h : Run env f₀ hist (r, f)) :
      Run env f₀ hist (r.closeAll f).2

/-- A pool has been provided for a dsn. -/
def Provided (hist : History) (dsn : String) (i : PoolId) : Prop :=
  ∃ asked, (dsn, ⟨.ok i, asked⟩) ∈ hist

/-- A pool has been built for a dsn: that is the dsn the maker was asked for, whoever wanted
the pool. -/
def Built (hist : History) (dsn : String) (i : PoolId) : Prop :=
  ∃ asker, (asker, ⟨.ok i, some dsn⟩) ∈ hist

variable {hist : History} {i j : PoolId} {other : String} {f₀ f' : Fleet}

theorem provided_cons {answer : Provision} : Provided ((dsn, answer) :: hist) other i ↔
    (other = dsn ∧ answer.result = .ok i) ∨ Provided hist other i := by
  constructor
  · rintro ⟨asked, hmem⟩
    rcases List.mem_cons.mp hmem with heq | hmem
    · cases heq
      exact Or.inl ⟨rfl, rfl⟩
    · exact Or.inr ⟨asked, hmem⟩
  · rintro (⟨rfl, hresult⟩ | ⟨asked, hmem⟩)
    · obtain ⟨_, asked⟩ := answer
      cases hresult
      exact ⟨asked, List.mem_cons_self⟩
    · exact ⟨asked, List.mem_cons_of_mem _ hmem⟩

theorem Built.cons {e : String × Provision} (h : Built hist dsn i) : Built (e :: hist) dsn i :=
  h.imp fun _ hmem => List.mem_cons_of_mem e hmem

/-! ### What a registry knows -/

/-- **A registry knows its pools**: what it has handed out and what is registered agree. -/
structure Knows (hist : History) (r : Registry) (f : Fleet) : Prop where
  /-- A pool that has been provided is there. -/
  present : ∀ {dsn i}, Provided hist dsn i → i < f.members.length
  /-- If it is open, it is registered. -/
  registered : ∀ {dsn i}, Provided hist dsn i → f.isClosed i = false → r.get? dsn = some i
  /-- Only what has been provided is registered. -/
  provided : ∀ {dsn i}, r.get? dsn = some i → Provided hist dsn i
  /-- No pool has been provided for two dsns. -/
  dsn_eq : ∀ {dsn other i}, Provided hist dsn i → Provided hist other i → dsn = other
  /-- A pool that has been provided was built for its dsn. -/
  built : ∀ {dsn i}, Provided hist dsn i → Built hist dsn i
  /-- No maker is asked for any other dsn than the one that was wanted. -/
  asked : ∀ {dsn i}, Built hist dsn i → Provided hist dsn i

theorem knows_empty (f : Fleet) : Knows [] {} f where
  present h := by simp [Provided] at h
  registered h := by simp [Provided] at h
  provided h := by cases h
  dsn_eq h := by simp [Provided] at h
  built h := by simp [Provided] at h
  asked h := by simp [Built] at h

/-- What is done to the fleet does not matter to what the registry knows. -/
theorem Knows.changes (h : Knows hist r f) (hchanges : Changes env f f') : Knows hist r f' :=
  { h with
    present := fun hi => Nat.lt_of_lt_of_le (h.present hi) (Fleet.length_le_of_changes hchanges)
    registered := fun hi hopen => h.registered hi (by
      rw [← Bool.not_eq_true]
      intro hclosed
      cases hopen.symm.trans (Fleet.isClosed_of_changes hchanges hclosed)) }

/-- What is forgotten must have been closed. -/
theorem Knows.forget {r' : Registry} (h : Knows hist r f) (hchanges : Changes env f f')
    (hless : ∀ {dsn i}, r'.get? dsn = some i → r.get? dsn = some i)
    (hclosed : ∀ {dsn i}, r.get? dsn = some i → r'.get? dsn = some i ∨ f'.isClosed i = true) :
    Knows hist r' f' :=
  { h.changes hchanges with
    registered := fun hi hopen => by
      rcases hclosed ((h.changes hchanges).registered hi hopen) with hstill | hgone
      · exact hstill
      · cases hopen.symm.trans hgone
    provided := fun hget => h.provided (hless hget) }

/-- An answer that provides no pool that was not known before teaches nothing. -/
theorem Knows.cons_of_known {answer : Provision} (h : Knows hist r f)
    (hknown : ∀ i, answer.result = .ok i → answer.asked = none ∧ Provided hist dsn i) :
    Knows ((dsn, answer) :: hist) r f := by
  have hsame : ∀ {other i}, Provided ((dsn, answer) :: hist) other i → Provided hist other i := by
    intro other i hi
    rcases provided_cons.mp hi with ⟨rfl, hresult⟩ | hi
    · exact (hknown i hresult).2
    · exact hi
  exact {
    present := fun hi => h.present (hsame hi)
    registered := fun hi hopen => h.registered (hsame hi) hopen
    provided := fun hget => provided_cons.mpr (Or.inr (h.provided hget))
    dsn_eq := fun hi hi' => h.dsn_eq (hsame hi) (hsame hi')
    built := fun hi => (h.built (hsame hi)).cons
    asked := fun {other i} hbuilt => by
      obtain ⟨asker, hmem⟩ := hbuilt
      rcases List.mem_cons.mp hmem with heq | hmem
      · cases heq
        cases (hknown i rfl).1
      · exact provided_cons.mpr (Or.inr (h.asked ⟨asker, hmem⟩)) }

/-- **A pool that is built is new**, and takes the place of a closed one at most. -/
theorem Knows.cons_of_built (h : Knows hist r f) (hchanges : Changes env f f')
    (hi : i = f.members.length) (hi' : i < f'.members.length)
    (hclosed : ∀ j, r.get? dsn = some j → f.isClosed j = true) :
    Knows ((dsn, ⟨.ok i, some dsn⟩) :: hist) { pools := r.pools.insert dsn i } f' := by
  have hold := h.changes hchanges
  have hnew : ∀ {other}, ¬ Provided hist other i := fun hprovided =>
    Nat.lt_irrefl _ (hi ▸ h.present hprovided)
  exact {
    present := fun {other j} hj => by
      rcases provided_cons.mp hj with ⟨_, hresult⟩ | hj
      · cases hresult
        exact hi'
      · exact hold.present hj
    registered := fun {other j} hj hopen => by
      refine Table.get?_insert_eq_some_iff.mpr ?_
      rcases provided_cons.mp hj with ⟨rfl, hresult⟩ | hj
      · cases hresult
        exact Or.inl ⟨rfl, rfl⟩
      · have hget := hold.registered hj hopen
        refine Or.inr ⟨?_, hget⟩
        rintro rfl
        cases hopen.symm.trans (Fleet.isClosed_of_changes hchanges (hclosed j hget))
    provided := fun {other j} hget => by
      refine provided_cons.mpr ?_
      rcases Table.get?_insert_eq_some_iff.mp hget with ⟨rfl, rfl⟩ | ⟨_, hget⟩
      · exact Or.inl ⟨rfl, rfl⟩
      · exact Or.inr (h.provided hget)
    dsn_eq := fun {other another j} hj hj' => by
      rcases provided_cons.mp hj with ⟨hdsn, hresult⟩ | hj <;>
        rcases provided_cons.mp hj' with ⟨hdsn', hresult'⟩ | hj'
      · exact hdsn.trans hdsn'.symm
      · cases hresult
        exact absurd hj' hnew
      · cases hresult'
        exact absurd hj hnew
      · exact h.dsn_eq hj hj'
    built := fun {other j} hj => by
      rcases provided_cons.mp hj with ⟨rfl, hresult⟩ | hj
      · cases hresult
        exact ⟨other, List.mem_cons_self⟩
      · exact (h.built hj).cons
    asked := fun {other j} hbuilt => by
      obtain ⟨asker, hmem⟩ := hbuilt
      refine provided_cons.mpr ?_
      rcases List.mem_cons.mp hmem with heq | hmem
      · cases heq
        exact Or.inl ⟨rfl, rfl⟩
      · exact Or.inr (h.asked ⟨asker, hmem⟩) }

theorem Knows.provide (h : Knows hist r f) (dsn : String) (config : Config)
    (maker : String → Nat) :
    Knows ((dsn, (r.provide dsn config maker f).1) :: hist) (r.provide dsn config maker f).2.1
      (r.provide dsn config maker f).2.2 := by
  have hchanges : Changes (fun _ _ => False) f (r.provide dsn config maker f).2.2 :=
    changes_provide r f dsn config maker
  have hend := provides r f dsn config maker
  generalize r.provide dsn config maker f = result at hend hchanges ⊢
  cases hend with
  | shared hget _ =>
    refine h.cons_of_known fun i hresult => ⟨rfl, ?_⟩
    cases hresult
    exact h.provided hget
  | refused _ _ => exact (h.changes hchanges).cons_of_known fun i hresult => by cases hresult
  | @built i f' hclosed hbuild =>
    rcases f.build_cases .manyThreads config (maker dsn) .wall with
      ⟨e, herror, _⟩ | ⟨m, hok, hmembers⟩
    · rw [hbuild] at herror
      cases herror
    · rw [hbuild] at hok hmembers
      have hi : i = f.members.length := Except.ok.inj hok
      have hmembers : f'.members = f.members ++ [m] := hmembers
      refine h.cons_of_built hchanges hi ?_ hclosed
      rw [hmembers, List.length_append, hi]
      exact Nat.lt_succ_self _

/-- **Every run of a registry keeps what it knows right.** -/
theorem Run.knows {s : Registry × Fleet} (h : Run env f₀ hist s) : Knows hist s.1 s.2 := by
  induction h with
  | start => exact knows_empty f₀
  | elsewhere _ hstep ih => exact ih.changes (.single hstep)
  | provide _ dsn config maker ih => exact ih.provide dsn config maker
  | @remove hist r f _ dsn ih =>
    rcases r.remove_cases f dsn with ⟨_, hsame⟩ | ⟨i, hget, hsame⟩ <;> rw [hsame]
    · exact ih
    · have hchanges : Changes env f (f.closeAll i).2 := Fleet.changes_closeAll f i
      refine ih.forget hchanges (fun hj => (Table.get?_erase_eq_some_iff.mp hj).2)
        fun {other j} hj => ?_
      by_cases hother : other = dsn
      · subst hother
        obtain rfl : i = j := Option.some.inj (hget.symm.trans hj)
        exact Or.inr (Fleet.isClosed_closeAll (ih.present (ih.provided hget)))
      · exact Or.inl (Table.get?_erase_eq_some_iff.mpr ⟨hother, hj⟩)
  | @closeAll hist r f _ ih =>
    have hchanges : Changes env f (r.closeAll f).2.2 := changes_closeAll r f
    refine ih.forget hchanges (fun hj => by cases hj) fun hj => ?_
    exact Or.inr (isClosed_closeEach (mem_registrations.mpr hj) (ih.present (ih.provided hj)))

/-! ### The main statement -/

/-- **No pool is orphaned.** At each point of a run, a pool that has ever been provided and is
open is registered under the dsn it was built for, and under no other. So there is at most one
open pool for a dsn, and no pool for two. And once the registry is torn down, it is empty, and
every pool it has ever built is closed. -/
theorem no_orphaned_pool (h : Run env f₀ hist (r, f)) :
    (∀ dsn i, Provided hist dsn i → f.isClosed i = false →
        ∀ other, (Built hist other i ↔ other = dsn) ∧ (r.get? other = some i ↔ other = dsn)) ∧
      (∀ dsn i j, Provided hist dsn i → Provided hist dsn j → f.isClosed i = false →
        f.isClosed j = false → i = j) ∧
      (∀ dsn other i, Provided hist dsn i → Provided hist other i → dsn = other) ∧
      (r.closeAll f).2.1.pools.size = 0 ∧
      ∀ dsn i, Built hist dsn i → (r.closeAll f).2.2.isClosed i = true := by
  have hknows : Knows hist r f := h.knows
  refine ⟨fun dsn i hi hopen other => ⟨⟨fun hbuilt => ?_, ?_⟩, ⟨fun hget => ?_, ?_⟩⟩,
    fun dsn i j hi hj hopen hopen' => ?_, fun _ _ _ => hknows.dsn_eq, rfl, fun dsn i hi => ?_⟩
  · exact hknows.dsn_eq (hknows.asked hbuilt) hi
  · rintro rfl
    exact hknows.built hi
  · exact hknows.dsn_eq (hknows.provided hget) hi
  · rintro rfl
    exact hknows.registered hi hopen
  · exact Option.some.inj ((hknows.registered hi hopen).symm.trans (hknows.registered hj hopen'))
  · -- an open pool would be registered with a registry that is empty
    rw [← Bool.not_eq_false]
    intro hopen
    cases h.closeAll.knows.registered (hknows.asked hi) hopen

/-- Two dsns get a pool each. One of the pools is closed by a borrower, and replaced when its
dsn is asked for again. After that the replacement is the one pool open for its dsn, and it
is closed with the other when the registry is torn down. -/
theorem no_orphaned_pool_after_replacement :
    ∃ hist r f, Run (fun _ _ => True) {} hist (r, f) ∧
      hist.map (fun e => (e.1, e.2.result.toOption, e.2.asked)) =
        [("a", some 2, some "a"), ("a", some 0, none), ("b", some 1, some "b"),
          ("a", some 0, some "a")] ∧
      f.isClosed 0 = true ∧ f.isClosed 1 = false ∧ f.isClosed 2 = false ∧
      (∀ other, (Built hist other 2 ↔ other = "a") ∧ (r.get? other = some 2 ↔ other = "a")) ∧
      ∀ dsn i, Built hist dsn i → (r.closeAll f).2.2.isClosed i = true := by
  have h : Run (fun _ _ => True) {} _ (_, _) := ((((Run.start.provide
    "a" { minConnections := 0 } fun _ => 0).provide "b" {} fun _ => 0).provide
    "a" {} fun _ => 0).elsewhere (.serve 0 .closeAll _)).provide
    "a" { minConnections := 0 } fun _ => 0
  obtain ⟨hregistered, _, _, _, hdown⟩ := no_orphaned_pool h
  exact ⟨_, _, _, h, rfl, rfl, rfl, rfl, hregistered "a" 2 ⟨_, List.mem_cons_self⟩ rfl, hdown⟩

end Registry

end ConnPool
