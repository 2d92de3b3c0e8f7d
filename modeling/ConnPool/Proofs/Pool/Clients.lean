import ConnPool.Proofs.Pool.Faultless
import ConnPool.Proofs.Pool.Ownership
import ConnPool.Proofs.Simulation.Faultless

/-!
# Clients that share a pool

A pool that is shared has many clients, and each of them does two things only: it gets a
connection, and puts back one that it has in its hands. `ConnPool.Crowd` is a pool together
with what is in whose hands, and `ConnPool.Crowd.Turns` are the ways in which any number of
clients may take turns, in any order, while the world changes in between. How many
connections have been out at once is recorded on the way.

On a good day this goes well. What is in the clients' hands is what the pool has checked out
(`ConnPool.Crowd.Settled`), so nobody is turned away before all connections are out; and as
nothing idle is ever passed over for a new connection, the pool never owns more of them than
have been needed at once. `ConnPool.Crowd.fair_sharing` says all of this.
-/

namespace ConnPool

open Driver (Call opened Lasts NoneClosed)
open Pool (Healthy Reached Run silently)

/-- **A pool and its clients.** -/
structure Crowd (ι W C : Type) where
  /-- The pool. -/
  pool : Pool C
  /-- The world outside. -/
  world : W
  /-- The connections in the hands of the clients, each with the client that has it. -/
  hands : List (ι × Handle C)

namespace Crowd

variable {ι W C ε : Type} {d : Driver W C ε}

/-! ### Taking turns -/

/-- A client gets a connection, and has it in its hands then. -/
def get (d : Driver W C ε) (i : ι) (x : Crowd ι W C) :
    Except (Refusal ε) (Handle C) × Crowd ι W C :=
  match x.pool.acquire d none x.world with
  | (.ok g, p, w) => (.ok g, ⟨p, w, (i, g) :: x.hands⟩)
  | (.error e, p, w) => (.error e, ⟨p, w, x.hands⟩)

variable [DecidableEq ι] [DecidableEq C]

/-- A client puts a connection back that it has in its hands. -/
def put (d : Driver W C ε) (i : ι) (g : Handle C) (x : Crowd ι W C) :
    Except (Refusal ε) Unit × Crowd ι W C :=
  match x.pool.release d g none false x.world with
  | (result, p, w) => (result, ⟨p, w, x.hands.erase (i, g)⟩)

/-- **Clients take turns**, in whatever order, and nothing is in their hands at first. The
number says how many connections have been in their hands at once so far, at most. -/
inductive Turns (d : Driver W C ε) (env : W → W → Prop) (p₀ : Pool C) (w₀ : W) :
    Nat → Crowd ι W C → Prop
  /-- Nobody has had a turn. -/
  | start : Turns d env p₀ w₀ 0 ⟨p₀, w₀, []⟩
  /-- The world changes on its own. -/
  | drift {peak : Nat} {x : Crowd ι W C} {w : W} (h : Turns d env p₀ w₀ peak x)
      (henv : env x.world w) : Turns d env p₀ w₀ peak { x with world := w }
  /-- A client gets a connection, or tries to. -/
  | get {peak : Nat} {x : Crowd ι W C} (h : Turns d env p₀ w₀ peak x) (i : ι) :
      Turns d env p₀ w₀ (max peak (x.get d i).2.hands.length) (x.get d i).2
  /-- A client puts a connection back. -/
  | put {peak : Nat} {x : Crowd ι W C} (h : Turns d env p₀ w₀ peak x) {i : ι} {g : Handle C}
      (hmem : (i, g) ∈ x.hands) :
      Turns d env p₀ w₀ (max peak (x.put d i g).2.hands.length) (x.put d i g).2

/-- **The states a pool and its clients reach** after the pool has been built with some settings
in the world `w₀`. -/
def Arises (d : Driver W C ε) (env : W → W → Prop) (config : Config) (w₀ : W) (peak : Nat)
    (x : Crowd ι W C) : Prop :=
  ∃ p₀ w, Pool.build d config w₀ = (.ok p₀, w) ∧ Turns d env p₀ w peak x

variable {env : W → W → Prop} {p₀ : Pool C} {w₀ : W} {peak : Nat} {x : Crowd ι W C}

omit [DecidableEq ι] in
theorem get_served (d : Driver W C ε) (i : ι) (x : Crowd ι W C) :
    ((x.get d i).2.pool, (x.get d i).2.world) = (x.pool.serve d (.acquire none) x.world).2 := by
  rw [get, Pool.serve]
  obtain ⟨result, p, w⟩ := x.pool.acquire d none x.world
  cases result <;> rfl

/-- **Taking turns is a run of the pool**, and the clients are polite: they name no keys. -/
theorem Turns.run (h : Turns d env p₀ w₀ peak x) :
    ∃ hist, Run d env (p₀, w₀) hist (x.pool, x.world) ∧ ∀ m ∈ hist, m.Polite := by
  induction h with
  | start => exact ⟨[], .start, fun _ hm => absurd hm List.not_mem_nil⟩
  | drift _ henv ih =>
    obtain ⟨hist, hrun, hpolite⟩ := ih
    exact ⟨hist, hrun.drift henv, hpolite⟩
  | get _ i ih =>
    obtain ⟨hist, hrun, hpolite⟩ := ih
    refine ⟨_, get_served d i _ ▸ hrun.serve (.acquire none), ?_⟩
    exact List.forall_mem_cons.mpr ⟨fun _ hn => (nomatch hn), hpolite⟩
  | put _ _ ih =>
    obtain ⟨hist, hrun, hpolite⟩ := ih
    refine ⟨_, hrun.serve (.release _ none false), ?_⟩
    exact List.forall_mem_cons.mpr ⟨fun _ hn => (nomatch hn), hpolite⟩

variable {config : Config}

theorem Arises.reached (h : Arises d env config w₀ peak x) :
    ∃ hist, Reached d env config w₀ hist (x.pool, x.world) ∧ ∀ m ∈ hist, m.Polite := by
  obtain ⟨p₀, w, hbuild, hturns⟩ := h
  obtain ⟨hist, hrun, hpolite⟩ := hturns.run
  exact ⟨hist, ⟨p₀, w, hbuild, hrun⟩, hpolite⟩

/-! ### On a good day -/

variable {serves : W → Prop} {fit : C → W → Prop}

/-- **A pool and its clients are settled** on a good day, when `peak` connections have been in
the clients' hands at once, at most. -/
structure Settled (serves : W → Prop) (fit : C → W → Prop) (config : Config) (peak : Nat)
    (x : Crowd ι (W × List (Call C ε)) C) : Prop where
  /-- The pool is healthy. -/
  healthy : Healthy serves fit (x.pool, x.world)
  /-- What the clients have in their hands is what the pool has checked out. -/
  hands_perm : (x.hands.map Prod.snd).Perm x.pool.held.values
  /-- No more has been in their hands at once than the peak. -/
  hands_le : x.hands.length ≤ peak
  /-- The pool owns as many connections as its floor, or as the peak if that is more. -/
  size_eq : x.pool.size = max config.floor peak

section Settled

variable {x : Crowd ι (W × List (Call C ε)) C}

omit [DecidableEq ι] [DecidableEq C] in
theorem Settled.length_hands (h : Settled serves fit config peak x) :
    x.hands.length = x.pool.held.size := by
  rw [← Table.length_values, ← h.hands_perm.length_eq, List.length_map]

omit [DecidableEq ι] [DecidableEq C] in
/-- **A client that gets a connection leaves everything settled**, and so does one that is
turned away. -/
theorem Settled.get (hd : d.Faultless serves fit) (h : Settled serves fit config peak x)
    (hkeys : x.pool.KeysIssued) (i : ι) :
    Settled serves fit config (max peak (x.get d.logged i).2.hands.length)
      (x.get d.logged i).2 := by
  have hfree := hkeys.nextKey_free
  have hhands := h.length_hands
  rw [Crowd.get]
  rcases h.healthy.acquire hd hfree with ⟨g, q, s', hserved, hhealthy, hheld, hsize, _⟩ |
      ⟨hfull, _, _⟩
  · rw [hserved]
    refine ⟨hhealthy, ?_, Nat.le_max_right _ _, ?_⟩
    · change (g :: x.hands.map Prod.snd).Perm q.held.values
      rw [hheld, Table.values_insert g hfree]
      exact h.hands_perm.cons g
    · change q.size = max config.floor (max peak (x.hands.length + 1))
      rw [hsize, h.size_eq, hhands, Nat.max_assoc]
  · rw [hfull]
    refine ⟨h.healthy, h.hands_perm, Nat.le_max_right _ _, ?_⟩
    change x.pool.size = max config.floor (max peak x.hands.length)
    rw [h.size_eq, Nat.max_eq_left h.hands_le]

omit [DecidableEq ι] in
/-- What a client has in its hands is checked out, and the pool remembers under which key. -/
theorem Settled.checkout? (h : Settled serves fit config peak x) (hp : x.pool.Consistent)
    {i : ι} {g : Handle C} (hmem : (i, g) ∈ x.hands) :
    ∃ k, x.pool.checkout? g none = some k ∧ x.pool.held.get? k = some g := by
  have hvalue : g ∈ x.pool.held.values :=
    h.hands_perm.mem_iff.mp (List.mem_map.mpr ⟨(i, g), hmem, rfl⟩)
  obtain ⟨k, hk⟩ := Table.mem_values.mp hvalue
  exact ⟨k, Pool.checkout?_eq_some_iff.mpr ⟨hp.remembered hk, g, hk, rfl, rfl⟩, hk⟩

/-- **A client that puts a connection back** is not turned away, and leaves everything
settled. -/
theorem Settled.put (hd : d.Faultless serves fit) (h : Settled serves fit config peak x)
    (hp : x.pool.Consistent) (hconfig : x.pool.config = config)
    (hevicts : config.evictsIdle = true) {i : ι} {g : Handle C} (hmem : (i, g) ∈ x.hands) :
    (x.put d.logged i g).1 = .ok () ∧
      Settled serves fit config (max peak (x.put d.logged i g).2.hands.length)
        (x.put d.logged i g).2 := by
  obtain ⟨k, hcheckout, hk⟩ := h.checkout? hp hmem
  have hfloor : x.pool.config.floor ≤ x.pool.size := by
    rw [h.size_eq, hconfig]
    exact Nat.le_max_left _ _
  obtain ⟨q, s', hreleased, hhealthy, hheld, hsize⟩ :=
    h.healthy.put hd (hconfig ▸ hevicts) hfloor hcheckout
  have hhands := List.perm_cons_erase hmem
  have hless : (x.hands.erase (i, g)).length ≤ peak :=
    Nat.le_trans (List.erase_sublist ..).length_le h.hands_le
  rw [Crowd.put, hreleased]
  refine ⟨rfl, hhealthy, ?_, Nat.le_max_right _ _, ?_⟩
  · -- the same connection is taken from both sides
    have hboth : (g :: (x.hands.erase (i, g)).map Prod.snd).Perm
        (g :: (x.pool.held.erase k).values) :=
      (hhands.map Prod.snd).symm.trans (h.hands_perm.trans (Table.values_perm_erase hk))
    exact hheld ▸ hboth.cons_inv
  · change q.size = max config.floor (max peak (x.hands.erase (i, g)).length)
    rw [hsize, h.size_eq, Nat.max_eq_left hless]

end Settled

section GoodDay

variable {x : Crowd ι (W × List (Call C ε)) C}

/-- **On a good day everything is settled**, whoever takes turns and in whatever order. -/
theorem Arises.settled (hd : d.Faultless serves fit) (hevicts : config.evictsIdle = true)
    (hserves : serves w₀)
    (h : Arises d.logged (silently (Lasts serves fit)) config (w₀, []) peak x) :
    Settled serves fit config peak x := by
  obtain ⟨p₀, s₀, hbuild, hturns⟩ := h
  obtain ⟨hhealthy, hsize, hempty⟩ := Pool.healthy_build hd hserves hbuild
  induction hturns with
  | start =>
    refine ⟨hhealthy, ?_, Nat.le_refl _, ?_⟩
    · change List.Perm [] p₀.held.values
      rw [hempty]
      exact .refl _
    · rw [hsize, Nat.max_zero]
  | drift _ henv ih =>
    exact ⟨ih.healthy.drift henv.1 henv.2, ih.hands_perm, ih.hands_le, ih.size_eq⟩
  | get h i ih =>
    obtain ⟨hist, hreached, hpolite⟩ := Arises.reached ⟨p₀, s₀, hbuild, h⟩
    exact ih.get hd (hreached.keysIssued hpolite) i
  | put h hmem ih =>
    obtain ⟨hist, hreached, _⟩ := Arises.reached ⟨p₀, s₀, hbuild, h⟩
    exact (ih.put hd hreached.consistent hreached.within.config_eq hevicts hmem).2

omit [DecidableEq ι] [DecidableEq C] in
/-- A client is turned away exactly if as many connections are out as the capacity allows. -/
theorem Settled.get_eq_error_iff (hd : d.Faultless serves fit)
    (h : Settled serves fit config peak x) (hkeys : x.pool.KeysIssued)
    (hwithin : x.pool.Within config) (i : ι) (e : Refusal ε) :
    (x.get d.logged i).1 = .error e ↔
      e = .exhausted config.maxConnections ∧ x.hands.length = config.capacity := by
  have hsize : x.pool.idle.length + x.pool.held.size ≤ config.capacity := hwithin.size_le
  rw [Crowd.get, h.length_hands]
  rcases h.healthy.acquire hd hkeys.nextKey_free with
    ⟨g, q, s', hserved, _, _, _, hroom⟩ | ⟨hturned, _, hfull⟩
  · rw [hserved]
    refine iff_of_false nofun fun ⟨_, hout⟩ => ?_
    -- there was something idle, or room for one more
    rw [hwithin.config_eq] at hroom
    cases hidle : x.pool.idle with
    | nil => exact absurd hout (Nat.ne_of_lt (hroom hidle))
    | cons g rest =>
      rw [hidle, List.length_cons] at hsize
      omega
  · rw [hwithin.config_eq] at hturned hfull
    rw [hturned]
    constructor
    · rintro ⟨rfl⟩
      exact ⟨rfl, by omega⟩
    · rintro ⟨rfl, _⟩
      rfl

omit [DecidableEq ι] in
/-- No two of the connections in the clients' hands are the same. -/
theorem Settled.apart (h : Settled serves fit config peak x) (hp : x.pool.Consistent) :
    x.hands.Pairwise fun a b => a.2.id ≠ b.2.id ∧ a.2.isSame b.2 = false := by
  have hids : (x.pool.held.values.map Handle.id).Nodup := by
    rw [Table.values, List.map_map]
    refine List.Nodup.map_on (fun a ha b hb hab => ?_) (.of_map Prod.fst x.pool.held.nodup)
    have hkey : a.1 = b.1 := hp.held_inj (Table.get?_eq_some_iff.mpr ha)
      (Table.get?_eq_some_iff.mpr hb) hab
    refine Prod.ext hkey (Table.eq_of_nodup_of_mem x.pool.held.nodup (a := a.1) ha ?_)
    rw [hkey]
    exact hb
  have hhands : (x.hands.map (Handle.id ∘ Prod.snd)).Nodup := by
    rw [← List.map_map]
    exact (h.hands_perm.map Handle.id).nodup_iff.mpr hids
  refine (List.pairwise_map.mp hhands).imp fun {a b} hne => ⟨hne, ?_⟩
  exact Bool.eq_false_iff.mpr fun hsame => hne (Handle.isSame_iff.mp hsame).1

/-- **Clients share a pool fairly** on a good day. A client is turned away exactly if as many
connections are out as the capacity allows, and never when it puts one back; no two have the
same connection; and the pool owns what it has opened, which is as many as its floor, or as
have been out at once so far if that is more. None of them is closed. So if there are no more
clients than the capacity, and each of them has one connection at a time, nobody is ever
turned away. -/
theorem fair_sharing (hd : d.Faultless serves fit) (hevicts : config.evictsIdle = true)
    (hserves : serves w₀)
    (h : Arises d.logged (silently (Lasts serves fit)) config (w₀, []) peak x) :
    (∀ i e, (x.get d.logged i).1 = .error e ↔
        e = .exhausted config.maxConnections ∧ x.hands.length = config.capacity) ∧
      (∀ i g, (i, g) ∈ x.hands → (x.put d.logged i g).1 = .ok ()) ∧
      (x.hands.Pairwise fun a b => a.2.id ≠ b.2.id ∧ a.2.isSame b.2 = false) ∧
      x.pool.closed = false ∧
      x.pool.held.size = x.hands.length ∧
      (opened x.world.2).length = x.pool.idle.length + x.pool.held.size ∧
      (opened x.world.2).length = max config.floor peak ∧
      (∀ c result, .close c result ∉ x.world.2) ∧
      ∀ clients : List ι, clients.length ≤ config.capacity →
        (∀ a ∈ x.hands, a.1 ∈ clients) → (x.hands.map Prod.fst).Nodup →
        ∀ i ∈ clients, i ∉ x.hands.map Prod.fst → ∃ g, (x.get d.logged i).1 = .ok g := by
  have hsettled := h.settled hd hevicts hserves
  obtain ⟨hist, hreached, hpolite⟩ := h.reached
  have hp := hreached.consistent
  have hturned := hsettled.get_eq_error_iff hd (hreached.keysIssued hpolite) hreached.within
  have hopened : (opened x.world.2).length = x.pool.size := hsettled.healthy.opened_eq
  refine ⟨hturned, fun i g hmem => ?_, hsettled.apart hp, hsettled.healthy.isOpen,
    hsettled.length_hands.symm, hopened, hopened.trans hsettled.size_eq,
    hsettled.healthy.none_closed, fun clients hcount hall hone i hi hnone => ?_⟩
  · exact (hsettled.put hd hp hreached.within.config_eq hevicts hmem).1
  · cases hget : (x.get d.logged i).1 with
    | ok g => exact ⟨g, rfl⟩
    | error e =>
      obtain ⟨_, hout⟩ := (hturned i e).mp hget
      -- the one who asks and those who have a connection are all different clients
      have hfew : (i :: x.hands.map Prod.fst).length ≤ clients.length := by
        refine (List.subperm_of_subset (List.nodup_cons.mpr ⟨hnone, hone⟩) ?_).length_le
        refine List.cons_subset.mpr ⟨hi, fun j hj => ?_⟩
        obtain ⟨a, ha, rfl⟩ := List.mem_map.mp hj
        exact hall a ha
      rw [List.length_cons, List.length_map] at hfew
      omega

/-- Three clients share a pool of two connections. The first begins a transaction on the only
connection there is and puts it back, and the second one gets that connection. Then the
first has to have another one opened, and the third is turned away. -/
theorem fair_sharing_after_transaction :
    ∃ peak, ∃ x : Crowd Nat (World × List (Call SimId Fault)) SimId,
      Arises (World.driver 0 .manual).logged (silently (Lasts (World.Serves 0) World.Fit))
        { minConnections := 1, maxConnections := 2 } ({}, []) peak x ∧
      x.hands.map (Prod.map id Handle.id) = [(1, 1), (2, 0)] ∧ opened x.world.2 = [0, 1] ∧
      (opened x.world.2).length = max 1 peak ∧
      (x.get (World.driver 0 .manual).logged 3).1 = .error (.exhausted 2) := by
  have hserves : World.Serves 0 {} := ⟨rfl, rfl, rfl, by decide, rfl⟩
  -- the world after the first connection has been opened
  have hbegin : silently (Lasts (World.Serves 0) World.Fit)
      ({ backends := [{ attempts := 1, opened := 1 }], conns := [.born 0 1 {}] },
        ([.connect (.ok 0)] : List (Call SimId Fault)))
      (World.updateConn 0 (fun k => { k with status := .inTransaction }) _, _) :=
    ⟨World.lasts_updateConn 0 (fun _ => rfl) fun k hk =>
      ⟨hk.closed, TxStatus.noConfusion, hk.onRollback⟩, rfl⟩
  have h : Arises (World.driver 0 .manual).logged
      (silently (Lasts (World.Serves 0) World.Fit))
      { minConnections := 1, maxConnections := 2 } ({}, []) _ _ :=
    ⟨_, _, rfl, ((((Turns.start.get 1).drift hbegin).put List.mem_cons_self).get 2).get 1⟩
  have hfair := fair_sharing (World.driver_faultless 0 .manual) (by decide) hserves h
  exact ⟨_, _, h, by decide +kernel, by decide +kernel, hfair.2.2.2.2.2.2.1,
    (hfair.1 3 _).mpr ⟨rfl, by decide +kernel⟩⟩

end GoodDay

end Crowd

end ConnPool
