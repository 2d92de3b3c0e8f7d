import ConnPool.Proofs.Fleet
import ConnPool.Proofs.Pool.Ownership
import ConnPool.Proofs.Simulation.Touches

/-!
# Pools that share a world

The pools of a fleet share a world, and may share a backend. Each of them counts its
connections from zero, so a number tells nothing about whose connection it is, and anybody
may hold a handle of anybody. What keeps the pools apart is the connections themselves:
every connection has been opened once, by one pool or by none.

To say by which, `ConnPool.Fleet.Recorded` goes through the history of a fleet and records
the calls that each of its pools has made. Two things carry the argument:

* a pool owns only what it has opened, and what one pool has opened no other pool has
  (`ConnPool.Fleet.Parted`, kept by every change of the fleet);
* a pool touches only what it owns (`ConnPool.Pool.Permits.owns`).
-/

namespace ConnPool

open Driver (Call opened)
open Pool (Since)
open World (Known)

namespace Fleet

/-! ### Records -/

/-- The calls a pool makes to answer a request. -/
def calls (i : PoolId) (r : Request (Handle SimId)) (f : Fleet) : List (Call SimId Fault) :=
  (f.member? i).elim [] fun m => m.pool.calls m.driver r f.world

/-- The calls that building a pool comes to. -/
def buildCalls (config : Config) (b : Nat) (clock : ClockKind) (f : Fleet) :
    List (Call SimId Fault) :=
  (Pool.build (World.driver b clock).logged config (f.world, [])).2.2

/-- **The history of a fleet**, with a record of the calls of its pools, each with the pool
that has made it. Between their requests anything may happen in the world. -/
inductive Recorded : List (PoolId × Call SimId Fault) → Fleet → Prop
  /-- There are no pools. -/
  | start : Recorded [] {}
  /-- A pool answers a request. -/
  | serve {log : List (PoolId × Call SimId Fault)} {f : Fleet} (h : Recorded log f) (i : PoolId)
      (r : Request (Handle SimId)) :
      Recorded (log ++ (f.calls i r).map (Prod.mk i)) (f.serve i r).2
  /-- A pool is built. -/
  | build {log : List (PoolId × Call SimId Fault)} {f : Fleet} (h : Recorded log f)
      (sharing : Sharing) (config : Config) (b : Nat) (clock : ClockKind) :
      Recorded (log ++ (f.buildCalls config b clock).map (Prod.mk f.members.length))
        (f.build sharing config b clock).2
  /-- A pool is shared in another way. -/
  | share {log : List (PoolId × Call SimId Fault)} {f : Fleet} (h : Recorded log f) (i : PoolId)
      (sharing : Sharing) : Recorded log (f.share i sharing)
  /-- Something happens in the world. -/
  | drift {log : List (PoolId × Call SimId Fault)} {f : Fleet} (h : Recorded log f) {w : World}
      (hevent : World.Event (fun _ _ => True) f.world w) : Recorded log { f with world := w }

variable {log : List (PoolId × Call SimId Fault)} {f f' : Fleet} {i j : PoolId} {m : Member}
  {c : SimId}

/-- **Whatever changes a fleet**, there is a record of it. -/
theorem Recorded.changes (h : Recorded log f)
    (hchanges : Changes (World.Event fun _ _ => True) f f') :
    ∃ log', Recorded (log ++ log') f' := by
  induction hchanges with
  | refl => exact ⟨[], (List.append_nil log).symm ▸ h⟩
  | tail _ hstep ih =>
    obtain ⟨log', hlog'⟩ := ih
    cases hstep with
    | serve i r => exact ⟨_, List.append_assoc .. ▸ hlog'.serve i r⟩
    | build sharing config b clock =>
      exact ⟨_, List.append_assoc .. ▸ hlog'.build sharing config b clock⟩
    | share i sharing => exact ⟨log', hlog'.share i sharing⟩
    | drift _ hevent => exact ⟨log', hlog'.drift hevent⟩

/-- By this record a pool has opened a connection. -/
def OpenedBy (log : List (PoolId × Call SimId Fault)) (i : PoolId) (c : SimId) : Prop :=
  (i, .connect (.ok c)) ∈ log

theorem openedBy_append {calls : List (Call SimId Fault)} :
    OpenedBy (log ++ calls.map (Prod.mk i)) j c ↔
      OpenedBy log j c ∨ (j = i ∧ c ∈ opened calls) := by
  have hopened : c ∈ opened calls ↔ .connect (.ok c) ∈ calls := by
    refine List.mem_filterMap.trans ⟨?_, fun hmem => ⟨_, hmem, rfl⟩⟩
    rintro ⟨call, hmem, hcall⟩
    cases call with
    | connect result =>
      cases result with
      | ok c' =>
        cases hcall
        exact hmem
      | error _ => cases hcall
    | close _ _ => cases hcall
    | rollback _ _ => cases hcall
  rw [OpenedBy, List.mem_append, List.mem_map, hopened]
  refine or_congr_right ⟨?_, ?_⟩
  · rintro ⟨call, hmem, hcall⟩
    cases hcall
    exact ⟨rfl, hmem⟩
  · rintro ⟨rfl, hmem⟩
    exact ⟨_, hmem, rfl⟩

/-! ### What keeps the pools apart -/

/-- **The pools of a fleet are parted.** -/
structure Parted (log : List (PoolId × Call SimId Fault)) (f : Fleet) : Prop where
  /-- The bookkeeping of every pool is consistent. -/
  consistent : ∀ {i m}, f.member? i = some m → m.pool.Consistent
  /-- Every pool tells its connections apart. -/
  apart : ∀ {i m}, f.member? i = some m → m.pool.Apart
  /-- What a pool owns it has opened. -/
  opened_of_owns : ∀ {i m c}, f.member? i = some m → m.pool.Owns c → OpenedBy log i c
  /-- What has been opened is known. -/
  known_of_opened : ∀ {i c}, OpenedBy log i c → Known c f.world
  /-- No connection has been opened by two pools. -/
  opened_once : ∀ {i j c}, OpenedBy log i c → OpenedBy log j c → i = j

theorem parted_empty : Parted [] {} where
  consistent h := by cases h
  apart h := by cases h
  opened_of_owns h _ := by cases h
  known_of_opened h := absurd h List.not_mem_nil
  opened_once h _ := absurd h List.not_mem_nil

theorem Parted.known_of_owns (h : Parted log f) (hm : f.member? i = some m)
    (hc : m.pool.Owns c) : Known c f.world :=
  h.known_of_opened (h.opened_of_owns hm hc)

/-- The pools stay parted if their bookkeeping does not change and every connection is still
there. -/
theorem Parted.same (h : Parted log f)
    (hmembers : ∀ {i m'}, f'.member? i = some m' → ∃ m, f.member? i = some m ∧ m'.pool = m.pool)
    (hknown : ∀ c, Known c f.world → Known c f'.world) : Parted log f' where
  consistent hm' := by
    obtain ⟨m, hm, hpool⟩ := hmembers hm'
    exact hpool ▸ h.consistent hm
  apart hm' := by
    obtain ⟨m, hm, hpool⟩ := hmembers hm'
    exact hpool ▸ h.apart hm
  opened_of_owns hm' hc := by
    obtain ⟨m, hm, hpool⟩ := hmembers hm'
    exact h.opened_of_owns hm (hpool ▸ hc)
  known_of_opened hc := hknown _ (h.known_of_opened hc)
  opened_once := h.opened_once

/-- **The pools stay parted if one of them opens what is new**, and the others do nothing. -/
theorem Parted.extend (h : Parted log f) {p₀ p : Pool SimId} {calls : List (Call SimId Fault)}
    (hbase : ∀ c, p₀.Owns c → OpenedBy log i c)
    (hsince : Since Known p₀ f.world (p, f'.world, calls)) (hp : p.Consistent)
    (hmembers : ∀ {j m'}, f'.member? j = some m' →
      (j = i ∧ m'.pool = p) ∨ f.member? j = some m') :
    Parted (log ++ calls.map (Prod.mk i)) f' where
  consistent hm' := by
    rcases hmembers hm' with ⟨_, rfl⟩ | hm
    · exact hp
    · exact h.consistent hm
  apart hm' := by
    rcases hmembers hm' with ⟨_, rfl⟩ | hm
    · exact hsince.apart
    · exact h.apart hm
  opened_of_owns hm' hc := by
    rw [openedBy_append]
    rcases hmembers hm' with ⟨rfl, rfl⟩ | hm
    · exact (hsince.owned_or_opened _ hc).imp (hbase _) fun hc => ⟨rfl, hc⟩
    · exact Or.inl (h.opened_of_owns hm hc)
  known_of_opened hc := by
    rcases openedBy_append.mp hc with hc | ⟨_, hc⟩
    · exact hsince.known_of_known _ (h.known_of_opened hc)
    · exact (hsince.fresh _ hc).2
  opened_once hc hc' := by
    rcases openedBy_append.mp hc with hold | ⟨rfl, hnew⟩ <;>
      rcases openedBy_append.mp hc' with hold' | ⟨rfl, hnew'⟩
    · exact h.opened_once hold hold'
    · exact absurd (h.known_of_opened hold) (hsince.fresh _ hnew').1
    · exact absurd (h.known_of_opened hold') (hsince.fresh _ hnew).1
    · rfl

/-! ### Every change keeps them parted -/

theorem Parted.serve (h : Parted log f) (i : PoolId) (r : Request (Handle SimId)) :
    Parted (log ++ (f.calls i r).map (Prod.mk i)) (f.serve i r).2 := by
  rw [calls]
  cases hm : f.member? i with
  | none =>
    rw [serve_of_absent hm]
    exact (List.append_nil log).symm ▸ h
  | some m =>
    have hsince := Pool.serve_since (World.driver_opensNew m.backend m.clock)
      (fun c hc => h.known_of_owns hm hc) (h.apart hm) r
    rw [Pool.serve_logged] at hsince
    have hconsistent : (m.pool.serve m.driver r f.world).2.1.Consistent :=
      Pool.serve_invariant (I := fun s => s.1.Consistent) (fun _ _ hstep => hstep.consistent)
        (h.consistent hm)
    rw [serve_of_member hm]
    refine h.extend (fun c => h.opened_of_owns hm) hsince hconsistent fun {j m'} hm' => ?_
    rw [member?, List.getElem?_set] at hm'
    by_cases hij : i = j
    · rw [if_pos hij] at hm'
      split at hm'
      · cases hm'
        exact Or.inl ⟨hij.symm, rfl⟩
      · cases hm'
    · rw [if_neg hij] at hm'
      exact Or.inr hm'

theorem Parted.build (h : Parted log f) (sharing : Sharing) (config : Config) (b : Nat)
    (clock : ClockKind) :
    Parted (log ++ (f.buildCalls config b clock).map (Prod.mk f.members.length))
      (f.build sharing config b clock).2 := by
  have hsame := Pool.build_project (World.driver b clock).projects_logged config (f.world, [])
  rcases hbuild : Pool.build (World.driver b clock).logged config (f.world, []) with ⟨e | p, w, l⟩
  · -- nothing has been called
    obtain ⟨_, hworld⟩ := Pool.build_error hbuild
    cases hworld
    rw [hbuild] at hsame
    have hfleet : (f.build sharing config b clock).2 = f := by
      rw [Fleet.build, hsame]
      rfl
    rw [hfleet, buildCalls, hbuild]
    exact (List.append_nil log).symm ▸ h
  · have hsince := Pool.build_since (World.driver_opensNew b clock) hbuild
    rw [hbuild] at hsame
    have hfleet : (f.build sharing config b clock).2 =
        { world := w, members := f.members ++ [⟨p, sharing, b, clock⟩] } := by
      rw [Fleet.build, hsame]
      rfl
    rw [hfleet, buildCalls, hbuild]
    refine h.extend ?_ hsince (Pool.consistent_of_build hbuild) fun {j m'} hm' => ?_
    · rintro c (⟨_, hg, _⟩ | ⟨_, _, hk, _⟩)
      · cases hg
      · cases hk
    · by_cases hlt : j < f.members.length
      · exact Or.inr ((List.getElem?_append_left hlt).symm.trans hm')
      · -- the new pool has the last place
        have hle := Nat.le_of_not_lt hlt
        rw [member?, List.getElem?_append_right hle, List.getElem?_singleton] at hm'
        by_cases hj : j - f.members.length = 0
        · cases (if_pos hj).symm.trans hm'
          exact Or.inl ⟨Nat.le_antisymm (Nat.le_of_sub_eq_zero hj) hle, rfl⟩
        · cases (if_neg hj).symm.trans hm'

theorem Parted.share (h : Parted log f) (i : PoolId) (sharing : Sharing) :
    Parted log (f.share i sharing) := by
  refine h.same (fun {j m'} hm' => ?_) fun _ => id
  rw [member?, Fleet.share, List.getElem?_modify, ← member?] at hm'
  obtain ⟨m, hm, rfl⟩ := Option.map_eq_some_iff.mp hm'
  exact ⟨m, hm, by split <;> rfl⟩

/-- **The pools of a fleet are parted**, whatever has become of it. -/
theorem Recorded.parted (h : Recorded log f) : Parted log f := by
  induction h with
  | start => exact parted_empty
  | serve _ i r ih => exact ih.serve i r
  | build _ sharing config b clock ih => exact ih.build sharing config b clock
  | share _ i sharing ih => exact ih.share i sharing
  | drift _ hevent ih =>
    refine ih.same (fun hm => ⟨_, hm, rfl⟩) ?_
    rintro c ⟨k, hk⟩
    obtain ⟨k', hk', _⟩ := hevent.becomes hk
    exact ⟨k', hk'⟩

/-! ### What a request touches -/

theorem calls_of_member (hm : f.member? i = some m) (r : Request (Handle SimId)) :
    f.calls i r = m.pool.calls m.driver r f.world := by
  rw [calls, hm, Option.elim_some]

section Touches

variable {r : Request (Handle SimId)} {call : Call SimId Fault}

theorem permits_of_mem_calls (hm : f.member? i = some m) (hcall : call ∈ f.calls i r) :
    m.pool.Permits (m.pool.serve m.driver r f.world).2.1 r call :=
  Pool.calls_permitted m.driver r m.pool f.world call (calls_of_member hm r ▸ hcall)

/-- **A pool touches only connections that it has opened.** -/
theorem Parted.opened_of_touches (h : Parted log f) (hm : f.member? i = some m)
    (hcall : call ∈ f.calls i r) (hc : call.Touches c) : OpenedBy log i c :=
  h.opened_of_owns hm ((permits_of_mem_calls hm hcall).owns hc)

/-- **A connection that is checked out is touched only when its checkout ends**, or when the
pool is closed. -/
theorem Parted.ends_of_touches (h : Parted log f) (hm : f.member? i = some m) {k : Key}
    {g : Handle SimId} (hk : m.pool.held.get? k = some g) (hcall : call ∈ f.calls i r)
    (hc : call.Touches g.conn) :
    r = .closeAll ∨ ∃ h key force, r = .release h key force ∧
      m.pool.checkout? h key = some k := by
  -- the same connection would have another number as an idle one
  have hapart : ∀ h ∈ m.pool.idle, h.conn ≠ g.conn := by
    intro h' hidle hconn
    have hid := h.apart hm h' g (Or.inl hidle) (Or.inr ⟨k, hk⟩) hconn
    exact (h.consistent hm).apart hk (hid ▸ List.mem_map.mpr ⟨h', hidle, rfl⟩)
  cases permits_of_mem_calls hm hcall with
  | lend _ => cases hc
  | reuse hidle hcall => exact absurd (hcall.unique hc) (hapart _ hidle)
  | @giveBack h' key force l _ hl hcall =>
    obtain ⟨_, g', hheld, hid, hconn⟩ := Pool.checkout?_eq_some_iff.mp hl
    have hsame := h.apart hm g' g (Or.inr ⟨l, hheld⟩) (Or.inr ⟨k, hk⟩)
      (hconn.trans (hcall.unique hc))
    have hlk : l = k := (h.consistent hm).held_inj hheld hk hsame
    exact Or.inr ⟨h', key, force, rfl, hlk ▸ hl⟩
  | refill _ _ => cases hc
  | evict hidle _ _ => exact absurd ((Call.Touches.close _ _).unique hc) (hapart _ hidle)
  | shut _ _ => exact Or.inl rfl

/-- **The other pools and their connections are as they were.** -/
theorem Parted.serve_other (h : Parted log f) (hij : j ≠ i) {n : Member}
    (hn : f.member? j = some n) (r : Request (Handle SimId)) :
    (f.serve i r).2.member? j = some n ∧ ∀ c, n.pool.Owns c →
      (∀ call ∈ f.calls i r, ¬call.Touches c) ∧
        (f.serve i r).2.world.conn? c = f.world.conn? c := by
  have huntouched : ∀ c, n.pool.Owns c → ∀ call ∈ f.calls i r, ¬call.Touches c := by
    intro c hc call hcall htouches
    cases hm : f.member? i with
    | none =>
      rw [calls, hm] at hcall
      cases hcall
    | some m =>
      exact hij (h.opened_once (h.opened_of_owns hn hc) (h.opened_of_touches hm hcall htouches))
  cases hm : f.member? i with
  | none =>
    rw [serve_of_absent hm]
    exact ⟨hn, fun c hc => ⟨huntouched c hc, rfl⟩⟩
  | some m =>
    rw [serve_of_member hm]
    refine ⟨(List.getElem?_set_ne hij.symm).trans hn, fun c hc => ⟨huntouched c hc, ?_⟩⟩
    refine World.conn?_serve m.backend m.clock r m.pool (h.known_of_owns hn hc) ?_
    exact calls_of_member hm r ▸ huntouched c hc

/-- **A pool does not take back what it has not opened**, whatever number the connection has
and whatever key is named. Nothing happens at all. -/
theorem Parted.release_foreign (h : Parted log f) (hm : f.member? i = some m)
    {g : Handle SimId} (hforeign : ¬OpenedBy log i g.conn) (key : Option Key) (force : Bool) :
    f.serve i (.release g key force) =
      (some (.released (if m.pool.closed then .ok () else .error .unknownHandle)), f) := by
  have hnone : m.pool.checkout? g key = none := by
    refine Option.eq_none_iff_forall_ne_some.mpr fun k hk => hforeign ?_
    obtain ⟨_, g', hheld, _, hconn⟩ := Pool.checkout?_eq_some_iff.mp hk
    exact hconn ▸ h.opened_of_owns hm (Pool.owns_of_held hheld)
  obtain ⟨hlt, hget⟩ := List.getElem?_eq_some_iff.mp hm
  rw [Fleet.serve, act, hm]
  simp only [Pool.serve, Pool.release, hnone]
  refine Prod.ext rfl ?_
  change ({ world := f.world, members := f.members.set i m } : Fleet) = f
  rw [← hget, List.set_getElem_self]

end Touches

end Fleet

end ConnPool
