import ConnPool.Proofs.Pool.Capacity
import ConnPool.Proofs.Pool.Keys
import ConnPool.Proofs.Pool.Projection
import ConnPool.Proofs.Simulation.World
import Mathlib.Data.List.Dedup
import Mathlib.Data.List.Perm.Subperm

/-!
# No connection leaks

A connection that a pool has opened and not closed has to be somewhere: idle, or checked
out. There are a good many ways out of the two collections – three recycle checks on the
way, a forced close, a surplus, a late release, an eviction – and each of them has to
close what it lets go of.

For this to be true a close has to close (`ConnPool.Driver.ClosesForGood`), and nobody may
be handed a connection under a key that is in use: the connection held there would be
forgotten without having been closed. So the borrowers are taken to be polite, and the
key of a new checkout is then free (`ConnPool.Pool.KeysIssued.chooseKey_free`).

The pool itself keeps no record of what it has opened, so it is watched through a driver
with a log (`ConnPool.Driver.logged`), which makes no difference to it
(`ConnPool.Pool.reached_logged_iff`). `ConnPool.Pool.Tight` is what every step keeps.
-/

namespace ConnPool

namespace Pool

open Driver (Call opened)

variable {W C ε : Type} {d : Driver W C ε}

/-! ### The connections a pool owns -/

/-- A connection is idle or checked out. -/
def Owns (p : Pool C) (c : C) : Prop :=
  (∃ h ∈ p.idle, h.conn = c) ∨ ∃ k h, p.held.get? k = some h ∧ h.conn = c

theorem owns_of_idle {p : Pool C} {h : Handle C} (hh : h ∈ p.idle) : p.Owns h.conn :=
  Or.inl ⟨h, hh, rfl⟩

theorem owns_of_held {p : Pool C} {k : Key} {h : Handle C} (hk : p.held.get? k = some h) :
    p.Owns h.conn := Or.inr ⟨k, h, hk, rfl⟩

theorem owns_unstack {p : Pool C} {h : Handle C} (above below : List (Handle C))
    (hidle : p.idle = above ++ h :: below) (c : C) :
    p.Owns c ↔ (p.unstack h (above ++ below)).Owns c ∨ c = h.conn := by
  have hmem : ∀ g, g ∈ p.idle ↔ g = h ∨ g ∈ above ++ below := fun g => by
    rw [hidle, List.perm_middle.mem_iff, List.mem_cons]
  constructor
  · rintro (⟨g, hg, rfl⟩ | hheld)
    · rcases (hmem g).mp hg with rfl | hg
      · exact Or.inr rfl
      · exact Or.inl (Or.inl ⟨g, hg, rfl⟩)
    · exact Or.inl (Or.inr hheld)
  · rintro ((⟨g, hg, rfl⟩ | hheld) | rfl)
    · exact owns_of_idle ((hmem g).mpr (Or.inr hg))
    · exact Or.inr hheld
    · exact owns_of_idle ((hmem h).mpr (Or.inl rfl))

theorem owns_stack (p : Pool C) (h : Handle C) (now : Instant) (c : C) :
    (p.stack h now).Owns c ↔ p.Owns c ∨ c = h.conn := by
  constructor
  · rintro (⟨g, hg, rfl⟩ | hheld)
    · rcases List.mem_cons.mp hg with rfl | hg
      · exact Or.inr rfl
      · exact Or.inl (owns_of_idle hg)
    · exact Or.inl (Or.inr hheld)
  · rintro ((⟨g, hg, rfl⟩ | hheld) | rfl)
    · exact owns_of_idle (p := p.stack h now) (List.mem_cons_of_mem _ hg)
    · exact Or.inr hheld
    · exact owns_of_idle (p := p.stack h now) List.mem_cons_self

/-- Handing a connection out under a free key forgets no other. -/
theorem owns_checkOut {p : Pool C} {key : Option Key} (h : Handle C)
    (hfree : p.held.get? (p.chooseKey key).1 = none) (c : C) :
    (p.checkOut key h).Owns c ↔ p.Owns c ∨ c = h.conn := by
  constructor
  · rintro (hidle | ⟨k, g, hk, rfl⟩)
    · exact Or.inl (Or.inl hidle)
    · rcases Table.get?_insert_eq_some_iff.mp hk with ⟨_, rfl⟩ | ⟨_, hk⟩
      · exact Or.inr rfl
      · exact Or.inl (owns_of_held hk)
  · rintro ((hidle | ⟨k, g, hk, rfl⟩) | rfl)
    · exact Or.inl hidle
    · have hne : k ≠ (p.chooseKey key).1 := fun hkey =>
        absurd (hk.symm.trans (hkey ▸ hfree)) (Option.some_ne_none g)
      exact owns_of_held (p := p.checkOut key h)
        (Table.get?_insert_eq_some_iff.mpr (Or.inr ⟨hne, hk⟩))
    · exact owns_of_held (p := p.checkOut key h) (Table.get?_insert_eq_some_iff.mpr
        (Or.inl ⟨rfl, rfl⟩))

theorem owns_checkIn [DecidableEq C] {p : Pool C} {h : Handle C} {key : Option Key} {k : Key}
    (hk : p.checkout? h key = some k) (c : C) :
    p.Owns c ↔ (p.checkIn k h).Owns c ∨ c = h.conn := by
  obtain ⟨_, g, hheld, _, hconn⟩ := checkout?_eq_some_iff.mp hk
  constructor
  · rintro (hidle | ⟨l, g', hl, rfl⟩)
    · exact Or.inl (Or.inl hidle)
    · by_cases hlk : l = k
      · cases hheld.symm.trans (hlk ▸ hl)
        exact Or.inr hconn
      · exact Or.inl (owns_of_held (p := p.checkIn k h)
          (Table.get?_erase_eq_some_iff.mpr ⟨hlk, hl⟩))
  · rintro ((hidle | ⟨l, g', hl, rfl⟩) | rfl)
    · exact Or.inl hidle
    · exact owns_of_held (Table.get?_erase_eq_some_iff.mp hl).2
    · exact hconn ▸ owns_of_held hheld

/-! ### Nothing is lost on the way -/

/-- **A pool is tight**: what it owns has been opened by it, and what it has opened it owns,
or it is closed. -/
structure Tight (d : Driver W C ε) (known : C → W → Prop)
    (s : Pool C × W × List (Call C ε)) : Prop where
  /-- What has been opened is known. -/
  known_of_opened : ∀ {c : C}, c ∈ opened s.2.2 → known c s.2.1
  /-- What the pool owns has been opened. -/
  opened_of_owns : ∀ {c : C}, s.1.Owns c → c ∈ opened s.2.2
  /-- What has been opened the pool owns, or it is closed. -/
  owns_or_closed : ∀ {c : C}, c ∈ opened s.2.2 → s.1.Owns c ∨ d.Closed c s.2.1

variable {later : W → W → Prop} {known : C → W → Prop} {p q : Pool C}
  {s s' : W × List (Call C ε)}

theorem Tight.known_of_owns (h : Tight d known (p, s)) {c : C} (hc : p.Owns c) : known c s.1 :=
  h.known_of_opened (h.opened_of_owns hc)

/-- A pool that opens nothing stays tight if what it gives up is closed. -/
theorem Tight.quiet (h : Tight d known (p, s)) (hd : d.ClosesForGood later known)
    (hs : later s.1 s'.1 ∧ opened s'.2 = opened s.2) (hsub : ∀ c, q.Owns c → p.Owns c)
    (hlost : ∀ c, p.Owns c → q.Owns c ∨ d.Closed c s'.1) : Tight d known (q, s') where
  known_of_opened hc := hd.known_of_later hs.1 (h.known_of_opened (hs.2 ▸ hc))
  opened_of_owns hc := hs.2 ▸ h.opened_of_owns (hsub _ hc)
  owns_or_closed hc := by
    have hc' := hs.2 ▸ hc
    rcases h.owns_or_closed hc' with howns | hclosed
    · exact hlost _ howns
    · exact Or.inr (hd.closed_of_later hs.1 (h.known_of_opened hc') hclosed)

/-- A pool that owns what it owned before stays tight. -/
theorem Tight.same (h : Tight d known (p, s)) (hd : d.ClosesForGood later known)
    (hs : later s.1 s'.1 ∧ opened s'.2 = opened s.2) (howns : ∀ c, p.Owns c ↔ q.Owns c) :
    Tight d known (q, s') :=
  h.quiet hd hs (fun c => (howns c).mpr) fun c hc => Or.inl ((howns c).mp hc)

/-- A pool that gives a connection up stays tight if that is closed. -/
theorem Tight.lose (h : Tight d known (p, s)) (hd : d.ClosesForGood later known)
    (hs : later s.1 s'.1 ∧ opened s'.2 = opened s.2) {c : C}
    (howns : ∀ c', p.Owns c' ↔ q.Owns c' ∨ c' = c) (hclosed : known c s.1 → d.Closed c s'.1) :
    Tight d known (q, s') := by
  refine h.quiet hd hs (fun c' hc' => (howns c').mpr (Or.inl hc')) fun c' hc' =>
    ((howns c').mp hc').imp_right ?_
  rintro rfl
  exact hclosed (h.known_of_owns hc')

/-- A pool that opens a connection stays tight if it owns that as well as the others. -/
theorem Tight.gain (h : Tight d known (p, s)) (hd : d.ClosesForGood later known) {c : C}
    (hs : later s.1 s'.1) (hopened : opened s'.2 = opened s.2 ++ [c]) (hknown : known c s'.1)
    (howns : ∀ c', q.Owns c' ↔ p.Owns c' ∨ c' = c) : Tight d known (q, s') where
  known_of_opened hc := by
    rcases List.mem_append.mp (hopened ▸ hc) with hc | hc
    · exact hd.known_of_later hs (h.known_of_opened hc)
    · exact List.mem_singleton.mp hc ▸ hknown
  opened_of_owns hc := by
    rw [hopened]
    rcases (howns _).mp hc with hc | rfl
    · exact List.mem_append_left _ (h.opened_of_owns hc)
    · exact List.mem_append_right _ List.mem_cons_self
  owns_or_closed hc := by
    rcases List.mem_append.mp (hopened ▸ hc) with hc | hc
    · exact (h.owns_or_closed hc).imp (fun hp => (howns _).mpr (Or.inl hp))
        (hd.closed_of_later hs (h.known_of_opened hc))
    · exact Or.inl ((howns _).mpr (Or.inr (List.mem_singleton.mp hc)))

theorem Opens.tight {t t' : Pool C × W × List (Call C ε)} (hstep : Opens d.logged t t')
    (hd : d.ClosesForGood later known) (h : Tight d known t) : Tight d known t' := by
  cases hstep with
  | failed _ _ hconnect =>
    exact h.same hd ⟨hd.logged.connect hconnect, Driver.opened_logged_connect_error hconnect⟩
      fun _ => Iff.rfl
  | added _ _ hconnect hnow hsince =>
    have hread := hd.toAlong.logged.trans (hd.toAlong.logged.now hnow)
      (hd.toAlong.logged.now hsince)
    have hknown := hd.known_of_later hread.1 (hd.logged.known_of_connect hconnect)
    exact h.gain hd (hd.trans (hd.logged.connect hconnect) hread.1)
      (hread.2.trans (Driver.opened_logged_connect hconnect)) hknown (owns_stack _ _ _)

theorem Drop.tight {t t' : Pool C × W × List (Call C ε)} (hstep : Drop d.logged t t')
    (hd : d.ClosesForGood later known) (h : Tight d known t) : Tight d known t' := by
  cases hstep with
  | mk htop hcheck hbad =>
    exact h.lose hd (hd.toAlong.logged.recycle hcheck) (owns_unstack [] _ htop)
      fun hknown => hd.logged.closed_of_recycle hknown hcheck hbad

theorem tight_fresh (config : Config) (w : W) : Tight d known (fresh config, w, []) where
  known_of_opened hc := absurd hc List.not_mem_nil
  opened_of_owns hc := by
    rcases hc with ⟨_, hg, _⟩ | ⟨_, _, hk, _⟩
    · cases hg
    · cases hk
  owns_or_closed hc := absurd hc List.not_mem_nil

variable [DecidableEq C]

/-- **Every step of a request keeps a pool tight**, if no issued key is in use before it has
been issued. -/
theorem Move.tight {r : Request (Handle C)} {t t' : Pool C × W × List (Call C ε)}
    (hstep : Move d.logged r t t') (hd : d.ClosesForGood later known)
    (hissued : t.1.KeysIssued) (h : Tight d known t) : Tight d known t' := by
  cases hstep with
  | discard _ hdrop => exact hdrop.tight hd h
  | @reuse key p _ _ g rest _ _ hfree htop hcheck _ =>
    -- the connection changes sides, and its key is free
    refine h.same hd (hd.toAlong.logged.recycle hcheck) fun c => ?_
    rw [owns_unstack [] rest htop c]
    exact (owns_checkOut (p := p.unstack g rest) g (hissued.chooseKey_free hfree) c).symm
  | fail _ _ _ hconnect =>
    exact h.same hd ⟨hd.logged.connect hconnect, Driver.opened_logged_connect_error hconnect⟩
      fun _ => Iff.rfl
  | @lend key p _ _ _ conn now _ hfree _ _ hconnect hnow =>
    have hread := hd.toAlong.logged.now hnow
    have hknown := hd.known_of_later hread.1 (hd.logged.known_of_connect hconnect)
    exact h.gain hd (hd.trans (hd.logged.connect hconnect) hread.1)
      (hread.2.trans (Driver.opened_logged_connect hconnect)) hknown
      (owns_checkOut (p := p.number) ⟨p.nextId, conn, now⟩ (hissued.chooseKey_free hfree))
  | @giveBack g key force p _ k _ hk hs =>
    have howns := owns_checkIn hk
    cases hs with
    | letGo _ =>
      exact h.lose hd (hd.toAlong.logged.shut rfl) howns
        fun hknown => hd.logged.closed_of_shut hknown rfl
    | rejected _ hcheck hbad =>
      exact h.lose hd (hd.toAlong.logged.recycle hcheck) howns
        fun hknown => hd.logged.closed_of_recycle hknown hcheck hbad
    | shelved _ hcheck _ hnow =>
      refine h.same hd (hd.toAlong.logged.trans (hd.toAlong.logged.recycle hcheck)
        (hd.toAlong.logged.now hnow)) fun c => ?_
      rw [howns c]
      exact (owns_stack (p.checkIn k g) g _ c).symm
  | refill hopens => exact hopens.tight hd h
  | look _ => exact h.same hd (hd.toAlong.logged.now rfl) fun _ => Iff.rfl
  | evict _ hidle =>
    exact h.lose hd (hd.toAlong.logged.shut rfl) (owns_unstack _ _ hidle)
      fun hknown => hd.logged.closed_of_shut hknown rfl
  | shut _ => exact h.same hd (hd.toAlong.logged.shut rfl) fun _ => Iff.rfl
  | close => exact h.same hd (hd.toAlong.logged.refl _) fun _ => Iff.rfl

/-! ### Runs -/

variable {config : Config} {w₀ w : W} {log : List (Call C ε)}
  {hist : List (Moment (W × List (Call C ε)) C)}

/-- **Among polite borrowers a pool stays tight**, whatever happens to the world without
opening a closed connection again. -/
theorem Reached.tight {t : Pool C × W × List (Call C ε)}
    (h : Reached d.logged (silently later) config (w₀, []) hist t)
    (hd : d.ClosesForGood later known) (hpolite : ∀ m ∈ hist, m.Polite) : Tight d known t := by
  refine (h.invariant (I := fun t => t.1.KeysIssued ∧ Tight d known t) ?_ ?_ ?_ ?_).2
  · exact fun _ => ⟨fun _ _ hn => (by cases hn), tight_fresh config w₀⟩
  · exact fun _ _ hstep ⟨hissued, ht⟩ => ⟨hstep.keysIssued hissued, hstep.tight hd ht⟩
  · exact fun _ _ _ ⟨hlater, hlog⟩ ⟨hissued, ht⟩ =>
      ⟨hissued, ht.same hd ⟨hlater, congrArg opened hlog⟩ fun _ => Iff.rfl⟩
  · rintro m hm ⟨hissued, ht⟩
    refine (serve_invariant (I := fun t => (t.1.KeysIssued ∧ m.request.Polite t.1) ∧
      Tight d known t) ?_ ⟨⟨hissued, hpolite m hm⟩, ht⟩).imp_left And.left
    exact fun _ _ hstep ⟨hkeys, ht⟩ => ⟨hstep.keysIssued hkeys, hstep.tight hd hkeys.1 ht⟩

omit [DecidableEq C] in
/-- The connections of the two collections are those the pool owns. -/
theorem mem_owned_iff {c : C} :
    c ∈ (p.idle ++ p.held.values).map Handle.conn ↔ p.Owns c := by
  simp only [List.map_append, List.mem_append, List.mem_map, Table.mem_values, Owns]
  constructor
  · rintro (hidle | ⟨g, ⟨k, hk⟩, rfl⟩)
    · exact Or.inl hidle
    · exact Or.inr ⟨k, g, hk, rfl⟩
  · rintro (hidle | ⟨k, g, hk, rfl⟩)
    · exact Or.inl hidle
    · exact Or.inr ⟨g, ⟨k, hk⟩, rfl⟩

/-- **No connection leaks.** If connections close for good and the borrowers are polite,
every connection a pool has ever opened is idle, or checked out, or closed. So no more of
them are open at once than the capacity allows. -/
theorem no_connection_leaks
    (h : Reached d.logged (silently later) config (w₀, []) hist (p, w, log))
    (hd : d.ClosesForGood later known) (hpolite : ∀ m ∈ hist, m.Polite) :
    (∀ c ∈ opened log, (∃ g ∈ p.idle, g.conn = c) ∨
        (∃ k g, p.held.get? k = some g ∧ g.conn = c) ∨ (d.isClosed c w).1 = true) ∧
      ((opened log).filter fun c => !(d.isClosed c w).1).dedup.length ≤ config.capacity := by
  have ht : Tight d known (p, w, log) := h.tight hd hpolite
  refine ⟨fun c hc => or_assoc.mp (ht.owns_or_closed hc), ?_⟩
  -- what is open is owned, and a pool owns no more than its capacity
  have hsub : ((opened log).filter fun c => !(d.isClosed c w).1).dedup ⊆
      (p.idle ++ p.held.values).map Handle.conn := by
    intro c hc
    obtain ⟨hopened, hopen⟩ := List.mem_filter.mp (List.mem_dedup.mp hc)
    refine mem_owned_iff.mpr ((ht.owns_or_closed hopened).resolve_right fun hclosed => ?_)
    rw [hclosed] at hopen
    cases hopen
  calc ((opened log).filter fun c => !(d.isClosed c w).1).dedup.length
      ≤ ((p.idle ++ p.held.values).map Handle.conn).length :=
        (List.subperm_of_subset (List.nodup_dedup _) hsub).length_le
    _ = p.size := by rw [List.length_map, List.length_append, Table.length_values, size]
    _ ≤ config.capacity := h.within.size_le

/-- A backend reports every close as failed. A pool there lends two connections and closes
the first when it comes back: it has opened two, and the one it does not own is closed. -/
theorem no_connection_leaks_when_closes_fail :
    ∃ hist p w log, Reached (World.driver 0 .manual).logged (silently World.Later)
        { minConnections := 1, maxConnections := 2 } ({ backends := [{ failClose := true }] }, [])
        hist (p, w, log) ∧
      opened log = [0, 1] ∧ (p.idle ++ p.held.values).map Handle.conn = [1] ∧ w.isClosed 0 = true ∧
      ((opened log).filter fun c => !w.isClosed c).dedup.length ≤ 2 := by
  have h : Reached (World.driver 0 .manual).logged (silently World.Later)
      { minConnections := 1, maxConnections := 2 } ({ backends := [{ failClose := true }] }, [])
      _ (_, _, _) :=
    ⟨_, _, rfl, ((Run.start.serve (.acquire none)).serve (.acquire (some (.named "b")))).serve
      (.release ⟨0, 0, Instant.start⟩ none true)⟩
  obtain ⟨hleak, hopen⟩ := no_connection_leaks h (World.driver_closesForGood 0 .manual) (by decide)
  refine ⟨_, _, _, _, h, rfl, rfl, ?_, hopen⟩
  refine (or_assoc.mpr (hleak 0 (by decide))).resolve_left fun howns => ?_
  exact absurd (mem_owned_iff.mpr howns) (by decide)

end Pool

end ConnPool
