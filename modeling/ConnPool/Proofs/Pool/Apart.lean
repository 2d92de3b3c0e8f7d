import ConnPool.Proofs.Pool.Calls
import ConnPool.Proofs.Pool.Leaks

/-!
# Different handles, different connections

A pool tells its connections apart by the numbers it has given them. Whether they are
different connections is up to the factory: one that delivers the same connection twice
makes a pool that owns it twice, under two numbers.

Factories that do not do that are `ConnPool.Driver.OpensNew`: there is a notion of which
connections are known, and what is opened is not known before. Then the pool is **apart**
(`ConnPool.Pool.Apart`), and what it owns after a request it has owned before, or has opened
in the meantime (`ConnPool.Pool.serve_since`). That is enough to keep pools apart from each
other as well, since what somebody else has opened is known.
-/

namespace ConnPool

open Relation (ReflTransGen)
open Driver (Call opened)

variable {W C ε : Type} {d : Driver W C ε} {known : C → W → Prop}

/-- **Every connection is new when it is opened.** No call makes a connection unknown, and
what is opened is known from then on, and not before. -/
structure Driver.OpensNew (d : Driver W C ε) (known : C → W → Prop) : Prop extends
    d.Along (fun w w' => ∀ c, known c w → known c w') where
  connect : ∀ {w w' : W} {result : Except ε C}, d.connect w = (result, w') →
    ∀ c, known c w → known c w'
  fresh : ∀ {w w' : W} {c : C}, d.connect w = (.ok c, w') → ¬known c w ∧ known c w'

/-- What is opened is new with a log as it was without. -/
theorem Driver.OpensNew.logged (hd : d.OpensNew known) :
    d.logged.OpensNew fun c s => known c s.1 where
  refl s := hd.refl s.1
  trans := hd.trans
  close h := (hd.toAlong.logged.close h).1
  isClosed h := (hd.toAlong.logged.isClosed h).1
  status h := (hd.toAlong.logged.status h).1
  rollback h := (hd.toAlong.logged.rollback h).1
  now h := (hd.toAlong.logged.now h).1
  connect h := by
    cases h
    exact hd.connect rfl
  fresh h := by
    obtain ⟨hresult, rfl⟩ := Prod.mk.inj h
    exact hd.fresh (Prod.ext hresult rfl)

namespace Pool

/-! ### The handles of a pool -/

/-- A pool has a handle, idle or checked out. -/
def Has (p : Pool C) (h : Handle C) : Prop := h ∈ p.idle ∨ ∃ k, p.held.get? k = some h

theorem owns_iff_has {p : Pool C} {c : C} : p.Owns c ↔ ∃ h, p.Has h ∧ h.conn = c := by
  constructor
  · rintro (⟨h, hidle, hc⟩ | ⟨k, h, hk, hc⟩)
    · exact ⟨h, Or.inl hidle, hc⟩
    · exact ⟨h, Or.inr ⟨k, hk⟩, hc⟩
  · rintro ⟨h, hidle | ⟨k, hk⟩, hc⟩
    · exact Or.inl ⟨h, hidle, hc⟩
    · exact Or.inr ⟨k, h, hk, hc⟩

theorem Has.owns {p : Pool C} {h : Handle C} (hh : p.Has h) : p.Owns h.conn :=
  owns_iff_has.mpr ⟨h, hh, rfl⟩

/-- **A pool is apart**: no connection has two numbers. -/
def Apart (p : Pool C) : Prop := ∀ g h, p.Has g → p.Has h → g.conn = h.conn → g.id = h.id

/-- A pool has no handles but those of another pool: for each of its own that one has a
handle with the same number and the same connection. -/
def Inherits (q p : Pool C) : Prop :=
  ∀ h, q.Has h → ∃ g, p.Has g ∧ g.id = h.id ∧ g.conn = h.conn

theorem Inherits.refl (p : Pool C) : p.Inherits p := fun h hh => ⟨h, hh, rfl, rfl⟩

/-- It has one handle more, perhaps. -/
def InheritsBut (q p : Pool C) (new : Handle C) : Prop :=
  ∀ h, q.Has h → h = new ∨ ∃ g, p.Has g ∧ g.id = h.id ∧ g.conn = h.conn

theorem InheritsBut.inherits {q p : Pool C} {new : Handle C} (h : q.InheritsBut p new)
    (hnew : ∃ g, p.Has g ∧ g.id = new.id ∧ g.conn = new.conn) : q.Inherits p := by
  intro g hg
  rcases h g hg with rfl | hold
  · exact hnew
  · exact hold

/-! ### Changes of the bookkeeping -/

theorem inherits_unstack {p : Pool C} {h : Handle C} (above below : List (Handle C))
    (hidle : p.idle = above ++ h :: below) : (p.unstack h (above ++ below)).Inherits p := by
  rintro g (hg | hheld)
  · refine ⟨g, Or.inl ?_, rfl, rfl⟩
    rw [hidle]
    exact List.perm_middle.mem_iff.mpr (List.mem_cons_of_mem h hg)
  · exact ⟨g, Or.inr hheld, rfl, rfl⟩

theorem inheritsBut_stack (p : Pool C) (h : Handle C) (now : Instant) :
    (p.stack h now).InheritsBut p h := by
  rintro g (hg | hheld)
  · rcases List.mem_cons.mp hg with rfl | hg
    · exact Or.inl rfl
    · exact Or.inr ⟨g, Or.inl hg, rfl, rfl⟩
  · exact Or.inr ⟨g, Or.inr hheld, rfl, rfl⟩

theorem inheritsBut_checkOut (p : Pool C) (key : Option Key) (h : Handle C) :
    (p.checkOut key h).InheritsBut p h := by
  rintro g (hidle | ⟨k, hk⟩)
  · exact Or.inr ⟨g, Or.inl hidle, rfl, rfl⟩
  · rcases Table.get?_insert_eq_some_iff.mp hk with ⟨_, rfl⟩ | ⟨_, hk⟩
    · exact Or.inl rfl
    · exact Or.inr ⟨g, Or.inr ⟨k, hk⟩, rfl, rfl⟩

theorem inherits_checkIn (p : Pool C) (k : Key) (h : Handle C) :
    (p.checkIn k h).Inherits p := by
  rintro g (hidle | ⟨l, hl⟩)
  · exact ⟨g, Or.inl hidle, rfl, rfl⟩
  · exact ⟨g, Or.inr ⟨l, (Table.get?_erase_eq_some_iff.mp hl).2⟩, rfl, rfl⟩

theorem InheritsBut.trans {p q r : Pool C} {new : Handle C} (h : r.InheritsBut q new)
    (h' : q.Inherits p) : r.InheritsBut p new := by
  intro g hg
  rcases h g hg with rfl | ⟨g₁, hg₁, hid₁, hconn₁⟩
  · exact Or.inl rfl
  · obtain ⟨g₂, hg₂, hid₂, hconn₂⟩ := h' g₁ hg₁
    exact Or.inr ⟨g₂, hg₂, hid₂.trans hid₁, hconn₂.trans hconn₁⟩

/-! ### What a pool owns since then -/

/-- **What has become of a pool** since it was `p` in a world `w`. What it owns it has owned
then or has opened since, and what it has opened was not known then. -/
structure Since (known : C → W → Prop) (p : Pool C) (w : W)
    (t : Pool C × W × List (Call C ε)) : Prop where
  /-- What was known is known. -/
  known_of_known : ∀ c, known c w → known c t.2.1
  /-- What has been opened is known now and was not then. -/
  fresh : ∀ c ∈ opened t.2.2, ¬known c w ∧ known c t.2.1
  /-- What the pool owns it has owned, or has opened. -/
  owned_or_opened : ∀ c, t.1.Owns c → p.Owns c ∨ c ∈ opened t.2.2
  /-- What it owns is known. -/
  known_of_owns : ∀ c, t.1.Owns c → known c t.2.1
  /-- No connection has two numbers. -/
  apart : t.1.Apart

variable {p q p₀ : Pool C} {w₀ : W} {s s' : W × List (Call C ε)}

theorem since_self (hknown : ∀ c, p.Owns c → known c w₀) (hapart : p.Apart) :
    Since known p w₀ (p, w₀, ([] : List (Call C ε))) where
  known_of_known _ := id
  fresh _ hc := absurd hc List.not_mem_nil
  owned_or_opened _ := Or.inl
  known_of_owns := hknown
  apart := hapart

theorem Inherits.owns (h : q.Inherits p) {c : C} (hc : q.Owns c) : p.Owns c := by
  obtain ⟨g, hg, rfl⟩ := owns_iff_has.mp hc
  obtain ⟨g', hg', _, hconn⟩ := h g hg
  exact hconn ▸ hg'.owns

/-- Nothing has been opened, and the pool has no more handles than before. -/
theorem Since.same (h : Since known p₀ w₀ (p, s))
    (hs : (∀ c, known c s.1 → known c s'.1) ∧ opened s'.2 = opened s.2) (hq : q.Inherits p) :
    Since known p₀ w₀ (q, s') where
  known_of_known c hc := hs.1 c (h.known_of_known c hc)
  fresh c hc := (h.fresh c (hs.2 ▸ hc)).imp_right (hs.1 c)
  owned_or_opened c hc := by
    rw [hs.2]
    exact h.owned_or_opened c (hq.owns hc)
  known_of_owns c hc := hs.1 c (h.known_of_owns c (hq.owns hc))
  apart g₁ g₂ hg₁ hg₂ hconn := by
    obtain ⟨h₁, hh₁, hid₁, hconn₁⟩ := hq g₁ hg₁
    obtain ⟨h₂, hh₂, hid₂, hconn₂⟩ := hq g₂ hg₂
    rw [← hid₁, ← hid₂]
    exact h.apart h₁ h₂ hh₁ hh₂ (hconn₁.trans (hconn.trans hconn₂.symm))

/-- A connection has been opened, and the pool has it as well now. -/
theorem Since.gain (h : Since known p₀ w₀ (p, s)) {new : Handle C}
    (hs : ∀ c, known c s.1 → known c s'.1) (hopened : opened s'.2 = opened s.2 ++ [new.conn])
    (hfresh : ¬known new.conn s.1 ∧ known new.conn s'.1) (hq : q.InheritsBut p new) :
    Since known p₀ w₀ (q, s') := by
  have howns : ∀ c, q.Owns c → p.Owns c ∨ c = new.conn := by
    intro c hc
    obtain ⟨g, hg, rfl⟩ := owns_iff_has.mp hc
    rcases hq g hg with rfl | ⟨g', hg', _, hconn⟩
    · exact Or.inr rfl
    · exact Or.inl (hconn ▸ hg'.owns)
  -- what the pool has had is known, and what has been opened is not
  have hother : ∀ g, p.Has g → g.conn ≠ new.conn := fun g hg hconn =>
    hfresh.1 (hconn ▸ h.known_of_owns g.conn hg.owns)
  constructor
  · exact fun c hc => hs c (h.known_of_known c hc)
  · intro c hc
    rw [hopened] at hc
    rcases List.mem_append.mp hc with hc | hc
    · exact (h.fresh c hc).imp_right (hs c)
    · rw [List.mem_singleton.mp hc]
      exact ⟨fun hknown => hfresh.1 (h.known_of_known _ hknown), hfresh.2⟩
  · intro c hc
    rw [hopened, List.mem_append, List.mem_singleton, ← or_assoc]
    exact (howns c hc).imp_left (h.owned_or_opened c)
  · intro c hc
    rcases howns c hc with hc | rfl
    · exact hs c (h.known_of_owns c hc)
    · exact hfresh.2
  · intro g₁ g₂ hg₁ hg₂ hconn
    rcases hq g₁ hg₁ with rfl | ⟨h₁, hh₁, hid₁, hconn₁⟩ <;>
      rcases hq g₂ hg₂ with rfl | ⟨h₂, hh₂, hid₂, hconn₂⟩
    · rfl
    · exact absurd (hconn₂.trans hconn.symm) (hother h₂ hh₂)
    · exact absurd (hconn₁.trans hconn) (hother h₁ hh₁)
    · rw [← hid₁, ← hid₂]
      exact h.apart h₁ h₂ hh₁ hh₂ (hconn₁.trans (hconn.trans hconn₂.symm))

/-! ### Steps and requests -/

theorem Opens.since {t t' : Pool C × W × List (Call C ε)} (hstep : Opens d.logged t t')
    (hd : d.OpensNew known) (h : Since known p₀ w₀ t) : Since known p₀ w₀ t' := by
  cases hstep with
  | failed _ _ hconnect =>
    exact h.same ⟨hd.logged.connect hconnect, Driver.opened_logged_connect_error hconnect⟩
      (.refl _)
  | added _ _ hconnect hnow hsince =>
    have hread := hd.toAlong.logged.trans (hd.toAlong.logged.now hnow)
      (hd.toAlong.logged.now hsince)
    exact h.gain (fun c hc => hread.1 c (hd.logged.connect hconnect c hc))
      (hread.2.trans (Driver.opened_logged_connect hconnect))
      ((hd.logged.fresh hconnect).imp_right (hread.1 _)) (inheritsBut_stack _ _ _)

theorem since_of_opens {t t' : Pool C × W × List (Call C ε)}
    (hopens : ReflTransGen (Opens d.logged) t t') (hd : d.OpensNew known)
    (h : Since known p₀ w₀ t) : Since known p₀ w₀ t' := by
  induction hopens with
  | refl => exact h
  | tail _ hstep ih => exact hstep.since hd ih

variable [DecidableEq C]

/-- **Every step of a request** opens what is new, or opens nothing. -/
theorem Move.since {r : Request (Handle C)} {t t' : Pool C × W × List (Call C ε)}
    (hstep : Move d.logged r t t') (hd : d.OpensNew known) (h : Since known p₀ w₀ t) :
    Since known p₀ w₀ t' := by
  cases hstep with
  | discard _ hdrop =>
    cases hdrop with
    | mk htop hcheck _ =>
      exact h.same (hd.toAlong.logged.recycle hcheck) (inherits_unstack [] _ htop)
  | @reuse key p _ _ g rest _ _ _ htop hcheck _ =>
    have hrest := inherits_unstack [] _ htop
    refine h.same (hd.toAlong.logged.recycle hcheck)
      (((inheritsBut_checkOut _ key g).trans hrest).inherits ⟨g, Or.inl ?_, rfl, rfl⟩)
    exact htop ▸ List.mem_cons_self
  | fail _ _ _ hconnect =>
    exact h.same ⟨hd.logged.connect hconnect, Driver.opened_logged_connect_error hconnect⟩
      (.refl _)
  | @lend key p _ _ _ conn now _ _ _ _ hconnect hnow =>
    have hread := hd.toAlong.logged.now hnow
    exact h.gain (fun c hc => hread.1 c (hd.logged.connect hconnect c hc))
      (hread.2.trans (Driver.opened_logged_connect hconnect))
      ((hd.logged.fresh hconnect).imp_right (hread.1 _))
      (inheritsBut_checkOut p.number key ⟨p.nextId, conn, now⟩)
  | @giveBack g key force p _ k _ hk hs =>
    have hrest := inherits_checkIn p k g
    cases hs with
    | letGo _ => exact h.same (hd.toAlong.logged.shut rfl) hrest
    | rejected _ hcheck _ => exact h.same (hd.toAlong.logged.recycle hcheck) hrest
    | shelved _ hcheck _ hnow =>
      -- what comes back is the connection the key holds
      obtain ⟨_, g', hheld, hid, hconn⟩ := checkout?_eq_some_iff.mp hk
      refine h.same (hd.toAlong.logged.trans (hd.toAlong.logged.recycle hcheck)
        (hd.toAlong.logged.now hnow)) ?_
      exact ((inheritsBut_stack _ g _).trans hrest).inherits ⟨g', Or.inr ⟨k, hheld⟩, hid, hconn⟩
  | refill hopens => exact hopens.since hd h
  | look _ => exact h.same (hd.toAlong.logged.now rfl) (.refl _)
  | evict _ hidle => exact h.same (hd.toAlong.logged.shut rfl) (inherits_unstack _ _ hidle)
  | shut _ => exact h.same (hd.toAlong.logged.shut rfl) (.refl _)
  | close => exact h.same (hd.toAlong.logged.refl _) (.refl _)

/-- **What a pool owns after a request** it has owned before, or has opened in the meantime;
and what it has opened was not known before. -/
theorem serve_since (hd : d.OpensNew known) {p : Pool C} {w : W}
    (hknown : ∀ c, p.Owns c → known c w) (hapart : p.Apart) (r : Request (Handle C)) :
    Since known p w (p.serve d.logged r (w, [])).2 :=
  serve_invariant (fun _ _ hstep => hstep.since hd) (since_self hknown hapart)

omit [DecidableEq C] in
/-- **A new pool owns nothing but what it has opened.** -/
theorem build_since (hd : d.OpensNew known) {config : Config} {w : W} {p : Pool C}
    (hbuild : build d.logged config (w, []) = (.ok p, s)) :
    Since known (fresh config) w (p, s) := by
  refine since_of_opens (build_opens hbuild).2 hd (since_self ?_ ?_)
  · rintro c (⟨_, hg, _⟩ | ⟨_, _, hk, _⟩)
    · cases hg
    · cases hk
  · rintro g h (hg | ⟨_, hk⟩) _ _
    · cases hg
    · cases hk

end Pool

end ConnPool
