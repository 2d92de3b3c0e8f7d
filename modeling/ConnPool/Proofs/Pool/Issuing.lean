import ConnPool.Proofs.Pool.Checkouts
import ConnPool.Proofs.Pool.Eviction
import ConnPool.Proofs.Pool.Faultless
import ConnPool.Proofs.Pool.Refilling
import ConnPool.Proofs.Pool.Search
import ConnPool.Proofs.Simulation.Touches

/-!
# Numbers and keys are issued once, and in order

A pool gives its connections numbers by counting, and it counts only what it has opened. It keeps
no list of them. But one can be kept beside it, as what every request does to it is known
(`ConnPool.Pool.Makes`): the request goes through with no new handle, or with some that have the
next numbers and are for the connections that have been opened in the meantime. So all the handles
that a pool has had in the course of its life are those of one list, `ConnPool.Pool.Register`, in
which each stands at the place that is its number.

A pool puts on its idle stack the handle that it is given, not the one that it has lent. The two
agree in the number and in the connection, since nothing else is accepted. Whether they agree in
the time at which the connection was opened is up to the borrowers: they do as long as nobody makes
a handle up (`ConnPool.Pool.Unforged`).

Keys are counted likewise. The only moments that issue one are those at which a borrower without
a key gets a connection (`ConnPool.Pool.Moment.issues`).
-/

namespace ConnPool

open Relation (ReflTransGen)
open Driver (Call opened)

variable {W C ε : Type} {d : Driver W C ε}

namespace Handle

variable [DecidableEq C]

theorem isSame_self (g : Handle C) : g.isSame g = true := isSame_iff.mpr ⟨rfl, rfl⟩

theorem isSame_trans {f g h : Handle C} (hfg : f.isSame g = true) (hgh : g.isSame h = true) :
    f.isSame h = true := by
  obtain ⟨hid, hconn⟩ := isSame_iff.mp hfg
  obtain ⟨hid', hconn'⟩ := isSame_iff.mp hgh
  exact isSame_iff.mpr ⟨hid.trans hid', hconn.trans hconn'⟩

end Handle

namespace Driver

/-- What has been opened is known, and none of it has been opened twice. -/
def OpenedOnce (known : C → W → Prop) (s : W × List (Call C ε)) : Prop :=
  (∀ c ∈ opened s.2, known c s.1) ∧ (opened s.2).Nodup

theorem OpenedOnce.of_opened_eq {known : C → W → Prop} {s s' : W × List (Call C ε)}
    (h : OpenedOnce known s)
    (hs : (∀ c, known c s.1 → known c s'.1) ∧ opened s'.2 = opened s.2) : OpenedOnce known s' := by
  obtain ⟨hlater, hsame⟩ := hs
  rw [OpenedOnce, hsame]
  exact ⟨fun c hc => hlater c (h.1 c hc), h.2⟩

/-- **A factory that delivers what is new delivers nothing twice.** -/
theorem OpensNew.follows_openedOnce {known : C → W → Prop} (hd : d.OpensNew known) :
    d.logged.Follows fun s s' => OpenedOnce known s → OpenedOnce known s' where
  refl _ := id
  trans h h' := h' ∘ h
  recycle hcall h := h.of_opened_eq (hd.toAlong.logged.recycle hcall)
  shut hcall h := h.of_opened_eq (hd.toAlong.logged.shut hcall)
  now hcall h := h.of_opened_eq (hd.toAlong.logged.now hcall)
  connect {s s' result} hcall h := by
    have hlater := hd.logged.connect hcall
    cases result with
    | error e => exact h.of_opened_eq ⟨hlater, opened_logged_connect_error hcall⟩
    | ok c =>
      obtain ⟨hunknown, hknown⟩ := hd.logged.fresh hcall
      rw [OpenedOnce, opened_logged_connect hcall]
      refine ⟨fun c' hc' => ?_, ?_⟩
      · rcases List.mem_append.mp hc' with hc' | hc'
        · exact hlater c' (h.1 c' hc')
        · exact List.mem_singleton.mp hc' ▸ hknown
      · refine List.Nodup.append h.2 (List.nodup_singleton c) fun c' hc' hnew => ?_
        exact hunknown (List.mem_singleton.mp hnew ▸ h.1 c' hc')

end Driver

namespace Pool

variable {p : Pool C} {s : W × List (Call C ε)} {t t' t'' : Pool C × W × List (Call C ε)}
  {had : Handle C → Prop} {new : List (Handle C)}

/-! ### The handles a request makes -/

/-- **A pool has made some handles** on the way from one state to another. -/
structure Makes (had : Handle C → Prop) (new : List (Handle C))
    (t t' : Pool C × W × List (Call C ε)) : Prop where
  /-- They have the next numbers, in this order, -/
  ids : new.map Handle.id = List.range' t.1.nextId new.length
  /-- and no other number has been given away. -/
  nextId_eq : t'.1.nextId = t.1.nextId + new.length
  /-- They are for the connections that have been opened, in the order of opening. -/
  opened_eq : opened t'.2.2 = opened t.2.2 ++ new.map Handle.conn
  /-- The pool has all of them now, -/
  has : ∀ g ∈ new, t'.1.Has g
  /-- and all that it has besides had been there. -/
  had_or_new : ∀ g, t'.1.Has g → had g ∨ g ∈ new

/-- Nothing has been opened. -/
theorem makes_nil (hnext : t'.1.nextId = t.1.nextId) (hopened : opened t'.2.2 = opened t.2.2)
    (hhad : ∀ g, t'.1.Has g → had g) : Makes had [] t t' where
  ids := rfl
  nextId_eq := hnext
  opened_eq := hopened.trans (List.append_nil _).symm
  has _ hg := absurd hg List.not_mem_nil
  had_or_new g hg := Or.inl (hhad g hg)

/-- First nothing has been opened, and then something. -/
theorem Makes.after_nil (h : Makes had [] t t') (h' : Makes t'.1.Has new t' t'') :
    Makes had new t t'' where
  ids := by
    rw [h'.ids, h.nextId_eq]
    rfl
  nextId_eq := by
    rw [h'.nextId_eq, h.nextId_eq]
    rfl
  opened_eq := by
    rw [h'.opened_eq, h.opened_eq, List.map_nil, List.append_nil]
  has := h'.has
  had_or_new g hg := by
    rcases h'.had_or_new g hg with hold | hnew
    · exact Or.inl ((h.had_or_new g hold).resolve_right List.not_mem_nil)
    · exact Or.inr hnew

theorem Makes.mono {had' : Handle C → Prop} (h : Makes had new t t') (hle : ∀ g, had g → had' g) :
    Makes had' new t t' :=
  { h with had_or_new := fun g hg => (h.had_or_new g hg).imp_left (hle g) }

/-- **Filling a pool up** makes a handle for every delivery. -/
theorem refill_makes (d : Driver W C ε) (p : Pool C) (s : W × List (Call C ε)) :
    ∃ new, Makes p.Has new (p, s) (p.refill d.logged s) := by
  obtain ⟨made, failure, hfills⟩ := fills_refill d.logged p s
  have hstocked := hfills.stocked
  have hattempts : opened (attempts made failure) = made.map Delivery.conn := by
    cases failure <;> simp [attempts, opened, List.filterMap_map, Function.comp_def,
      Driver.Call.opened?]
  have hidle : ∀ g, g ∈ (p.refill d.logged s).1.idle ↔
      g ∈ p.idle ∨ g ∈ made.mapIdx fun i x => x.handle (p.nextId + i) := fun g => by
    rw [← List.mem_reverse, ← idleHandles, hstocked.idle_eq, List.mem_append, idleHandles,
      List.mem_reverse]
  refine ⟨made.mapIdx fun i x => x.handle (p.nextId + i), ?_, ?_, ?_, ?_, ?_⟩
  · refine List.ext_getElem (by simp) fun i hi _ => ?_
    simp [Delivery.handle]
  · rw [List.length_mapIdx]
    exact congrArg (fun q => q.nextId) hstocked.books_eq
  · rw [hfills.of_logged.2, Driver.opened_append, hattempts]
    refine congrArg _ (List.ext_getElem (by simp) fun i hi _ => ?_)
    simp [Delivery.handle]
  · exact fun g hg => Or.inl ((hidle g).mpr (Or.inr hg))
  · rintro g (hg | hk)
    · exact ((hidle g).mp hg).imp_left Or.inl
    · rw [hstocked.held_eq] at hk
      exact Or.inl (Or.inr hk)

theorem has_of_drops {W : Type} {d : Driver W C ε} {s s' : Pool C × W}
    (h : ReflTransGen (Drop d) s s') {g : Handle C} (hg : s'.1.Has g) : s.1.Has g := by
  rcases hg with hg | hk
  · exact Or.inl (mem_idle_of_drops h hg)
  · rw [drops_held h] at hk
    exact Or.inr hk

theorem has_of_checkOut {key : Option Key} {h g : Handle C} (hg : (p.checkOut key h).Has g) :
    p.Has g ∨ g = h := by
  rcases hg with hg | ⟨k, hk⟩
  · exact Or.inl (Or.inl hg)
  · rcases Table.get?_insert_eq_some_iff.mp hk with ⟨_, rfl⟩ | ⟨_, hk⟩
    · exact Or.inr rfl
    · exact Or.inl (Or.inr ⟨k, hk⟩)

/-- The connection that is handed out is one that the pool has from then on. -/
theorem has_checkOut (p : Pool C) (key : Option Key) (h : Handle C) : (p.checkOut key h).Has h :=
  Or.inr ⟨_, Table.get?_insert_eq_some_iff.mpr (Or.inl ⟨rfl, rfl⟩)⟩

/-- **An acquire** makes a handle if it opens a connection, and hands it out. -/
theorem acquire_makes (d : Driver W C ε) (key : Option Key) (p : Pool C)
    (s : W × List (Call C ε)) :
    ∃ new, Makes p.Has new (p, s) (p.acquire d.logged key s).2 := by
  have hend := acquired d.logged key p s
  generalize p.acquire d.logged key s = result at hend ⊢
  have hlost : ∀ {q : Pool C} {v : W × List (Call C ε)},
      ReflTransGen (Drop d.logged) (p, s) (q, v) → Makes p.Has [] (p, s) (q, v) :=
    fun hdrops => makes_nil (congrArg (fun q => q.nextId) (drops_eq hdrops))
      (drops_along d.along_opened hdrops).2 fun _ => has_of_drops hdrops
  cases hend with
  | closed _ => exact ⟨[], makes_nil rfl rfl fun _ => id⟩
  | served _ _ => exact ⟨[], makes_nil rfl rfl fun _ => id⟩
  | @reused q v _ h rest _ _ _ hdrops htop hcheck _ =>
    refine ⟨[], (hlost hdrops).after_nil (makes_nil rfl (d.along_opened.recycle hcheck).2 ?_)⟩
    intro g hg
    rcases has_of_checkOut hg with (hg | hk) | rfl
    · exact Or.inl (htop ▸ List.mem_cons_of_mem h hg)
    · exact Or.inr hk
    · exact Or.inl (htop ▸ List.mem_cons_self)
  | exhausted _ _ hdrops _ _ => exact ⟨[], hlost hdrops⟩
  | failed _ _ hdrops _ _ hconnect =>
    exact ⟨[], (hlost hdrops).after_nil
      (makes_nil rfl (Driver.opened_logged_connect_error hconnect) fun _ => id)⟩
  | @opened q _ _ _ conn now _ _ hdrops _ _ hconnect hnow =>
    refine ⟨[⟨q.nextId, conn, now⟩], (hlost hdrops).after_nil ⟨rfl, rfl, ?_, ?_, ?_⟩⟩
    · exact (d.along_opened.now hnow).2.trans (Driver.opened_logged_connect hconnect)
    · intro g hg
      rw [List.mem_singleton.mp hg]
      exact has_checkOut q.number key _
    · exact fun g hg => (has_of_checkOut hg).imp id List.mem_singleton.mpr

variable [DecidableEq C]

/-- **A request has a handle from a pool**: it is one of the pool's, or it comes back in the place
of one that is checked out. -/
def Stems (r : Request (Handle C)) (p : Pool C) (g : Handle C) : Prop :=
  p.Has g ∨ ∃ key force, r = .release g key force ∧
    ∃ k h, p.held.get? k = some h ∧ g.isSame h = true

/-- What becomes of a connection that has come back, nothing is opened. -/
theorem dispose_makes {h : Handle C} {key : Option Key} {force : Bool} {k : Key}
    (hk : p.checkout? h key = some k) (hs : Disposed d.logged h force (p.checkIn k h, s) t) :
    Makes (Stems (.release h key force) p) [] (p, s) t := by
  have hback : Stems (.release h key force) p h := by
    obtain ⟨_, g, hheld, hid, hconn⟩ := checkout?_eq_some_iff.mp hk
    exact Or.inr ⟨key, force, rfl, k, g, hheld, Handle.isSame_iff.mpr ⟨hid.symm, hconn.symm⟩⟩
  have hrest : ∀ g, (p.checkIn k h).Has g → Stems (.release h key force) p g := by
    rintro g (hg | ⟨l, hl⟩)
    · exact Or.inl (Or.inl hg)
    · exact Or.inl (Or.inr ⟨l, (Table.get?_erase_eq_some_iff.mp hl).2⟩)
  cases hs with
  | letGo _ => exact makes_nil rfl (d.along_opened.shut rfl).2 hrest
  | rejected _ hcheck _ => exact makes_nil rfl (d.along_opened.recycle hcheck).2 hrest
  | shelved _ hcheck _ hnow =>
    refine makes_nil rfl ((d.along_opened.now hnow).2.trans (d.along_opened.recycle hcheck).2) ?_
    rintro g (hg | hk)
    · rcases List.mem_cons.mp hg with rfl | hg
      · exact hback
      · exact hrest g (Or.inl hg)
    · exact hrest g (Or.inr hk)

/-- **The handles every request makes.** -/
theorem serve_makes (d : Driver W C ε) (r : Request (Handle C)) (p : Pool C)
    (s : W × List (Call C ε)) :
    ∃ new, Makes (Stems r p) new (p, s) (p.serve d.logged r s).2 := by
  cases r with
  | acquire key =>
    obtain ⟨new, hmakes⟩ := acquire_makes d key p s
    exact ⟨new, hmakes.mono fun _ => Or.inl⟩
  | release h key force =>
    have hend := released d.logged h key force p s
    rw [serve]
    generalize p.release d.logged h key force s = result at hend ⊢
    cases hend with
    | unknown _ => exact ⟨[], makes_nil rfl rfl fun _ => Or.inl⟩
    | late hk hs _ => exact ⟨[], dispose_makes hk hs⟩
    | @ended k v hk hs _ =>
      obtain ⟨new, hmakes⟩ := refill_makes d v.1 v.2
      exact ⟨new, (dispose_makes hk hs).after_nil hmakes⟩
  | prune =>
    refine ⟨[], ?_⟩
    by_cases hinactive : p.closed = true ∨ p.config.idleTimeout.nanos = 0
    · rw [serve, prune_of_inactive hinactive]
      exact makes_nil rfl rfl fun _ => Or.inl
    · obtain ⟨hopen, hevicts⟩ := not_or.mp hinactive
      rw [serve, prune_of_active (Bool.eq_false_iff.mpr hopen) hevicts rfl]
      refine makes_nil rfl ?_ ?_
      · exact (d.along_opened.closeEach _ _).2.trans (d.along_opened.now rfl).2
      · exact fun g hg => Or.inl (hg.imp_left fun hg => (List.mem_filter.mp hg).1)
  | closeAll =>
    exact ⟨[], makes_nil rfl (d.along_opened.closeEach _ _).2 fun _ => Or.inl⟩

/-! ### The register -/

variable {V : Type} {d' : Driver V C ε} {config : Config} {v₀ : V} {w₀ w : W}
  {env : W → W → Prop} {known : C → W → Prop} {g g' : Handle C}
  {hist : List (Moment (W × List (Call C ε)) C)} {made : List (Handle C)} {log : List (Call C ε)}

/-- **A pool has had a handle**, idle or checked out: when it had just been built, or after some
request. -/
def HasHad (d' : Driver V C ε) (config : Config) (v₀ : V) (hist : List (Moment V C))
    (g : Handle C) : Prop :=
  (∃ p v, build d' config v₀ = (.ok p, v) ∧ p.Has g) ∨ ∃ m ∈ hist, (m.after d').1.Has g

/-- **A pool has lent a handle**: it has been the answer to some acquire. -/
def HasLent (d' : Driver V C ε) (hist : List (Moment V C)) (g : Handle C) : Prop :=
  ∃ m ∈ hist, ∃ k, m.Lends d' k g

theorem hasHad_cons {hist : List (Moment V C)} {m : Moment V C} :
    HasHad d' config v₀ (m :: hist) g ↔
      HasHad d' config v₀ hist g ∨ (m.after d').1.Has g := by
  rw [HasHad, HasHad, List.exists_mem_cons_iff, or_assoc, or_comm (a := ∃ m ∈ hist, _)]

/-- What has been lent the pool has had. -/
theorem HasLent.hasHad {hist : List (Moment V C)} (h : HasLent d' hist g) :
    HasHad d' config v₀ hist g := by
  obtain ⟨m, hm, k, hlends⟩ := h
  exact Or.inr ⟨m, hm, Or.inr ⟨k, hlends.held⟩⟩

/-- **Nobody makes a handle up**: whatever is handed back has been lent before, or is for a
connection that the pool has not opened. So the handles of other pools may be handed back. -/
def Unforged (d : Driver W C ε) : List (Moment (W × List (Call C ε)) C) → Prop
  | [] => True
  | m :: past => (∀ g key force, m.request = .release g key force →
      HasLent d.logged past g ∨ g.conn ∉ opened m.world.2) ∧ Unforged d past

/-- **The register of a pool**: the handles that it has made in the course of its life. -/
structure Register (d : Driver W C ε) (config : Config) (w₀ : W)
    (hist : List (Moment (W × List (Call C ε)) C)) (made : List (Handle C))
    (t : Pool C × W × List (Call C ε)) : Prop where
  /-- Their numbers are all that have been given away, in order. -/
  ids : made.map Handle.id = List.range t.1.nextId
  /-- Their connections are those that have been opened, in the order of opening. -/
  conns : made.map Handle.conn = opened t.2.2
  /-- The pool has had each of them. -/
  hasHad : ∀ g ∈ made, HasHad d.logged config (w₀, []) hist g
  /-- What it has it has had. -/
  current : ∀ g, t.1.Has g → HasHad d.logged config (w₀, []) hist g
  /-- Whatever it has had means the same connection as one of them. -/
  same : ∀ g, HasHad d.logged config (w₀, []) hist g → ∃ h ∈ made, g.isSame h = true
  /-- If nobody makes handles up, it has had no others. -/
  exact : Unforged d hist → ∀ g, HasHad d.logged config (w₀, []) hist g → g ∈ made

/-- A handle stands in the register at the place that is its number. -/
theorem Register.id_eq (h : Register d config w₀ hist made t) {i : Nat}
    (hi : made[i]? = some g) : g.id = i := by
  have hentry : (made.map Handle.id)[i]? = some g.id := by rw [List.getElem?_map, hi]; rfl
  rw [h.ids] at hentry
  obtain ⟨_, hrange⟩ := List.getElem?_eq_some_iff.mp hentry
  rw [← hrange, List.getElem_range]

theorem Register.getElem? (h : Register d config w₀ hist made t) (hg : g ∈ made) :
    made[g.id]? = some g := by
  obtain ⟨i, hi⟩ := List.mem_iff_getElem?.mp hg
  rw [h.id_eq hi, hi]

/-- Two handles of the register with one number are one handle. -/
theorem Register.eq_of_id_eq (h : Register d config w₀ hist made t) (hg : g ∈ made)
    (hg' : g' ∈ made) (hid : g.id = g'.id) : g = g' := by
  have hentry := h.getElem? hg
  rw [hid, h.getElem? hg'] at hentry
  exact (Option.some.inj hentry).symm

/-- **The connection that has been opened at some place** is that of the handles with that
number. -/
theorem Register.opened_getElem? (h : Register d config w₀ hist made t) {id : Nat} {c : C} :
    (opened t.2.2)[id]? = some c ↔
      ∃ g, HasHad d.logged config (w₀, []) hist g ∧ g.id = id ∧ g.conn = c := by
  rw [← h.conns, List.getElem?_map, Option.map_eq_some_iff]
  constructor
  · rintro ⟨g, hentry, hconn⟩
    exact ⟨g, h.hasHad g (List.mem_of_getElem? hentry), h.id_eq hentry, hconn⟩
  · rintro ⟨g, hg, rfl, rfl⟩
    obtain ⟨f, hf, hsame⟩ := h.same g hg
    obtain ⟨hid, hconn⟩ := Handle.isSame_iff.mp hsame
    exact ⟨f, hid ▸ h.getElem? hf, hconn.symm⟩

/-- **Handles with one number mean one connection.** -/
theorem Register.isSame_of_id_eq (h : Register d config w₀ hist made t)
    (hg : HasHad d.logged config (w₀, []) hist g) (hg' : HasHad d.logged config (w₀, []) hist g')
    (hid : g.id = g'.id) : g.isSame g' = true := by
  have hconn := h.opened_getElem?.mpr ⟨g, hg, hid, rfl⟩
  rw [h.opened_getElem?.mpr ⟨g', hg', rfl, rfl⟩] at hconn
  exact Handle.isSame_iff.mpr ⟨hid, (Option.some.inj hconn).symm⟩

/-- Handles for one connection have one number, if none has been opened twice. -/
theorem Register.id_eq_of_conn_eq (h : Register d config w₀ hist made t)
    (hnodup : (opened t.2.2).Nodup) (hg : HasHad d.logged config (w₀, []) hist g)
    (hg' : HasHad d.logged config (w₀, []) hist g') (hconn : g.conn = g'.conn) :
    g.id = g'.id := by
  have hentry := h.opened_getElem?.mpr ⟨g, hg, rfl, rfl⟩
  have hentry' := h.opened_getElem?.mpr ⟨g', hg', rfl, hconn.symm⟩
  obtain ⟨hlt, _⟩ := List.getElem?_eq_some_iff.mp hentry
  exact (List.getElem?_inj hlt hnodup).mp (hentry.trans hentry'.symm)

/-- A new pool has made what it has. -/
theorem register_of_build (hbuild : build d.logged config (w₀, []) = (.ok p, s)) :
    ∃ made, Register d config w₀ [] made (p, s) := by
  obtain ⟨new, hmakes⟩ := refill_makes d (fresh config) (w₀, [])
  rw [refill_of_build hbuild] at hmakes
  have hnone : ∀ g, ¬(fresh config : Pool C).Has g := by
    rintro g (hidle | ⟨_, hk⟩)
    · cases hidle
    · cases hk
  have hhad : ∀ g, HasHad d.logged config (w₀, []) [] g ↔ p.Has g := by
    intro g
    constructor
    · rintro (⟨q, v, hbuild', hg⟩ | ⟨m, hm, _⟩)
      · cases hbuild.symm.trans hbuild'
        exact hg
      · exact absurd hm List.not_mem_nil
    · exact fun hg => Or.inl ⟨p, s, hbuild, hg⟩
  have hnew : ∀ g, p.Has g → g ∈ new := fun g hg =>
    (hmakes.had_or_new g hg).resolve_left (hnone g)
  refine ⟨new, ⟨?_, ?_, fun g hg => (hhad g).mpr (hmakes.has g hg), fun g => (hhad g).mpr,
    fun g hg => ⟨g, hnew g ((hhad g).mp hg), g.isSame_self⟩, fun _ g hg => hnew g ((hhad g).mp hg)⟩⟩
  · have hcount : p.nextId = new.length := hmakes.nextId_eq.trans (Nat.zero_add _)
    rw [hmakes.ids, List.range_eq_range', hcount]
    rfl
  · exact (hmakes.opened_eq.trans (List.nil_append _)).symm

/-- **The register is kept up by every request**: the handles that the request makes are added at
its end. -/
theorem Register.serve (h : Register d config w₀ hist made t) (r : Request (Handle C)) :
    ∃ new, Register d config w₀ (⟨t.1, t.2, r⟩ :: hist) (made ++ new)
      (t.1.serve d.logged r t.2).2 := by
  obtain ⟨new, hmakes⟩ := serve_makes d r t.1 t.2
  refine ⟨new, ⟨?_, ?_, fun g hg => hasHad_cons.mpr ?_, fun g hg => hasHad_cons.mpr (Or.inr hg),
    fun g hg => ?same, fun hunforged g hg => ?exact⟩⟩
  · rw [List.map_append, h.ids, hmakes.ids, hmakes.nextId_eq, List.range_eq_range',
      List.range_eq_range', ← List.range'_append_1, Nat.zero_add]
  · rw [List.map_append, h.conns, hmakes.opened_eq]
  · rcases List.mem_append.mp hg with hold | hnew
    · exact Or.inl (h.hasHad g hold)
    · exact Or.inr (hmakes.has g hnew)
  -- a handle that comes back is the same as the one that is checked out, which is in the register
  case same =>
    have hold : HasHad d.logged config (w₀, []) hist g → ∃ f ∈ made ++ new, g.isSame f = true :=
      fun hg => (h.same g hg).imp fun _ hf => hf.imp_left (List.mem_append_left new)
    rcases hasHad_cons.mp hg with hg | hg
    · exact hold hg
    · rcases hmakes.had_or_new g hg with (hg | ⟨_, _, _, k, f, hk, hback⟩) | hnew
      · exact hold (h.current g hg)
      · obtain ⟨f', hf', hsame⟩ := h.same f (h.current f (Or.inr ⟨k, hk⟩))
        exact ⟨f', List.mem_append_left new hf', Handle.isSame_trans hback hsame⟩
      · exact ⟨g, List.mem_append_right made hnew, g.isSame_self⟩
  case exact =>
    obtain ⟨hnow, hpast⟩ := hunforged
    have hold : HasHad d.logged config (w₀, []) hist g → g ∈ made ++ new :=
      fun hg => List.mem_append_left new (h.exact hpast g hg)
    rcases hasHad_cons.mp hg with hg | hg
    · exact hold hg
    · rcases hmakes.had_or_new g hg with (hg | ⟨key, force, hrelease, k, f, hk, hback⟩) | hnew
      · exact hold (h.current g hg)
      · refine hold ((hnow g key force hrelease).resolve_right fun hforeign => ?_).hasHad
        obtain ⟨f', hf', hsame⟩ := h.same f (h.current f (Or.inr ⟨k, hk⟩))
        refine hforeign ?_
        rw [(Handle.isSame_iff.mp (Handle.isSame_trans hback hsame)).2, ← h.conns]
        exact List.mem_map_of_mem hf'
      · exact List.mem_append_right made hnew

/-- **Every pool has a register.** -/
theorem Reached.register (h : Reached d.logged (silently env) config (w₀, []) hist t) :
    ∃ made, Register d config w₀ hist made t := by
  obtain ⟨p, s, hbuild, hrun⟩ := h
  induction hrun with
  | start => exact register_of_build hbuild
  | drift _ henv ih =>
    obtain ⟨made, hmade⟩ := ih
    exact ⟨made, { hmade with conns := hmade.conns.trans (congrArg opened henv.2.symm) }⟩
  | serve _ r ih =>
    obtain ⟨made, hmade⟩ := ih
    obtain ⟨new, hnew⟩ := hmade.serve r
    exact ⟨made ++ new, hnew⟩

/-- **A pool has opened nothing twice** if its factory delivers what is new. -/
theorem Reached.openedOnce (h : Reached d.logged (silently env) config (w₀, []) hist t)
    (hd : d.OpensNew known) (henv : ∀ w w', env w w' → ∀ c, known c w → known c w') :
    Driver.OpenedOnce known t.2 := by
  have hfollows := hd.follows_openedOnce
  obtain ⟨p, s, hbuild, hrun⟩ := h
  refine hrun.invariant (I := fun t => Driver.OpenedOnce known t.2) (fun _ _ _ hw ht => ?_)
    (fun m _ => serve_follows hfollows m.request m.pool m.world) ?_
  · exact ht.of_opened_eq ⟨henv _ _ hw.1, congrArg opened hw.2⟩
  · have hbuilt := build_follows hfollows config (w₀, [])
    rw [hbuild] at hbuilt
    exact hbuilt ⟨fun _ hc => absurd hc List.not_mem_nil, List.nodup_nil⟩

/-! ### Issuing keys -/

/-- **A moment issues a key**: a borrower that gives none gets a connection. -/
def Moment.issues (d' : Driver V C ε) (m : Moment V C) : Bool :=
  match m.request with
  | .acquire none => (m.pool.acquire d' none m.world).1.isOk
  | _ => false

/-- The moments that issue a key, in the order in which they have come. -/
def issuing (d' : Driver V C ε) (hist : List (Moment V C)) : List (Moment V C) :=
  hist.reverse.filter (Moment.issues d')

omit [DecidableEq C] in
/-- **A moment that issues a key lends a connection under the next one**, and the pool goes on to
the one after that. -/
theorem Moment.lends_of_issues {m : Moment V C} (h : m.issues d' = true) :
    ∃ g, m.Lends d' (.auto m.pool.nextKey) g := by
  obtain ⟨q, v, r⟩ := m
  rcases r with (_ | key) | _ | _ | _
  · cases hanswer : (q.acquire d' none v).1 with
    | error e => simp [issues, hanswer, Except.isOk, Except.toBool] at h
    | ok g => exact ⟨g, none, rfl, rfl, hanswer⟩
  all_goals cases h

omit [DecidableEq C] in
/-- An acquire issues a key if it succeeds without having been given one. -/
theorem nextKey_acquire (d' : Driver V C ε) (key : Option Key) (q : Pool C) (v : V) :
    (q.acquire d' key v).2.1.nextKey =
      if (q.acquire d' key v).1.isOk then (q.chooseKey key).2 else q.nextKey := by
  have hend := acquired d' key q v
  generalize q.acquire d' key v = result at hend ⊢
  cases hend with
  | closed _ => rfl
  | served _ hheld =>
    -- a borrower that is served already has given a key
    obtain ⟨k, rfl, _⟩ := Option.bind_eq_some_iff.mp hheld
    rfl
  | reused _ _ hdrops _ _ _ => exact congrArg Prod.snd (chooseKey_congr (drops_nextKey hdrops) key)
  | exhausted _ _ hdrops _ _ => exact drops_nextKey hdrops
  | failed _ _ hdrops _ _ _ => exact drops_nextKey hdrops
  | opened _ _ hdrops _ _ _ _ =>
    exact congrArg Prod.snd (chooseKey_congr (drops_nextKey hdrops) key)

omit [DecidableEq C] in
/-- Filling a pool up issues none. -/
theorem nextKey_refill (d' : Driver V C ε) (q : Pool C) (v : V) :
    (q.refill d' v).1.nextKey = q.nextKey := by
  obtain ⟨_, _, hfills⟩ := fills_refill d' q v
  exact congrArg (fun q => q.nextKey) hfills.stocked.books_eq

/-- **What becomes of the next key**: it is the one after that if it has been issued, and
otherwise it stays what it is. -/
theorem Moment.nextKey_after (d' : Driver V C ε) (m : Moment V C) :
    (m.after d').1.nextKey = if m.issues d' then m.pool.nextKey + 1 else m.pool.nextKey := by
  obtain ⟨q, v, r⟩ := m
  cases r with
  | acquire key =>
    refine (nextKey_acquire d' key q v).trans ?_
    cases key with
    | none => rfl
    | some k => exact ite_self _
  | release h key force =>
    have hend := released d' h key force q v
    rw [after, serve]
    generalize q.release d' h key force v = result at hend ⊢
    have hdisposed : ∀ {k : Key} {t : Pool C × V},
        Disposed d' h force (q.checkIn k h, v) t → t.1.nextKey = q.nextKey := fun hs => by
      cases hs <;> rfl
    cases hend with
    | unknown _ => rfl
    | late _ hs _ => exact hdisposed hs
    | ended _ hs _ => exact (nextKey_refill d' _ _).trans (hdisposed hs)
  | prune =>
    rw [after, serve]
    by_cases hinactive : q.closed = true ∨ q.config.idleTimeout.nanos = 0
    · rw [prune_of_inactive hinactive]
      rfl
    · obtain ⟨hopen, hevicts⟩ := not_or.mp hinactive
      rw [prune_of_active (Bool.eq_false_iff.mpr hopen) hevicts rfl]
      rfl
  | closeAll => rfl

/-- **The moments that issue a key find the keys in order**, and the next key is their number. -/
theorem Reached.issuing {env : V → V → Prop} {hist : List (Moment V C)} {t : Pool C × V}
    (h : Reached d' env config v₀ hist t) :
    (issuing d' hist).map (fun m => m.pool.nextKey) = List.range t.1.nextKey := by
  obtain ⟨p, v, hbuild, hrun⟩ := h
  induction hrun with
  | start =>
    obtain rfl : ((fresh config).refill d' v₀).1 = p := congrArg Prod.fst (refill_of_build hbuild)
    exact (congrArg List.range (nextKey_refill d' (fresh config) v₀)).symm
  | drift _ _ ih => exact ih
  | @serve hist t _ r ih =>
    have hafter : (t.1.serve d' r t.2).2.1.nextKey = _ := Moment.nextKey_after d' ⟨t.1, t.2, r⟩
    rw [Pool.issuing] at ih
    rw [Pool.issuing, List.reverse_cons, List.filter_append, List.map_append, ih, hafter,
      List.filter_singleton]
    cases Moment.issues d' ⟨t.1, t.2, r⟩ with
    | false => exact List.append_nil _
    | true => exact List.range_succ.symm

/-- The keys are issued in order, and each is the one that the connection is remembered under. -/
theorem Reached.lends_issued {env : V → V → Prop} {hist : List (Moment V C)} {t : Pool C × V}
    (h : Reached d' env config v₀ hist t) {n : Nat} {m : Moment V C}
    (hm : (Pool.issuing d' hist)[n]? = some m) :
    ∃ g, m.Lends d' (.auto n) g ∧ (m.after d').1.key? g.id = some (.auto n) := by
  -- the moment has found the key with its own number
  have hentry : (List.range t.1.nextKey)[n]? = some m.pool.nextKey := by
    rw [← h.issuing, List.getElem?_map, hm]
    rfl
  obtain ⟨_, hn⟩ := List.getElem?_eq_some_iff.mp hentry
  rw [List.getElem_range] at hn
  obtain ⟨hmem, hissues⟩ := List.mem_filter.mp (List.mem_of_getElem? hm)
  obtain ⟨g, hlends⟩ := Moment.lends_of_issues hissues
  rw [← hn] at hlends
  obtain ⟨p, v, hbuild, hrun⟩ := h
  obtain ⟨past, _, hpast⟩ := hrun.of_mem (List.mem_reverse.mp hmem)
  have hafter : Reached d' env config v₀ _ (m.after d') := ⟨p, v, hbuild, hpast.serve m.request⟩
  exact ⟨g, hlends, hafter.consistent.remembered hlends.held⟩

/-! ### Main statement -/

/-- **Numbers and keys are issued once, and in order.** The connections that a pool has opened in
the course of its life, in the order of opening, have the numbers from zero on, and the next number
is how many they are. So two handles that it has lent, whenever that was, have the same number
exactly if they mean the same connection – exactly if they are for the same connection, if the
factory delivers nothing twice – and they have been opened at the same time then, if nobody makes
handles up. The borrowers that give no key and get a connection get it under the issued keys from
zero on, one after the other, the next one is how many they are, and nobody else has any part in
this. -/
theorem issued_once_in_order
    (h : Reached d.logged (silently env) config (w₀, []) hist (p, w, log)) :
    p.nextId = (opened log).length ∧
      (∀ id c, (opened log)[id]? = some c ↔
        ∃ g, HasHad d.logged config (w₀, []) hist g ∧ g.id = id ∧ g.conn = c) ∧
      (∀ g g', HasLent d.logged hist g → HasLent d.logged hist g' →
        (g.id = g'.id ↔ g.isSame g' = true) ∧
        (∀ known, d.OpensNew known → (∀ w w', env w w' → ∀ c, known c w → known c w') →
          (g.id = g'.id ↔ g.conn = g'.conn)) ∧
        (Unforged d hist → g.id = g'.id → g.createdAt = g'.createdAt)) ∧
      (issuing d.logged hist).length = p.nextKey ∧
      (∀ (n : Nat) (m : Moment (W × List (Call C ε)) C), (issuing d.logged hist)[n]? = some m →
        ∃ g, m.Lends d.logged (.auto n) g ∧
          (m.after d.logged).1.key? g.id = some (.auto n)) ∧
      ∀ m ∈ hist, m.issues d.logged = false → (m.after d.logged).1.nextKey = m.pool.nextKey := by
  obtain ⟨made, hmade⟩ := h.register
  refine ⟨?_, fun id c => hmade.opened_getElem?,
    fun g g' hg hg' => ⟨⟨fun hid => ?_, fun hsame => ?_⟩,
      fun known hd henv => ⟨fun hid => ?_, fun hconn => ?_⟩, fun hunforged hid => ?_⟩,
    ?_, fun n m => h.lends_issued, fun m _ hm => ?_⟩
  · rw [← hmade.conns, List.length_map, ← List.length_map (f := Handle.id), hmade.ids,
      List.length_range]
  · exact hmade.isSame_of_id_eq hg.hasHad hg'.hasHad hid
  · exact (Handle.isSame_iff.mp hsame).1
  · exact (Handle.isSame_iff.mp (hmade.isSame_of_id_eq hg.hasHad hg'.hasHad hid)).2
  · exact hmade.id_eq_of_conn_eq (h.openedOnce hd henv).2 hg.hasHad hg'.hasHad hconn
  · rw [hmade.eq_of_id_eq (hmade.exact hunforged g hg.hasHad) (hmade.exact hunforged g' hg'.hasHad)
      hid]
  · rw [← List.length_map (f := fun m => m.pool.nextKey), h.issuing, List.length_range]
  · rw [Moment.nextKey_after, hm]
    rfl

/-- The first attempt of a factory fails. Then two connections are lent, one of them without a key,
and when that has been handed back to be closed, a third one is lent without a key. The three have
the first three numbers, and the keys are the first two. -/
theorem issued_once_in_order_after_failure :
    ∃ hist p w log g g', Reached (World.driver 0 .manual).logged (silently World.Later)
        { minConnections := 0, maxConnections := 2 } ({ backends := [{ refusals := 1 }] }, [])
        hist (p, w, log) ∧
      hist.length = 5 ∧ p.nextId = 3 ∧ opened log = [0, 1, 2] ∧
      HasLent (World.driver 0 .manual).logged hist g ∧
      HasLent (World.driver 0 .manual).logged hist g' ∧ g.id ≠ g'.id ∧ g.conn ≠ g'.conn ∧
      p.nextKey = 2 ∧ p.held.get? (.auto 1) = some g' := by
  have h : Reached (World.driver 0 .manual).logged (silently World.Later)
      { minConnections := 0, maxConnections := 2 } ({ backends := [{ refusals := 1 }] }, [])
      _ (_, _, _) :=
    ⟨_, _, rfl, ((((Run.start.serve (.acquire none)).serve (.acquire none)).serve
      (.acquire (some (.named "b")))).serve (.release ⟨0, 0, Instant.start⟩ none true)).serve
      (.acquire none)⟩
  obtain ⟨hnext, _, hlent, hkeys, _⟩ := issued_once_in_order h
  refine ⟨_, _, _, _, ⟨0, 0, Instant.start⟩, ⟨2, 2, Instant.start⟩, h, rfl, hnext, rfl, ?_⟩
  suffices hboth : HasLent _ _ _ ∧ HasLent _ _ _ from
    have hconn := ((hlent _ _ hboth.1 hboth.2).2.1 World.Known (World.driver_opensNew 0 .manual)
      fun _ _ hlater _ => hlater.known).not
    ⟨hboth.1, hboth.2, by decide, hconn.mp (by decide), hkeys.symm, rfl⟩
  constructor
  · exact ⟨_, .tail _ (.tail _ (.tail _ (.head _))), .auto 0, none, rfl, rfl, rfl⟩
  · exact ⟨_, .head _, .auto 1, none, rfl, rfl, rfl⟩

end Pool

end ConnPool
