import ConnPool.Proofs.Pool.Ownership
import ConnPool.Proofs.Table

/-!
# Other names for the borrowers

A caller chooses the name it is served under, and all a pool ever does with a name is to
compare it with another. So nothing changes if everybody goes by another name, as long as two
borrowers do not come to share one.

This file runs two pools side by side. One is **renamed** (`ConnPool.Pool.Renamed`): it has the
books of the other, with every name replaced and with the entries of its tables in any order.
It is asked what the other is asked, with the names replaced as well
(`ConnPool.Request.rename`). Function by function, the two give the same answers, make the same
calls in the same order, and one is still the renamed other afterwards
(`ConnPool.Pool.Renamed.serve`).

The worlds of the two pools need not be the same world. They only have to look the same to the
pools, and to go on doing so (`ConnPool.Driver.Conceals`).
-/

namespace ConnPool

open Function (Injective)

/-! ### Names -/

/-- The key with another name; an issued key has none. -/
def Key.rename (r : String → String) : Key → Key
  | auto n => auto n
  | named name => named (r name)

theorem Key.rename_injective {r : String → String} (hr : Injective r) :
    Injective (Key.rename r) := by
  intro k l h
  cases k with
  | auto n =>
    cases l with
    | auto m => exact congrArg auto (auto.inj h)
    | named _ => cases h
  | named name =>
    cases l with
    | auto _ => cases h
    | named other => exact congrArg named (hr (named.inj h))

/-- The request with another name in it. -/
def Request.rename {H : Type} (r : String → String) : Request H → Request H
  | acquire key => acquire (key.map (Key.rename r))
  | release h key force => release h (key.map (Key.rename r)) force
  | prune => prune
  | closeAll => closeAll

variable {W C ε α : Type} {d : Driver W C ε} {R : W → W → Prop} {w w' : W}

/-! ### Worlds that look the same -/

namespace Driver

/-- The same answer, in worlds that look the same. -/
def Alike (R : W → W → Prop) (x y : α × W) : Prop :=
  ∃ a v v', x = (a, v) ∧ y = (a, v') ∧ R v v'

theorem Alike.mk (a : α) (h : R w w') : Alike R (a, w) (a, w') := ⟨a, w, w', rfl, rfl, h⟩

/-- **A driver conceals a difference between worlds**: whatever it is asked to do, it gives the
same answer in both, and the worlds afterwards differ in that way at most. -/
structure Conceals (d : Driver W C ε) (R : W → W → Prop) : Prop where
  connect : ∀ {w w' : W}, R w w' → Alike R (d.connect w) (d.connect w')
  close : ∀ (c : C) {w w' : W}, R w w' → Alike R (d.close c w) (d.close c w')
  isClosed : ∀ (c : C) {w w' : W}, R w w' → Alike R (d.isClosed c w) (d.isClosed c w')
  status : ∀ (c : C) {w w' : W}, R w w' → Alike R (d.status c w) (d.status c w')
  rollback : ∀ (c : C) {w w' : W}, R w w' → Alike R (d.rollback c w) (d.rollback c w')
  now : ∀ {w w' : W}, R w w' → Alike R (d.now w) (d.now w')

/-- Every driver conceals that there is no difference. -/
theorem conceals_eq (d : Driver W C ε) : d.Conceals Eq where
  connect h := h ▸ .mk _ rfl
  close _ _ _ h := h ▸ .mk _ rfl
  isClosed _ _ _ h := h ▸ .mk _ rfl
  status _ _ _ h := h ▸ .mk _ rfl
  rollback _ _ _ h := h ▸ .mk _ rfl
  now h := h ▸ .mk _ rfl

namespace Conceals

theorem recycle (hd : d.Conceals R) (c : C) (hw : R w w') :
    Alike R (d.recycle c w) (d.recycle c w') := by
  obtain ⟨closed, w₁, w₁', h₁, h₁', hw₁⟩ := hd.isClosed c hw
  rw [Driver.recycle, Driver.recycle, h₁, h₁']
  cases closed with
  | true => exact .mk _ hw₁
  | false =>
    obtain ⟨status, w₂, w₂', h₂, h₂', hw₂⟩ := hd.status c hw₁
    simp only [h₂, h₂']
    obtain ⟨result, w₃, w₃', h₃, h₃', hw₃⟩ := hd.rollback c hw₂
    cases status with
    | idle => exact .mk _ hw₂
    | unknown =>
      obtain ⟨_, w₄, w₄', h₄, h₄', hw₄⟩ := hd.close c hw₂
      simp only [h₄, h₄']
      exact .mk _ hw₄
    | _ =>
      simp only [h₃, h₃']
      cases result with
      | ok _ => exact .mk _ hw₃
      | error _ =>
        obtain ⟨_, w₄, w₄', h₄, h₄', hw₄⟩ := hd.close c hw₃
        simp only [h₄, h₄']
        exact .mk _ hw₄

theorem shut (hd : d.Conceals R) (c : C) (hw : R w w') :
    Alike R (d.shut c w) (d.shut c w') := by
  obtain ⟨closed, v, v', hv, hv', hw⟩ := hd.isClosed c hw
  rw [Driver.shut, Driver.shut, hv, hv']
  cases closed with
  | true => exact .mk _ hw
  | false =>
    obtain ⟨result, v, v', hv, hv', hw⟩ := hd.close c hw
    simp only [hv, hv']
    cases result <;> exact .mk _ hw

theorem closeEach (hd : d.Conceals R) (l : List (Handle C)) (hw : R w w') :
    Alike R (d.closeEach l w) (d.closeEach l w') := by
  induction l generalizing w w' with
  | nil => exact .mk _ hw
  | cons h l ih =>
    obtain ⟨result, v, v', hv, hv', hw⟩ := hd.shut h.conn hw
    obtain ⟨attempts, u, u', hu, hu', hw⟩ := ih hw
    simp only [Driver.closeEach, hv, hv', hu, hu']
    exact .mk _ hw

end Conceals

end Driver

/-! ### Renamed pools -/

namespace Pool

open Driver (Alike)

/-- **A pool with other names in its books**, and with the entries of its tables in any
order. -/
structure Renamed (r : String → String) (p q : Pool C) : Prop where
  config : q.config = p.config
  idle : q.idle = p.idle
  stamps : p.stamps.Maps id id q.stamps
  held : p.held.Maps (Key.rename r) id q.held
  borrower : p.borrower.Maps id (Key.rename r) q.borrower
  closed : q.closed = p.closed
  nextKey : q.nextKey = p.nextKey
  nextId : q.nextId = p.nextId

variable {r : String → String} {p q : Pool C}

namespace Renamed

theorem size (h : p.Renamed r q) : q.size = p.size := by
  rw [Pool.size, Pool.size, h.idle, h.held.size]

theorem get?_held (h : p.Renamed r q) (hr : Injective r) (k : Key) :
    q.held.get? (k.rename r) = p.held.get? k := by
  rw [h.held.get? (Key.rename_injective hr), Option.map_id, id]

theorem get?_borrower (h : p.Renamed r q) (id : ConnId) :
    q.borrower.get? id = (p.borrower.get? id).map (Key.rename r) :=
  h.borrower.get? Function.injective_id id

theorem get?_stamps (h : p.Renamed r q) (i : ConnId) : q.stamps.get? i = p.stamps.get? i := by
  have hget := h.stamps.get? Function.injective_id i
  rwa [Option.map_id] at hget

theorem expired (h : p.Renamed r q) (now : Instant) : q.expired now = p.expired now := by
  funext g
  rw [Pool.expired, Pool.expired, h.get?_stamps, h.config]

theorem hasSurplus (h : p.Renamed r q) : q.hasSurplus = p.hasSurplus := by
  rw [Pool.hasSurplus, Pool.hasSurplus, h.config, h.idle]

/-! ### Changes of the bookkeeping -/

theorem number (h : p.Renamed r q) : p.number.Renamed r q.number :=
  { h with nextId := congrArg (· + 1) h.nextId }

theorem stack (h : p.Renamed r q) (g : Handle C) (now : Instant) :
    (p.stack g now).Renamed r (q.stack g now) :=
  { h with
    idle := congrArg (g :: ·) h.idle
    stamps := h.stamps.insert Function.injective_id g.id now }

theorem unstack (h : p.Renamed r q) (g : Handle C) (rest : List (Handle C)) :
    (p.unstack g rest).Renamed r (q.unstack g rest) :=
  { h with
    idle := rfl
    stamps := h.stamps.erase Function.injective_id g.id }

theorem checkIn (h : p.Renamed r q) (hr : Injective r) (k : Key) (g : Handle C) :
    (p.checkIn k g).Renamed r (q.checkIn (k.rename r) g) :=
  { h with
    held := h.held.erase (Key.rename_injective hr) k
    borrower := h.borrower.erase Function.injective_id g.id }

theorem chooseKey (h : p.Renamed r q) (key : Option Key) :
    q.chooseKey (key.map (Key.rename r)) =
      ((p.chooseKey key).1.rename r, (p.chooseKey key).2) := by
  cases key with
  | none => simp only [Option.map_none, Pool.chooseKey, h.nextKey, Key.rename]
  | some k => simp only [Option.map_some, Pool.chooseKey, h.nextKey]

theorem checkOut (h : p.Renamed r q) (hr : Injective r) (key : Option Key) (g : Handle C) :
    (p.checkOut key g).Renamed r (q.checkOut (key.map (Key.rename r)) g) := by
  rw [Pool.checkOut, Pool.checkOut, h.chooseKey]
  exact { h with
    held := h.held.insert (Key.rename_injective hr) _ g
    borrower := h.borrower.insert Function.injective_id g.id _
    nextKey := rfl }

/-! ### Requests -/

/-- Side by side, a pool and its renamed twin. -/
def Twin (r : String → String) (R : W → W → Prop) (x y : Pool C × W) : Prop :=
  ∃ p q v v', x = (p, v) ∧ y = (q, v') ∧ p.Renamed r q ∧ R v v'

/-- Side by side, with the same answer. -/
def Twins (r : String → String) (R : W → W → Prop) (x y : α × Pool C × W) : Prop :=
  ∃ a p q v v', x = (a, p, v) ∧ y = (a, q, v') ∧ p.Renamed r q ∧ R v v'

theorem twin (h : p.Renamed r q) (hw : R w w') : Twin r R (p, w) (q, w') :=
  ⟨p, q, w, w', rfl, rfl, h, hw⟩

theorem twins (a : α) (h : p.Renamed r q) (hw : R w w') : Twins r R (a, p, w) (a, q, w') :=
  ⟨a, p, q, w, w', rfl, rfl, h, hw⟩

theorem connect (h : p.Renamed r q) (hd : d.Conceals R) (hw : R w w') :
    Twins r R (p.connect d w) (q.connect d w') := by
  obtain ⟨result, w₁, w₁', h₁, h₁', hw₁⟩ := hd.connect hw
  rw [Pool.connect, Pool.connect, h₁, h₁']
  cases result with
  | error e => exact twins _ h hw₁
  | ok c =>
    obtain ⟨now, w₂, w₂', h₂, h₂', hw₂⟩ := hd.now hw₁
    simp only [h₂, h₂', h.nextId]
    exact twins _ h.number hw₂

theorem shelve (h : p.Renamed r q) (hd : d.Conceals R) (g : Handle C) (hw : R w w') :
    Twin r R (p.shelve d g w) (q.shelve d g w') := by
  obtain ⟨now, w₁, w₁', h₁, h₁', hw₁⟩ := hd.now hw
  rw [Pool.shelve, Pool.shelve, h₁, h₁']
  exact twin (h.stack g now) hw₁

theorem openIdle (h : p.Renamed r q) (hd : d.Conceals R) (n : Nat) (hw : R w w') :
    Twin r R (openIdle d n p w) (openIdle d n q w') := by
  induction n generalizing p q w w' with
  | zero => exact twin h hw
  | succ n ih =>
    obtain ⟨result, p₁, q₁, w₁, w₁', h₁, h₁', hpool₁, hw₁⟩ := h.connect hd hw
    rw [Pool.openIdle, Pool.openIdle, h₁, h₁']
    cases result with
    | error e => exact twin hpool₁ hw₁
    | ok g =>
      obtain ⟨p₂, q₂, w₂, w₂', h₂, h₂', hpool₂, hw₂⟩ := hpool₁.shelve hd g hw₁
      simp only [h₂, h₂']
      exact ih hpool₂ hw₂

theorem refill (h : p.Renamed r q) (hd : d.Conceals R) (hw : R w w') :
    Twin r R (p.refill d w) (q.refill d w') := by
  rw [Pool.refill, Pool.refill, h.config, h.size]
  exact h.openIdle hd _ hw

theorem reuse (h : p.Renamed r q) (hd : d.Conceals R) (hw : R w w') :
    Twins r R (p.reuse d w) (q.reuse d w') := by
  rw [Pool.reuse, Pool.reuse, h.idle]
  generalize p.idle = stack
  induction stack generalizing p q w w' with
  | nil => exact twins _ h hw
  | cons g rest ih =>
    obtain ⟨outcome, w₁, w₁', h₁, h₁', hw₁⟩ := hd.recycle g.conn hw
    rw [reuseFrom, reuseFrom, h₁, h₁']
    dsimp only
    split
    · exact twins _ (h.unstack g rest) hw₁
    · exact ih (h.unstack g rest) hw₁

/-- **A renamed borrower is served** as it would be under its own name. -/
theorem acquire (h : p.Renamed r q) (hr : Injective r) (hd : d.Conceals R) (key : Option Key)
    (hw : R w w') :
    Twins r R (p.acquire d key w) (q.acquire d (key.map (Key.rename r)) w') := by
  have hserved : (key.map (Key.rename r)).bind q.held.get? = key.bind p.held.get? := by
    cases key with
    | none => rfl
    | some k => exact h.get?_held hr k
  rw [Pool.acquire, Pool.acquire, h.closed, hserved]
  split
  · exact twins _ h hw
  · cases key.bind p.held.get? with
    | some g => exact twins _ h hw
    | none =>
      obtain ⟨found, p₁, q₁, w₁, w₁', h₁, h₁', hpool₁, hw₁⟩ := h.reuse hd hw
      simp only [h₁, h₁']
      cases found with
      | some g => exact twins _ (hpool₁.checkOut hr key g) hw₁
      | none =>
        dsimp only
        rw [hpool₁.config, hpool₁.held.size]
        split
        · exact twins _ hpool₁ hw₁
        · obtain ⟨result, p₂, q₂, w₂, w₂', h₂, h₂', hpool₂, hw₂⟩ := hpool₁.connect hd hw₁
          rw [h₂, h₂']
          cases result with
          | error e => exact twins _ hpool₂ hw₂
          | ok g => exact twins _ (hpool₂.checkOut hr key g) hw₂

theorem dispose (h : p.Renamed r q) (hd : d.Conceals R) (g : Handle C) (force : Bool)
    (hw : R w w') : Twin r R (p.dispose d g force w) (q.dispose d g force w') := by
  rw [Pool.dispose, Pool.dispose, h.closed, h.hasSurplus]
  split
  · obtain ⟨_, w₁, w₁', h₁, h₁', hw₁⟩ := hd.shut g.conn hw
    rw [letGo, letGo, h₁, h₁']
    exact twin h hw₁
  · obtain ⟨outcome, w₁, w₁', h₁, h₁', hw₁⟩ := hd.recycle g.conn hw
    rw [shelveIfUsable, shelveIfUsable, h₁, h₁']
    dsimp only
    split
    · exact h.shelve hd g hw₁
    · exact twin h hw₁

theorem prune (h : p.Renamed r q) (hd : d.Conceals R) (hw : R w w') :
    Twins r R (p.prune d w) (q.prune d w') := by
  rw [Pool.prune, Pool.prune, h.closed, h.config]
  split
  · exact twins _ h hw
  · obtain ⟨now, w₁, w₁', h₁, h₁', hw₁⟩ := hd.now hw
    simp only [h₁, h₁', h.idle, h.expired, List.partition_eq_filter_filter]
    obtain ⟨attempts, w₂, w₂', h₂, h₂', hw₂⟩ :=
      hd.closeEach (p.idle.filter (p.expired now)).reverse hw₁
    rw [h₂, h₂']
    refine twins _ { h with config := rfl, idle := rfl, stamps := ?_, closed := rfl } hw₂
    have herased := h.stamps.eraseAll Function.injective_id
      ((p.idle.filter (p.expired now)).map Handle.id)
    rwa [List.map_id] at herased

/-- Closing the connections that are checked out in the same order. -/
theorem closeIn (h : p.Renamed r q) (hd : d.Conceals R) (order : List (Handle C))
    (hw : R w w') : Twins r R (p.closeIn d order w) (q.closeIn d order w') := by
  obtain ⟨attempts, w₁, w₁', h₁, h₁', hw₁⟩ := hd.closeEach (p.idleHandles ++ order) hw
  have hidle : q.idleHandles = p.idleHandles := congrArg List.reverse h.idle
  rw [Pool.closeIn, Pool.closeIn, hidle, h₁, h₁']
  exact twins _ { h with closed := rfl } hw₁

/-- The same connections are checked out. -/
theorem values_held (h : p.Renamed r q) : q.held.values.Perm p.held.values := by
  have hvalues := h.held.values
  rwa [List.map_id] at hvalues

/-- By their numbers they come in the same order, if no number is there twice. -/
theorem heldHandles (h : p.Renamed r q) (hp : p.Consistent) :
    q.heldHandles = p.heldHandles := by
  have hsorted : ∀ l : List (Handle C),
      (l.mergeSort fun g k => g.id ≤ k.id).Pairwise fun g k => decide (g.id ≤ k.id) = true :=
    List.pairwise_mergeSort (fun _ _ _ hgk hkl =>
        decide_eq_true (Nat.le_trans (of_decide_eq_true hgk) (of_decide_eq_true hkl)))
      fun g k => by simpa using Nat.le_total g.id k.id
  have hperm : q.heldHandles.Perm p.heldHandles :=
    (List.mergeSort_perm _ _).trans (h.values_held.trans (List.mergeSort_perm _ _).symm)
  refine hperm.eq_of_pairwise (fun g k hg hk hgk hkg => ?_) (hsorted _) (hsorted _)
  obtain ⟨l, hl⟩ := mem_heldHandles.mp (hperm.mem_iff.mp hg)
  obtain ⟨m, hm⟩ := mem_heldHandles.mp hk
  have hid : g.id = k.id := Nat.le_antisymm (of_decide_eq_true hgk) (of_decide_eq_true hkg)
  rw [hp.held_inj hl hm hid, hm] at hl
  exact (Option.some.inj hl).symm

variable [DecidableEq C]

theorem checkout? (h : p.Renamed r q) (hr : Injective r) (g : Handle C) (key : Option Key) :
    q.checkout? g (key.map (Key.rename r)) = (p.checkout? g key).map (Key.rename r) := by
  have hkey : (key.map (Key.rename r)).or (q.borrower.get? g.id) =
      (key.or (p.borrower.get? g.id)).map (Key.rename r) := by
    rw [h.get?_borrower]
    cases key <;> rfl
  rw [Pool.checkout?, Pool.checkout?, hkey]
  cases key.or (p.borrower.get? g.id) with
  | none => rfl
  | some k =>
    rw [Option.map_some, Option.filter_some, Option.filter_some, h.get?_held hr]
    split <;> rfl

theorem release (h : p.Renamed r q) (hr : Injective r) (hd : d.Conceals R) (g : Handle C)
    (key : Option Key) (force : Bool) (hw : R w w') :
    Twins r R (p.release d g key force w)
      (q.release d g (key.map (Key.rename r)) force w') := by
  rw [Pool.release, Pool.release, h.checkout? hr]
  cases p.checkout? g key with
  | none =>
    rw [Option.map_none, h.closed]
    exact twins _ h hw
  | some k =>
    obtain ⟨p₁, q₁, w₁, w₁', h₁, h₁', hpool₁, hw₁⟩ :=
      (h.checkIn hr k g).dispose hd g force hw
    simp only [Option.map_some, h₁, h₁', hpool₁.closed]
    split
    · exact twins _ hpool₁ hw₁
    · obtain ⟨p₂, q₂, w₂, w₂', h₂, h₂', hpool₂, hw₂⟩ := hpool₁.refill hd hw₁
      rw [h₂, h₂']
      exact twins _ hpool₂ hw₂

/-- **A renamed request to a renamed pool** is answered as the request to the pool. -/
theorem serve (h : p.Renamed r q) (hr : Injective r) (hd : d.Conceals R) (hp : p.Consistent)
    (request : Request (Handle C)) (hw : R w w') :
    Twins r R (p.serve d request w) (q.serve d (request.rename r) w') := by
  cases request with
  | acquire key =>
    obtain ⟨result, p₁, q₁, w₁, w₁', h₁, h₁', hpool₁, hw₁⟩ := h.acquire hr hd key hw
    simp only [Request.rename, Pool.serve, h₁, h₁']
    exact twins _ hpool₁ hw₁
  | release g key force =>
    obtain ⟨result, p₁, q₁, w₁, w₁', h₁, h₁', hpool₁, hw₁⟩ := h.release hr hd g key force hw
    simp only [Request.rename, Pool.serve, h₁, h₁']
    exact twins _ hpool₁ hw₁
  | prune =>
    obtain ⟨report, p₁, q₁, w₁, w₁', h₁, h₁', hpool₁, hw₁⟩ := h.prune hd hw
    simp only [Request.rename, Pool.serve, h₁, h₁']
    exact twins _ hpool₁ hw₁
  | closeAll =>
    obtain ⟨report, p₁, q₁, w₁, w₁', h₁, h₁', hpool₁, hw₁⟩ := h.closeIn hd p.heldHandles hw
    simp only [Request.rename, Pool.serve, closeAll, h.heldHandles hp, h₁, h₁']
    exact twins _ hpool₁ hw₁

end Renamed

end Pool

end ConnPool
