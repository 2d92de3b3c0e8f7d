import ConnPool.Proofs.Pool.Outcomes
import Mathlib.Data.List.Induction

/-!
# Requests in small steps

Serving a request means doing a number of things to one connection after the other. In
this file each of them is a step, `ConnPool.Pool.Move`, and serving is a sequence of
steps (`ConnPool.Pool.serve_moves`). A step begins and ends where every connection is
accounted for: one that is taken off the idle stack is, by the end of the same step,
dropped or checked out, and one that has come back is dropped or idle again. So a
property of pools that is kept by each step is kept by whole requests
(`ConnPool.Pool.serve_invariant`), and its proof never meets a pool with a connection
in hand.

The one request with an order of its own is the eviction of idle connections: it drops
them from the bottom of the stack upwards, while the pool is changed in one go.
`ConnPool.Pool.evict_moves` brings the two together.
-/

namespace ConnPool

open Relation (ReflTransGen)

/-- The world after closing some connections is the world after closing the first and
then the others. -/
@[simp] theorem Driver.closeEach_cons {W C ε : Type} (d : Driver W C ε) (h : Handle C)
    (rest : List (Handle C)) (w : W) :
    (d.closeEach (h :: rest) w).2 = (d.closeEach rest (d.shut h.conn w).2).2 := rfl

namespace Pool

variable {W C ε : Type} {d : Driver W C ε}

/-- The connections a pool closes last are those that are checked out. -/
theorem mem_heldHandles {p : Pool C} {h : Handle C} :
    h ∈ p.heldHandles ↔ ∃ k, p.held.get? k = some h := by
  rw [heldHandles, List.mem_mergeSort, Table.mem_values]

/-! ### Filling a pool up -/

/-- **One attempt to fill a pool up** that is short of its floor. -/
inductive Opens (d : Driver W C ε) : Pool C × W → Pool C × W → Prop
  /-- The factory fails. -/
  | failed {p : Pool C} {w w' : W} {e : ε} (hopen : p.closed = false)
      (hshort : p.size < p.config.floor) (hconnect : d.connect w = (.error e, w')) :
      Opens d (p, w) (p, w')
  /-- A connection is opened and put on the idle stack. -/
  | added {p : Pool C} {w w₁ w₂ w₃ : W} {conn : C} {now since : Instant}
      (hopen : p.closed = false) (hshort : p.size < p.config.floor)
      (hconnect : d.connect w = (.ok conn, w₁)) (hnow : d.now w₁ = (now, w₂))
      (hsince : d.now w₂ = (since, w₃)) :
      Opens d (p, w) (p.number.stack ⟨p.nextId, conn, now⟩ since, w₃)

/-- Filling a pool up touches nobody's checkout. -/
theorem opens_held_eq {s s' : Pool C × W} (h : ReflTransGen (Opens d) s s') :
    s'.1.held = s.1.held := by
  refine steps_invariant (I := fun t => t.1.held = s.1.held) ?_ h rfl
  intro t t' hopens ht
  cases hopens with
  | failed _ _ _ => exact ht
  | added _ _ _ _ _ => exact ht

theorem openIdle_opens (d : Driver W C ε) {n : Nat} {p : Pool C} {w : W}
    (hopen : p.closed = false) (hn : n ≤ p.config.floor - p.size) :
    ReflTransGen (Opens d) (p, w) (openIdle d n p w) := by
  induction n generalizing p w with
  | zero => exact .refl
  | succ n ih =>
    have hshort : p.size < p.config.floor := by omega
    obtain ⟨result, w₁, hconnect⟩ : ∃ result w₁, d.connect w = (result, w₁) := ⟨_, _, rfl⟩
    cases result with
    | error e =>
      simp only [openIdle, connect, hconnect]
      exact .single (.failed hopen hshort hconnect)
    | ok conn =>
      simp only [openIdle, connect, hconnect, shelve]
      -- the number of connections missing is fixed beforehand; each one opened is one less
      refine .head (.added hopen hshort hconnect rfl rfl) (ih hopen ?_)
      simp only [size, number, stack, List.length_cons] at hn ⊢
      omega

theorem refill_opens (d : Driver W C ε) {p : Pool C} {w : W} (hopen : p.closed = false) :
    ReflTransGen (Opens d) (p, w) (p.refill d w) :=
  openIdle_opens d hopen (Nat.le_refl _)

/-- **A new pool** has valid settings, and is an empty one that has been filled up. -/
theorem build_opens {config : Config} {w w' : W} {p : Pool C}
    (h : build d config w = (.ok p, w')) :
    config.Valid ∧ ReflTransGen (Opens d) (fresh config, w) (p, w') := by
  rw [build] at h
  cases hvalid : config.validate with
  | error defect => simp [hvalid] at h
  | ok _ =>
    simp only [hvalid, Prod.mk.injEq, Except.ok.injEq] at h
    obtain ⟨rfl, rfl⟩ := h
    exact ⟨Config.validate_eq_ok_iff.mp hvalid, refill_opens d rfl⟩

/-! ### The steps of a request -/

variable [DecidableEq C]

/-- **One step of serving a request.** -/
inductive Move (d : Driver W C ε) : Request (Handle C) → Pool C × W → Pool C × W → Prop
  /-- Acquiring, the connection on top of the idle stack is lost. -/
  | discard {key : Option Key} {s s' : Pool C × W} (hopen : s.1.closed = false)
      (hdrop : Drop d s s') : Move d (.acquire key) s s'
  /-- Acquiring, the connection on top of the idle stack is handed out. -/
  | reuse {key : Option Key} {p : Pool C} {w w' : W} {h : Handle C} {rest : List (Handle C)}
      {outcome : RecycleOutcome} (hopen : p.closed = false)
      (hfree : key.bind p.held.get? = none) (htop : p.idle = h :: rest)
      (hcheck : d.recycle h.conn w = (outcome, w')) (hgood : outcome.isReusable = true) :
      Move d (.acquire key) (p, w) ((p.unstack h rest).checkOut key h, w')
  /-- Acquiring, no connection can be opened. -/
  | fail {key : Option Key} {p : Pool C} {w w' : W} {e : ε} (hopen : p.closed = false)
      (hempty : p.idle = []) (hroom : p.held.size < p.config.capacity)
      (hconnect : d.connect w = (.error e, w')) : Move d (.acquire key) (p, w) (p, w')
  /-- Acquiring, a connection is opened and handed out. -/
  | lend {key : Option Key} {p : Pool C} {w w₁ w₂ : W} {conn : C} {now : Instant}
      (hopen : p.closed = false) (hfree : key.bind p.held.get? = none) (hempty : p.idle = [])
      (hroom : p.held.size < p.config.capacity) (hconnect : d.connect w = (.ok conn, w₁))
      (hnow : d.now w₁ = (now, w₂)) :
      Move d (.acquire key) (p, w) (p.number.checkOut key ⟨p.nextId, conn, now⟩, w₂)
  /-- Releasing, a checkout ends. -/
  | giveBack {h : Handle C} {key : Option Key} {force : Bool} {p : Pool C} {w : W} {k : Key}
      {s : Pool C × W} (hk : p.checkout? h key = some k)
      (hs : Disposed d h force (p.checkIn k h, w) s) : Move d (.release h key force) (p, w) s
  /-- Releasing, the pool is filled up. -/
  | refill {h : Handle C} {key : Option Key} {force : Bool} {s s' : Pool C × W}
      (hopens : Opens d s s') : Move d (.release h key force) s s'
  /-- Pruning, the clock is read. -/
  | look {p : Pool C} {w : W} (hopen : p.closed = false) : Move d .prune (p, w) (p, (d.now w).2)
  /-- Pruning, an idle connection is evicted. -/
  | evict {p : Pool C} {w : W} {h : Handle C} {above below : List (Handle C)}
      (hopen : p.closed = false) (hidle : p.idle = above ++ h :: below) :
      Move d .prune (p, w) (p.unstack h (above ++ below), (d.shut h.conn w).2)
  /-- Closing the pool, a connection it owns is closed. -/
  | shut {p : Pool C} {w : W} {h : Handle C} (hown : h ∈ p.idle ∨ ∃ k, p.held.get? k = some h) :
      Move d .closeAll (p, w) (p, (d.shut h.conn w).2)
  /-- Closing the pool, it is marked as closed. -/
  | close {p : Pool C} {w : W} : Move d .closeAll (p, w) ({ p with closed := true }, w)

/-! ### Serving is moving -/

theorem drops_moves {key : Option Key} {s s' : Pool C × W} (h : ReflTransGen (Drop d) s s')
    (hopen : s.1.closed = false) : ReflTransGen (Move d (.acquire key)) s s' := by
  induction h with
  | refl => exact .refl
  | tail hdrops hdrop ih =>
    exact ih.tail (.discard ((drops_closed hdrops).trans hopen) hdrop)

theorem acquire_moves (d : Driver W C ε) (key : Option Key) (p : Pool C) (w : W) :
    ReflTransGen (Move d (.acquire key)) (p, w) (p.acquire d key w).2 := by
  have hend := acquired d key p w
  generalize p.acquire d key w = result at hend ⊢
  cases hend with
  | closed _ => exact .refl
  | served _ _ => exact .refl
  | reused hopen hfree hdrops htop hcheck hgood =>
    have hopen' := (drops_closed hdrops).trans hopen
    have hfree' := (drops_held hdrops) ▸ hfree
    exact (drops_moves hdrops hopen).tail (.reuse hopen' hfree' htop hcheck hgood)
  | exhausted hopen _ hdrops _ _ => exact drops_moves hdrops hopen
  | failed hopen _ hdrops hempty hroom hconnect =>
    have hopen' := (drops_closed hdrops).trans hopen
    have hroom' := (drops_held hdrops) ▸ (drops_config hdrops) ▸ hroom
    exact (drops_moves hdrops hopen).tail (.fail hopen' hempty hroom' hconnect)
  | opened hopen hfree hdrops hempty hroom hconnect hnow =>
    have hopen' := (drops_closed hdrops).trans hopen
    have hfree' := (drops_held hdrops) ▸ hfree
    have hroom' := (drops_held hdrops) ▸ (drops_config hdrops) ▸ hroom
    exact (drops_moves hdrops hopen).tail
      (.lend hopen' hfree' hempty hroom' hconnect hnow)

theorem release_moves (d : Driver W C ε) (h : Handle C) (key : Option Key) (force : Bool)
    (p : Pool C) (w : W) :
    ReflTransGen (Move d (.release h key force)) (p, w) (p.release d h key force w).2 := by
  have hend := released d h key force p w
  generalize p.release d h key force w = result at hend ⊢
  cases hend with
  | unknown _ => exact .refl
  | late hk hs _ => exact .single (.giveBack hk hs)
  | @ended k s hk hs hopen =>
    have hrefill := refill_opens d (w := s.2) (hs.closed_eq.trans hopen)
    exact .head (.giveBack hk hs) (hrefill.lift id fun _ _ => .refill)

/-- **Evicting from the bottom of the stack upwards.** Above a part of the stack that
is done with, the connections chosen by `f` are closed one after the other; what is left
is the rest of the stack, without the stamps of those that are gone. -/
theorem evict_moves (d : Driver W C ε) (f : Handle C → Bool) (todo done : List (Handle C))
    {p : Pool C} {w : W} (hopen : p.closed = false) (hidle : p.idle = todo ++ done) :
    ReflTransGen (Move d .prune) (p, w)
      ({ p with
          idle := (todo.filter fun h => !f h) ++ done
          stamps := p.stamps.eraseAll ((todo.filter f).map Handle.id) },
        (d.closeEach (todo.filter f).reverse w).2) := by
  -- the last connection of `todo` is the first to be closed
  induction todo using List.reverseRecOn generalizing done p w with
  | nil =>
    have hp : { p with idle := [] ++ done, stamps := p.stamps.eraseAll [] } = p := by
      rw [Table.eraseAll_nil, ← hidle]
    change ReflTransGen _ _ ({ p with idle := [] ++ done, stamps := p.stamps.eraseAll [] }, w)
    rw [hp]
  | append_singleton todo h ih =>
    cases hf : f h with
    | true =>
      have hmove : Move d .prune (p, w) (p.unstack h (todo ++ done), (d.shut h.conn w).2) :=
        .evict hopen (by rw [hidle, List.append_assoc, List.singleton_append])
      refine .head hmove ?_
      have hrest := ih done (p := p.unstack h (todo ++ done)) (w := (d.shut h.conn w).2) hopen rfl
      simpa only [unstack, Table.eraseAll_erase, List.filter_append, List.filter_cons,
        List.filter_nil, hf, Bool.not_true, Bool.false_eq_true, if_false, if_true,
        List.append_nil, List.map_append, List.map_singleton, List.reverse_append,
        List.reverse_singleton, List.singleton_append, Driver.closeEach_cons] using hrest
    | false =>
      have hrest := ih (h :: done) (p := p) (w := w) hopen
        (by rw [hidle, List.append_assoc, List.singleton_append])
      simpa only [List.filter_append, List.filter_cons, List.filter_nil, hf, Bool.not_false,
        Bool.false_eq_true, if_false, if_true, List.append_nil, List.append_assoc,
        List.singleton_append] using hrest

theorem prune_moves (d : Driver W C ε) (p : Pool C) (w : W) :
    ReflTransGen (Move d .prune) (p, w) (p.prune d w).2 := by
  rw [prune]
  cases hskip : p.closed || !p.config.evictsIdle with
  | true => exact .refl
  | false =>
    have hopen : p.closed = false := (Bool.or_eq_false_iff.mp hskip).1
    have hevict := evict_moves d (p.expired (d.now w).1) p.idle [] (w := (d.now w).2) hopen
      (List.append_nil _).symm
    simp only [Bool.false_eq_true, if_false, List.partition_eq_filter_filter]
    rw [List.append_nil] at hevict
    exact .head (.look hopen) hevict

theorem closeEach_moves (d : Driver W C ε) {p : Pool C} (l : List (Handle C))
    (hl : ∀ h ∈ l, h ∈ p.idle ∨ ∃ k, p.held.get? k = some h) (w : W) :
    ReflTransGen (Move d .closeAll) (p, w) (p, (d.closeEach l w).2) := by
  induction l generalizing w with
  | nil => exact .refl
  | cons h l ih =>
    refine .head (.shut (hl h List.mem_cons_self)) ?_
    exact ih (fun g hg => hl g (List.mem_cons_of_mem h hg)) (d.shut h.conn w).2

theorem closeAll_moves (d : Driver W C ε) (p : Pool C) (w : W) :
    ReflTransGen (Move d .closeAll) (p, w) (p.closeAll d w).2 := by
  refine (closeEach_moves d (p.idleHandles ++ p.heldHandles) (fun h hh => ?_) w).tail .close
  rcases List.mem_append.mp hh with hidle | hheld
  · exact Or.inl (List.mem_reverse.mp hidle)
  · exact Or.inr (mem_heldHandles.mp hheld)

/-- **Serving a request is a sequence of steps.** -/
theorem serve_moves (d : Driver W C ε) (r : Request (Handle C)) (p : Pool C) (w : W) :
    ReflTransGen (Move d r) (p, w) (p.serve d r w).2 := by
  cases r with
  | acquire key => exact acquire_moves d key p w
  | release h key force => exact release_moves d h key force p w
  | prune => exact prune_moves d p w
  | closeAll => exact closeAll_moves d p w

/-- What every step of a request keeps, the request keeps. -/
theorem serve_invariant {I : Pool C × W → Prop} {r : Request (Handle C)}
    (hmove : ∀ s s', Move d r s s' → I s → I s') {p : Pool C} {w : W} (h : I (p, w)) :
    I (p.serve d r w).2 :=
  steps_invariant hmove (serve_moves d r p w) h

end Pool

end ConnPool
