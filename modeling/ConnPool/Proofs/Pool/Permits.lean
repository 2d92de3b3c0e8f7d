import ConnPool.Proofs.Pool.Leaks

/-!
# What a request permits

A pool has its hands on many connections, and while it answers a request it closes some of
them and rolls others back. Which ones that may be depends on the request, and
`ConnPool.Pool.Permits` says it for each: acquiring may touch what is idle, releasing what is
handed back and nothing else – and not even that unless the release ends a checkout –,
pruning may close what it evicts, and closing the pool what the pool owns.

The calls a request comes to are read off the log of its driver (`ConnPool.Pool.calls`), and
every one of them is permitted (`ConnPool.Pool.calls_permitted`). That is so over every
driver: nothing is assumed of the connections here, not even that they are different.
-/

namespace ConnPool

variable {W C ε : Type} {d : Driver W C ε}

namespace Driver

/-! ### Calls that touch a connection -/

/-- **A call touches a connection**: it closes it or rolls it back. -/
inductive Call.Touches : Call C ε → C → Prop
  | close (c : C) (result : Except ε Unit) : Call.Touches (.close c result) c
  | rollback (c : C) (result : Except ε Unit) : Call.Touches (.rollback c result) c

/-- A call touches one connection at most. -/
theorem Call.Touches.unique {call : Call C ε} {c c' : C} (h : call.Touches c)
    (h' : call.Touches c') : c = c' := by
  cases h <;> cases h' <;> rfl

/-- Calls have been added to the log, all of them of some kind. -/
def Adds (P : Call C ε → Prop) (s s' : W × List (Call C ε)) : Prop :=
  ∃ calls, s'.2 = s.2 ++ calls ∧ ∀ call ∈ calls, P call

section Adds

variable {P Q : Call C ε → Prop} {s s' s'' : W × List (Call C ε)} {c : C}

theorem Adds.of_eq (h : s'.2 = s.2) : Adds P s s' :=
  ⟨[], h.trans (List.append_nil _).symm, fun _ hmem => absurd hmem List.not_mem_nil⟩

theorem Adds.of_append {call : Call C ε} (h : s'.2 = s.2 ++ [call]) (hcall : P call) :
    Adds P s s' :=
  ⟨[call], h, fun _ hmem => List.mem_singleton.mp hmem ▸ hcall⟩

theorem Adds.trans (h : Adds P s s') (h' : Adds P s' s'') : Adds P s s'' := by
  obtain ⟨calls, hcalls, hall⟩ := h
  obtain ⟨calls', hcalls', hall'⟩ := h'
  exact ⟨calls ++ calls', by rw [hcalls', hcalls, List.append_assoc],
    List.forall_mem_append.mpr ⟨hall, hall'⟩⟩

theorem Adds.mono (h : Adds P s s') (hPQ : ∀ call, P call → Q call) : Adds Q s s' := by
  obtain ⟨calls, hcalls, hall⟩ := h
  exact ⟨calls, hcalls, fun call hmem => hPQ call (hall call hmem)⟩

theorem adds_connect {result : Except ε C} (h : d.logged.connect s = (result, s')) :
    Adds (· = .connect result) s s' := by
  cases h
  exact .of_append rfl rfl

theorem adds_now {reading : Instant} (h : d.logged.now s = (reading, s')) : Adds P s s' := by
  cases h
  exact .of_eq rfl

theorem adds_isClosed {answer : Bool} (h : d.logged.isClosed c s = (answer, s')) :
    Adds P s s' := by
  cases h
  exact .of_eq rfl

theorem adds_status {answer : TxStatus} (h : d.logged.status c s = (answer, s')) :
    Adds P s s' := by
  cases h
  exact .of_eq rfl

theorem adds_close {result : Except ε Unit} (h : d.logged.close c s = (result, s')) :
    Adds (· = .close c result) s s' := by
  cases h
  exact .of_append rfl rfl

theorem adds_rollback {result : Except ε Unit} (h : d.logged.rollback c s = (result, s')) :
    Adds (· = .rollback c result) s s' := by
  cases h
  exact .of_append rfl rfl

/-- **The recycle check touches the connection it is run on**, and no other. -/
theorem adds_recycle {outcome : RecycleOutcome} (h : d.logged.recycle c s = (outcome, s')) :
    Adds (·.Touches c) s s' := by
  have hclose : ∀ {v v'} {result : Except ε Unit}, d.logged.close c v = (result, v') →
      Adds (·.Touches c) v v' := fun h => (adds_close h).mono fun _ hcall => hcall ▸ .close c _
  have hrollback : ∀ {v v'} {result : Except ε Unit}, d.logged.rollback c v = (result, v') →
      Adds (·.Touches c) v v' :=
    fun h => (adds_rollback h).mono fun _ hcall => hcall ▸ .rollback c _
  have hend := recycled d.logged c s
  rw [h] at hend
  cases hend with
  | alreadyClosed h₁ => exact adds_isClosed h₁
  | reusable h₁ h₂ => exact (adds_isClosed h₁).trans (adds_status h₂)
  | statusUnknown h₁ h₂ h₃ => exact (adds_isClosed h₁).trans ((adds_status h₂).trans (hclose h₃))
  | rolledBack h₁ h₂ _ _ h₃ =>
    exact (adds_isClosed h₁).trans ((adds_status h₂).trans (hrollback h₃))
  | rollbackFailed h₁ h₂ _ _ h₃ h₄ =>
    exact (adds_isClosed h₁).trans ((adds_status h₂).trans ((hrollback h₃).trans (hclose h₄)))

/-- **Shutting a connection closes it**, or does nothing. -/
theorem adds_shut {result : Except ε Bool} (h : d.logged.shut c s = (result, s')) :
    Adds (fun call => ∃ result, call = .close c result) s s' := by
  have hend := shutDown d.logged c s
  rw [h] at hend
  cases hend with
  | alreadyClosed h₁ => exact adds_isClosed h₁
  | closed h₁ h₂ => exact (adds_isClosed h₁).trans ((adds_close h₂).mono fun _ hcall => ⟨_, hcall⟩)
  | failed h₁ h₂ => exact (adds_isClosed h₁).trans ((adds_close h₂).mono fun _ hcall => ⟨_, hcall⟩)

theorem adds_closeEach (d : Driver W C ε) (l : List (Handle C)) (s : W × List (Call C ε)) :
    Adds (fun call => ∃ h ∈ l, ∃ result, call = .close h.conn result) s
      (d.logged.closeEach l s).2 := by
  induction l generalizing s with
  | nil => exact .of_eq rfl
  | cons h l ih =>
    rw [closeEach_cons]
    refine ((adds_shut rfl).mono ?_).trans ((ih _).mono ?_)
    · rintro call ⟨result, hcall⟩
      exact ⟨h, List.mem_cons_self, result, hcall⟩
    · rintro call ⟨g, hg, result, hcall⟩
      exact ⟨g, List.mem_cons_of_mem h hg, result, hcall⟩

end Adds

end Driver

namespace Pool

open Driver (Adds Call)
open Relation (ReflTransGen)

/-! ### Parts of a request -/

/-- The search of the idle stack touches idle connections only. -/
theorem drops_adds {t t' : Pool C × W × List (Call C ε)}
    (h : ReflTransGen (Drop d.logged) t t') :
    t'.1.idle <:+ t.1.idle ∧
      Adds (fun call => ∃ g ∈ t.1.idle, call.Touches g.conn) t.2 t'.2 := by
  induction h with
  | refl => exact ⟨List.suffix_rfl, .of_eq rfl⟩
  | tail _ hdrop ih =>
    obtain ⟨hsuffix, hadds⟩ := ih
    cases hdrop with
    | @mk p w w' g rest outcome htop hcheck _ =>
      have hg : g ∈ t.1.idle := hsuffix.subset (htop ▸ List.mem_cons_self)
      have hrest : rest <:+ p.idle := htop ▸ List.suffix_cons g rest
      exact ⟨hrest.trans hsuffix,
        hadds.trans ((Driver.adds_recycle hcheck).mono fun call hcall => ⟨g, hg, hcall⟩)⟩

/-- Filling a pool up touches no connection. -/
theorem opens_adds {t t' : Pool C × W × List (Call C ε)}
    (h : ReflTransGen (Opens d.logged) t t') :
    Adds (fun call => ∃ result, call = .connect result) t.2 t'.2 := by
  induction h with
  | refl => exact .of_eq rfl
  | tail _ hopens ih =>
    refine ih.trans ?_
    cases hopens with
    | failed _ _ hconnect => exact (Driver.adds_connect hconnect).mono fun _ hcall => ⟨_, hcall⟩
    | added _ _ hconnect hnow hsince =>
      exact ((Driver.adds_connect hconnect).mono fun _ hcall => ⟨_, hcall⟩).trans
        ((Driver.adds_now hnow).trans (Driver.adds_now hsince))

/-- A connection that has come back is touched, and no other. -/
theorem Disposed.adds {g : Handle C} {force : Bool} {t t' : Pool C × W × List (Call C ε)}
    (h : Disposed d.logged g force t t') : Adds (·.Touches g.conn) t.2 t'.2 := by
  cases h with
  | letGo _ =>
    refine (Driver.adds_shut rfl).mono ?_
    rintro _ ⟨result, rfl⟩
    exact .close g.conn result
  | rejected _ hcheck _ => exact Driver.adds_recycle hcheck
  | shelved _ hcheck _ hnow => exact (Driver.adds_recycle hcheck).trans (Driver.adds_now hnow)

/-! ### Requests -/

variable [DecidableEq C]

/-- **What a request permits**: the calls a pool may make while it answers the request. The
pool is `p` before and `q` after it. -/
inductive Permits (p q : Pool C) : Request (Handle C) → Call C ε → Prop
  /-- Acquiring, a connection may be opened. -/
  | lend {key : Option Key} (result : Except ε C) : Permits p q (.acquire key) (.connect result)
  /-- Acquiring, an idle connection may be closed or rolled back. -/
  | reuse {key : Option Key} {h : Handle C} {call : Call C ε} (hidle : h ∈ p.idle)
      (hcall : call.Touches h.conn) : Permits p q (.acquire key) call
  /-- Releasing, the connection may be closed or rolled back if its checkout ends. -/
  | giveBack {h : Handle C} {key : Option Key} {force : Bool} {k : Key} {call : Call C ε}
      (hk : p.checkout? h key = some k) (hcall : call.Touches h.conn) :
      Permits p q (.release h key force) call
  /-- Then connections may be opened as well. -/
  | refill {h : Handle C} {key : Option Key} {force : Bool} {k : Key}
      (hk : p.checkout? h key = some k) (result : Except ε C) :
      Permits p q (.release h key force) (.connect result)
  /-- Pruning, a connection may be closed that is idle before and not after. -/
  | evict {h : Handle C} (hidle : h ∈ p.idle) (hgone : h ∉ q.idle) (result : Except ε Unit) :
      Permits p q .prune (.close h.conn result)
  /-- Closing the pool, a connection it owns may be closed. -/
  | shut {h : Handle C} (hown : h ∈ p.idle ∨ ∃ k, p.held.get? k = some h)
      (result : Except ε Unit) : Permits p q .closeAll (.close h.conn result)

/-- What is touched by a call that is permitted the pool owns. -/
theorem Permits.owns {p q : Pool C} {r : Request (Handle C)} {call : Call C ε} {c : C}
    (h : Permits p q r call) (hc : call.Touches c) : p.Owns c := by
  cases h with
  | lend _ => cases hc
  | reuse hidle hcall => exact hcall.unique hc ▸ owns_of_idle hidle
  | giveBack hk hcall =>
    obtain ⟨_, g, hheld, _, hconn⟩ := checkout?_eq_some_iff.mp hk
    exact hcall.unique hc ▸ hconn ▸ owns_of_held hheld
  | refill _ _ => cases hc
  | evict hidle _ _ => exact (Call.Touches.close _ _).unique hc ▸ owns_of_idle hidle
  | shut hown _ =>
    rw [← (Call.Touches.close _ _).unique hc]
    rcases hown with hidle | ⟨k, hk⟩
    · exact owns_of_idle hidle
    · exact owns_of_held hk

/-- **The calls a request comes to**, in their order. -/
def calls (d : Driver W C ε) (r : Request (Handle C)) (p : Pool C) (w : W) : List (Call C ε) :=
  (p.serve d.logged r (w, [])).2.2.2

/-- With a log a pool does what it does without, and the calls are what is logged. -/
theorem serve_logged (d : Driver W C ε) (r : Request (Handle C)) (p : Pool C) (w : W) :
    p.serve d.logged r (w, []) =
      ((p.serve d r w).1, (p.serve d r w).2.1, (p.serve d r w).2.2, p.calls d r w) := by
  have hsame := serve_project d.projects_logged r p (w, [])
  change p.serve d r w = _ at hsame
  rw [hsame]
  rfl

theorem acquire_adds (d : Driver W C ε) (key : Option Key) (p q : Pool C)
    (s : W × List (Call C ε)) :
    Adds (Permits p q (.acquire key)) s (p.acquire d.logged key s).2.2 := by
  have hlend : ∀ {v v'} {result : Except ε C}, d.logged.connect v = (result, v') →
      Adds (Permits p q (.acquire key)) v v' :=
    fun h => (Driver.adds_connect h).mono fun _ hcall => hcall ▸ .lend _
  have hdropped : ∀ {q' v}, ReflTransGen (Drop d.logged) (p, s) (q', v) →
      (∀ g ∈ q'.idle, g ∈ p.idle) ∧ Adds (Permits p q (.acquire key)) s v := by
    intro q' v hdrops
    obtain ⟨hsuffix, hadds⟩ := drops_adds hdrops
    refine ⟨fun g hg => hsuffix.subset hg, hadds.mono ?_⟩
    rintro call ⟨g, hg, hcall⟩
    exact .reuse hg hcall
  have hend := acquired d.logged key p s
  generalize p.acquire d.logged key s = result at hend ⊢
  cases hend with
  | closed _ => exact .of_eq rfl
  | served _ _ => exact .of_eq rfl
  | reused _ _ hdrops htop hcheck _ =>
    obtain ⟨hidle, hadds⟩ := hdropped hdrops
    exact hadds.trans ((Driver.adds_recycle hcheck).mono fun _ hcall =>
      .reuse (hidle _ (htop ▸ List.mem_cons_self)) hcall)
  | exhausted _ _ hdrops _ _ => exact (hdropped hdrops).2
  | failed _ _ hdrops _ _ hconnect => exact (hdropped hdrops).2.trans (hlend hconnect)
  | opened _ _ hdrops _ _ hconnect hnow =>
    exact (hdropped hdrops).2.trans ((hlend hconnect).trans (Driver.adds_now hnow))

theorem release_adds (d : Driver W C ε) (h : Handle C) (key : Option Key) (force : Bool)
    (p q : Pool C) (s : W × List (Call C ε)) :
    Adds (Permits p q (.release h key force)) s (p.release d.logged h key force s).2.2 := by
  have hend := released d.logged h key force p s
  generalize p.release d.logged h key force s = result at hend ⊢
  cases hend with
  | unknown _ => exact .of_eq rfl
  | late hk hs _ => exact hs.adds.mono fun _ hcall => .giveBack hk hcall
  | @ended k t hk hs hopen =>
    have hrefill := opens_adds (refill_opens d.logged (w := t.2) (hs.closed_eq.trans hopen))
    refine (hs.adds.mono fun _ hcall => .giveBack hk hcall).trans (hrefill.mono ?_)
    rintro _ ⟨result, rfl⟩
    exact .refill hk result

theorem prune_adds (d : Driver W C ε) (p : Pool C) (s : W × List (Call C ε)) :
    Adds (Permits p (p.prune d.logged s).2.1 .prune) s (p.prune d.logged s).2.2 := by
  rw [prune]
  split
  · exact .of_eq rfl
  · simp only [List.partition_eq_filter_filter]
    refine (Driver.adds_now rfl).trans ((Driver.adds_closeEach d _ _).mono ?_)
    rintro _ ⟨g, hg, result, rfl⟩
    obtain ⟨hidle, hexpired⟩ := List.mem_filter.mp (List.mem_reverse.mp hg)
    refine .evict hidle (fun hkept => ?_) result
    have hfresh := (List.mem_filter.mp hkept).2
    rw [Function.comp_apply, hexpired] at hfresh
    cases hfresh

theorem closeAll_adds (d : Driver W C ε) (p q : Pool C) (s : W × List (Call C ε)) :
    Adds (Permits p q .closeAll) s (p.closeAll d.logged s).2.2 := by
  refine (Driver.adds_closeEach d (p.idleHandles ++ p.heldHandles) s).mono ?_
  rintro _ ⟨g, hg, result, rfl⟩
  refine .shut ?_ result
  rcases List.mem_append.mp hg with hidle | hheld
  · exact Or.inl (List.mem_reverse.mp hidle)
  · exact Or.inr (mem_heldHandles.mp hheld)

/-- **Every call a request comes to is permitted.** -/
theorem calls_permitted (d : Driver W C ε) (r : Request (Handle C)) (p : Pool C) (w : W) :
    ∀ call ∈ p.calls d r w, Permits p (p.serve d r w).2.1 r call := by
  have hadds : Adds (Permits p (p.serve d.logged r (w, [])).2.1 r) (w, [])
      (p.serve d.logged r (w, [])).2.2 := by
    cases r with
    | acquire key => exact acquire_adds d key p _ (w, [])
    | release h key force => exact release_adds d h key force p _ (w, [])
    | prune => exact prune_adds d p (w, [])
    | closeAll => exact closeAll_adds d p _ (w, [])
  rw [serve_logged] at hadds
  obtain ⟨calls, hcalls, hall⟩ := hadds
  -- the log was empty before
  obtain rfl : p.calls d r w = calls := hcalls
  exact hall

end Pool

end ConnPool
