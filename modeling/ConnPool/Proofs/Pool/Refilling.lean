import ConnPool.Proofs.Pool.Apart
import ConnPool.Proofs.Pool.Disposal
import Mathlib.Data.List.Basic

/-!
# Filling up, round by round

A pool that is short of its floor opens connections one after the other, until it is short no
longer or the factory fails. `ConnPool.Pool.Fills` tells this round by round, the way it happens:
each round looks at how many connections there are, and each one that succeeds ends with a
**delivery** (`ConnPool.Delivery`), a connection with the two readings of the clock that go with
it. A pool counts the connections that are missing once, before it begins. That this comes to the
same, and that there is a last round whatever the factory does, is `ConnPool.Pool.fills_refill`.

What the rounds leave behind is told by the deliveries: the books of the pool are those of before
with the deliveries added (`ConnPool.Pool.Stocked`), and the calls that have been made are the
attempts of the rounds (`ConnPool.Pool.attempts`). Nobody asks whether a connection that has been
delivered is open. A factory that delivers closed connections fills a pool up like any other.
-/

namespace ConnPool

/-- **A delivery**: a connection that a factory has opened for the idle stack. -/
structure Delivery (C : Type) where
  /-- The connection. -/
  conn : C
  /-- The reading of the clock when it had been opened. -/
  createdAt : Instant
  /-- The reading of the clock when it was put on the idle stack. -/
  since : Instant

/-- A delivery as a pool knows it, with its number there. -/
def Delivery.handle {C : Type} (x : Delivery C) (id : ConnId) : Handle C :=
  ⟨id, x.conn, x.createdAt⟩

namespace Pool

open Driver (Call)

variable {W C ε : Type} {d : Driver W C ε} {p q : Pool C} {w v : W} {made : List (Delivery C)}
  {failure : Option ε}

/-! ### The rounds -/

/-- **Filling a pool up, round by round**: the pool and the world before it, the deliveries, what
went wrong with the factory if it has failed, and the pool and the world after it. -/
inductive Fills (d : Driver W C ε) :
    Pool C × W → List (Delivery C) → Option ε → Pool C × W → Prop
  /-- The pool is not short of its floor, and nothing happens. -/
  | full {p : Pool C} {w : W} (hfull : p.config.floor ≤ p.size) : Fills d (p, w) [] none (p, w)
  /-- The factory fails, and there is no other attempt. -/
  | failed {p : Pool C} {w w' : W} {e : ε} (hshort : p.size < p.config.floor)
      (hconnect : d.connect w = (.error e, w')) : Fills d (p, w) [] (some e) (p, w')
  /-- A connection is delivered, and there is another round. -/
  | delivered {p : Pool C} {w w₁ w₂ w₃ : W} {x : Delivery C} {made : List (Delivery C)}
      {failure : Option ε} {s : Pool C × W} (hshort : p.size < p.config.floor)
      (hconnect : d.connect w = (.ok x.conn, w₁)) (hnow : d.now w₁ = (x.createdAt, w₂))
      (hsince : d.now w₂ = (x.since, w₃))
      (hrest : Fills d (p.number.stack (x.handle p.nextId) x.since, w₃) made failure s) :
      Fills d (p, w) (x :: made) failure s

/-- With each delivery one connection less is missing. -/
theorem missing_stack (p : Pool C) (g : Handle C) (since : Instant) :
    p.config.floor - (p.number.stack g since).size = p.config.floor - p.size - 1 := by
  rw [size_stack, Nat.sub_add_eq]
  rfl

/-- **Filling up comes to an end**, whatever the factory does, and it does so round by round. -/
theorem fills_refill (d : Driver W C ε) (p : Pool C) (w : W) :
    ∃ made failure, Fills d (p, w) made failure (p.refill d w) := by
  -- by induction on the number of connections missing: each delivery makes it one less
  obtain ⟨missing, hmissing⟩ : ∃ missing, p.config.floor - p.size = missing := ⟨_, rfl⟩
  rw [refill, hmissing]
  induction missing generalizing p w with
  | zero => exact ⟨[], none, .full (by omega)⟩
  | succ missing ih =>
    have hshort : p.size < p.config.floor := by omega
    obtain ⟨result, w₁, hconnect⟩ : ∃ result w₁, d.connect w = (result, w₁) := ⟨_, _, rfl⟩
    rcases result with e | conn
    · refine ⟨[], some e, ?_⟩
      simp only [openIdle, connect, hconnect]
      exact .failed hshort hconnect
    · obtain ⟨createdAt, w₂, hnow⟩ : ∃ createdAt w₂, d.now w₁ = (createdAt, w₂) := ⟨_, _, rfl⟩
      obtain ⟨since, w₃, hsince⟩ : ∃ since w₃, d.now w₂ = (since, w₃) := ⟨_, _, rfl⟩
      have hone : p.config.floor - (p.number.stack ⟨p.nextId, conn, createdAt⟩ since).size =
          missing := by
        rw [missing_stack, hmissing, Nat.add_sub_cancel]
      obtain ⟨made, failure, hrest⟩ :=
        ih (p.number.stack ⟨p.nextId, conn, createdAt⟩ since) w₃ hone
      refine ⟨⟨conn, createdAt, since⟩ :: made, failure, ?_⟩
      simp only [openIdle, connect, hconnect, hnow, shelve, hsince]
      exact .delivered hshort hconnect hnow hsince hrest

/-- **The rounds are determined**: they lead where filling up leads. -/
theorem Fills.eq_refill {s s' : Pool C × W} (h : Fills d s made failure s') :
    s' = s.1.refill d s.2 := by
  have hmissing : ∀ {p : Pool C}, p.size < p.config.floor →
      ∃ missing, p.config.floor - p.size = missing + 1 :=
    fun hshort => Nat.exists_eq_succ_of_ne_zero (Nat.sub_ne_zero_of_lt hshort)
  induction h with
  | full hfull => rw [refill, Nat.sub_eq_zero_of_le hfull, openIdle]
  | failed hshort hconnect =>
    obtain ⟨missing, hmissing⟩ := hmissing hshort
    simp only [refill, hmissing, openIdle, connect, hconnect]
  | @delivered p _ _ _ _ x _ _ _ hshort hconnect hnow hsince _ ih =>
    obtain ⟨missing, hmissing⟩ := hmissing hshort
    have hone : p.config.floor - (p.number.stack (x.handle p.nextId) x.since).size = missing := by
      rw [missing_stack, hmissing, Nat.add_sub_cancel]
    rw [ih, refill, refill, hmissing, ← hone]
    simp only [openIdle, connect, hconnect, hnow, shelve, hsince]
    rfl

/-- **The factory delivers what is missing, or fails before it has done so.** -/
theorem Fills.length_made {s s' : Pool C × W} (h : Fills d s made failure s') :
    (failure = none ∧ made.length = s.1.config.floor - s.1.size) ∨
      (∃ e, failure = some e) ∧ made.length < s.1.config.floor - s.1.size := by
  induction h with
  | full hfull => exact Or.inl ⟨rfl, (Nat.sub_eq_zero_of_le hfull).symm⟩
  | failed hshort _ => exact Or.inr ⟨⟨_, rfl⟩, Nat.sub_pos_of_lt hshort⟩
  | @delivered p _ _ _ _ x _ _ _ hshort _ _ _ _ ih =>
    simp only [size, stack, number, List.length_cons] at ih hshort ⊢
    rcases ih with ⟨hnone, hlength⟩ | ⟨hsome, hlength⟩
    · exact Or.inl ⟨hnone, by omega⟩
    · exact Or.inr ⟨hsome, by omega⟩

/-- **The first failure is the last attempt**, and nothing is delivered if it comes at once. -/
theorem Fills.of_error {w' : W} {e : ε} {s : Pool C × W} (h : Fills d (p, w) made failure s)
    (hshort : p.size < p.config.floor) (hconnect : d.connect w = (.error e, w')) :
    made = [] ∧ failure = some e ∧ s = (p, w') := by
  cases h with
  | full hfull => exact absurd hshort (Nat.not_lt.mpr hfull)
  | failed _ hfailed =>
    cases hconnect.symm.trans hfailed
    exact ⟨rfl, rfl, rfl⟩
  | delivered _ hopens _ _ _ => cases hconnect.symm.trans hopens

/-! ### The attempts -/

/-- **The calls that rounds come to**: an attempt for each delivery, in their order, and the one
that has failed. -/
def attempts (made : List (Delivery C)) (failure : Option ε) : List (Call C ε) :=
  made.map (fun x => .connect (.ok x.conn)) ++ failure.toList.map fun e => .connect (.error e)

/-- **The rounds are the same with a log**, and the calls that are logged are their attempts. -/
theorem Fills.of_logged {t t' : Pool C × W × List (Call C ε)}
    (h : Fills d.logged t made failure t') :
    Fills d (t.1, t.2.1) made failure (t'.1, t'.2.1) ∧
      t'.2.2 = t.2.2 ++ attempts made failure := by
  induction h with
  | full hfull => exact ⟨.full hfull, (List.append_nil _).symm⟩
  | failed hshort hconnect =>
    obtain ⟨hsame, hlog⟩ := Driver.connect_of_logged hconnect
    exact ⟨.failed hshort hsame, hlog⟩
  | delivered hshort hconnect hnow hsince _ ih =>
    obtain ⟨hconnect, hlog₁⟩ := Driver.connect_of_logged hconnect
    obtain ⟨hnow, hlog₂⟩ := Driver.now_of_logged hnow
    obtain ⟨hsince, hlog₃⟩ := Driver.now_of_logged hsince
    refine ⟨.delivered hshort hconnect hnow hsince ih.1, ?_⟩
    rw [ih.2, hlog₃, hlog₂, hlog₁, List.append_assoc]
    rfl

/-- The calls a pool makes to fill itself up are the attempts of its rounds. -/
theorem refill_attempts (d : Driver W C ε) (p : Pool C) (w : W) (log : List (Call C ε)) :
    ∃ made failure, Fills d (p, w) made failure (p.refill d w) ∧
      (p.refill d.logged (w, log)).2.2 = log ++ attempts made failure := by
  obtain ⟨made, failure, h⟩ := fills_refill d.logged p (w, log)
  obtain ⟨hfills, hlog⟩ := h.of_logged
  refine ⟨made, failure, ?_, hlog⟩
  rw [show p.refill d w = _ from refill_project d.projects_logged p (w, log)]
  exact hfills

/-! ### What is left behind -/

/-- **A pool has been stocked** with deliveries. -/
structure Stocked (made : List (Delivery C)) (p q : Pool C) : Prop where
  /-- They are on top of the idle stack, the latest on top of the others, with the next numbers in
  the order of delivery. -/
  idle_eq : q.idleHandles = p.idleHandles ++ made.mapIdx fun i x => x.handle (p.nextId + i)
  /-- Each is stamped with the reading of the clock that goes with it. -/
  stamped : ∀ i x, made[i]? = some x → q.idleSince? (p.nextId + i) = some x.since
  /-- The other stamps are those of before. -/
  stamps_eq : ∀ id, id < p.nextId ∨ p.nextId + made.length ≤ id →
    q.idleSince? id = p.idleSince? id
  /-- The rest of the books is as it was, except that so many numbers have been given away. -/
  books_eq : q = { p with idle := q.idle, stamps := q.stamps, nextId := p.nextId + made.length }

theorem Stocked.nil (p : Pool C) : Stocked [] p p where
  idle_eq := (List.append_nil _).symm
  stamped _ _ hx := by cases hx
  stamps_eq _ _ := rfl
  books_eq := rfl

/-- One delivery, and then the others. -/
theorem Stocked.cons {x : Delivery C}
    (h : Stocked made (p.number.stack (x.handle p.nextId) x.since) q) :
    Stocked (x :: made) p q where
  idle_eq := by
    have hidle : (p.number.stack (x.handle p.nextId) x.since).idleHandles =
        p.idleHandles ++ [x.handle p.nextId] := List.reverse_cons
    rw [h.idle_eq, hidle, List.append_assoc, List.singleton_append, List.mapIdx_cons]
    simp only [number, stack, Nat.add_zero, Nat.add_assoc, Nat.add_comm 1]
  stamped i y hy := by
    rcases i with _ | i
    · cases hy
      -- the numbers of the others lie above
      refine (h.stamps_eq p.nextId (Or.inl (Nat.lt_succ_self p.nextId))).trans ?_
      exact (Table.get?_insert _ _ _ _).trans (if_pos rfl)
    · rw [← Nat.succ_add_eq_add_succ]
      exact h.stamped i y hy
  stamps_eq id hid := by
    have hother : ∀ {n m i : Nat}, i < n ∨ n + (m + 1) ≤ i →
        i ≠ n ∧ (i < n + 1 ∨ n + 1 + m ≤ i) := by
      intro n m i h
      omega
    obtain ⟨hne, hrest⟩ := hother hid
    exact (h.stamps_eq id hrest).trans ((Table.get?_insert _ _ _ _).trans (if_neg hne))
  books_eq := by
    rw [List.length_cons, ← Nat.succ_add_eq_add_succ]
    exact h.books_eq

/-- **What the rounds leave behind.** -/
theorem Fills.stocked {s s' : Pool C × W} (h : Fills d s made failure s') :
    Stocked made s.1 s'.1 := by
  induction h with
  | full _ => exact .nil _
  | failed _ _ => exact .nil _
  | delivered _ _ _ _ _ ih => exact ih.cons

theorem Stocked.held_eq (h : Stocked made p q) : q.held = p.held :=
  congrArg (fun q => q.held) h.books_eq

/-- Each delivery is one connection more. -/
theorem Stocked.size_eq (h : Stocked made p q) : q.size = p.size + made.length := by
  have hidle := congrArg List.length h.idle_eq
  simp only [idleHandles, List.length_append, List.length_reverse, List.length_mapIdx] at hidle
  rw [size, hidle, h.held_eq, size, Nat.add_right_comm]

/-! ### Filling up to the floor -/

/-- **A pool has been filled up exactly**: from `p` in the world `w` to `q` in the world `v`, by
some calls. -/
structure FilledExactly (d : Driver W C ε) (p : Pool C) (w : W) (made : List (Delivery C))
    (failure : Option ε) (q : Pool C) (v : W) (calls : List (Call C ε)) : Prop where
  /-- This has been done round by round. -/
  rounds : Fills d (p, w) made failure (q, v)
  /-- The calls are one attempt for each delivery, and the one that has failed. -/
  calls_eq : calls = attempts made failure
  /-- There are as many deliveries as connections were missing; or there are fewer, and then the
  factory has failed. -/
  length_made : (failure = none ∧ made.length = p.config.floor - p.size) ∨
    (∃ e, failure = some e) ∧ made.length < p.config.floor - p.size
  /-- There are no more attempts than connections were missing. -/
  length_calls : calls.length ≤ p.config.floor - p.size
  /-- The deliveries are what has been added to the books. -/
  stocked : Stocked made p q
  /-- Their numbers are new. -/
  unused : ∀ g, p.Has g → g.id < p.nextId
  /-- Each of them is one connection more. -/
  size_eq : q.size = p.size + made.length
  /-- The pool is not short of its floor, and has grown no further than that; or the last attempt
  has failed. -/
  restored : (p.config.floor ≤ q.size ∧ q.size = max p.size p.config.floor) ∨
    ∃ e, calls.getLast? = some (.connect (.error e))

/-- The numbers of a consistent pool have been given away. -/
theorem Consistent.id_lt_of_has (hp : p.Consistent) {g : Handle C} (hg : p.Has g) :
    g.id < p.nextId := by
  rcases hg with hidle | ⟨k, hk⟩
  · exact hp.idle_lt (List.mem_map_of_mem hidle)
  · exact hp.held_lt hk

/-- **Rounds fill a consistent pool up exactly.** -/
theorem Fills.filledExactly (h : Fills d (p, w) made failure (q, v)) (hp : p.Consistent) :
    FilledExactly d p w made failure q v (attempts made failure) := by
  have hlength := h.length_made
  have hsize := h.stocked.size_eq
  refine
    { rounds := h
      calls_eq := rfl
      length_made := hlength
      length_calls := ?calls
      stocked := h.stocked
      unused := fun _ => hp.id_lt_of_has
      size_eq := hsize
      restored := ?restored }
  case calls =>
    rw [attempts, List.length_append, List.length_map, List.length_map]
    rcases hlength with ⟨rfl, hall⟩ | ⟨⟨e, rfl⟩, hfew⟩
    · exact Nat.le_of_eq hall
    · exact hfew
  case restored =>
    rcases hlength with ⟨rfl, hall⟩ | ⟨⟨e, rfl⟩, _⟩
    · simp only at hall hsize
      exact Or.inl ⟨by omega, by omega⟩
    · exact Or.inr ⟨e, List.getLast?_concat⟩

/-- A pool that has valid settings is built by filling up an empty one. -/
theorem build_of_valid {config : Config} (hvalid : config.Valid) (d : Driver W C ε) (w : W) :
    build d config w = (.ok ((fresh config).refill d w).1, ((fresh config).refill d w).2) := by
  simp only [build, Config.validate_eq_ok_iff.mpr hvalid]

/-- A pool that has been built is an empty one that has been filled up. -/
theorem refill_of_build {config : Config} {w w' : W} (h : build d config w = (.ok p, w')) :
    (fresh config).refill d w = (p, w') := by
  rw [build_of_valid (build_opens h).1] at h
  obtain ⟨hp, hw⟩ := Prod.mk.inj h
  exact Prod.ext (Except.ok.inj hp) hw

/-! ### Main statement -/

variable [DecidableEq C] {env : W → W → Prop} {h : Handle C} {key : Option Key} {force : Bool}
  {k : Key}

/-- A release that takes effect on an open pool ends with filling up. -/
theorem release_of_some (hopen : p.closed = false) (hk : p.checkout? h key = some k) :
    p.release d h key force w =
      (.ok (), ((p.checkIn k h).dispose d h force w).1.refill d
        ((p.checkIn k h).dispose d h force w).2) := by
  have hclosed : ((p.checkIn k h).dispose d h force w).1.closed = false :=
    (disposed d h force (p.checkIn k h) w).closed_eq.trans hopen
  simp only [release, hk, hclosed, Bool.false_eq_true, if_false]

/-- **What a pool is filled up from** when a connection has come back: the connection is kept and
stamped, or there is one connection less than before. -/
theorem Disposed.kept_or_one_less (hk : p.checkout? h key = some k) {s : Pool C × W}
    (hs : Disposed d h force (p.checkIn k h, w) s) :
    (Keeps d p w h force ∧ s.1.size = p.size ∧
        s.1 = (p.checkIn k h).stack h (d.now (d.recycle h.conn w).2).1) ∨
      (¬Keeps d p w h force ∧ s.1.size + 1 = p.size ∧ s.1 = p.checkIn k h) := by
  obtain ⟨_, g, hheld, _⟩ := checkout?_eq_some_iff.mp hk
  have hless : (p.checkIn k h).size + 1 = p.size := by
    have := Table.size_erase_add_one hheld
    simp only [size, checkIn]
    omega
  have hcases := hs.keeps_or_not
  rw [keeps_checkIn] at hcases
  rcases hcases with ⟨hkeeps, hs⟩ | ⟨hnot, hs⟩
  · refine Or.inl ⟨hkeeps, ?_, hs⟩
    rw [hs, size_stack, hless]
  · refine Or.inr ⟨hnot, ?_, hs⟩
    rw [hs, hless]

/-- Whatever becomes of a connection that has come back, the bookkeeping stays consistent. -/
theorem Consistent.dispose (hp : p.Consistent) (hk : p.checkout? h key = some k) {s : Pool C × W}
    (hs : Disposed d h force (p.checkIn k h, w) s) : s.1.Consistent :=
  Move.consistent (s := (p, w)) (.giveBack hk hs) hp

/-- **A pool fills itself up exactly.** A new pool does so from nothing. A pool that is open does
so at the end of every release that takes effect, whatever has become of the connection, and in
whatever state it has got: the release is accepted, the connection is kept or not, and all that is
called after that are the attempts to open what is then missing. -/
theorem fills_up_exactly (d : Driver W C ε) (env : W → W → Prop) :
    (∀ config w, config.Valid → ∃ q v made failure, build d config w = (.ok q, v) ∧
        FilledExactly d (fresh config) w made failure q v
          (build d.logged config (w, [])).2.2) ∧
      ∀ config w₀ hist p w, Reached d env config w₀ hist (p, w) → p.closed = false →
        ∀ h key force k, EndsCheckout d p w (.release h key force) k →
          ∃ r u q v made failure touching calls,
            (p.checkIn k h).dispose d h force w = (r, u) ∧
            ((Keeps d p w h force ∧ r.size = p.size ∧
                r = (p.checkIn k h).stack h (d.now (d.recycle h.conn w).2).1) ∨
              (¬Keeps d p w h force ∧ r.size + 1 = p.size ∧ r = p.checkIn k h)) ∧
            p.release d h key force w = (.ok (), q, v) ∧
            FilledExactly d r u made failure q v calls ∧
            q.held = p.held.erase k ∧
            p.calls d (.release h key force) w = touching ++ calls ∧
            ∀ call ∈ touching, call.Touches h.conn := by
  constructor
  · intro config w hvalid
    obtain ⟨made, failure, hfills, hlog⟩ := refill_attempts d (fresh config) w []
    refine ⟨_, _, made, failure, build_of_valid hvalid d w, ?_⟩
    rw [build_of_valid hvalid d.logged (w, []), hlog]
    exact hfills.filledExactly (consistent_fresh config)
  · intro config w₀ hist p w hreached hopen h key force k hend
    have hk := endsCheckout_release_iff.mp hend
    obtain ⟨r, u, log, hlogged⟩ : ∃ r u log,
        (p.checkIn k h).dispose d.logged h force (w, []) = (r, u, log) := ⟨_, _, _, rfl⟩
    have hdispose : (p.checkIn k h).dispose d h force w = (r, u) := by
      rw [show (p.checkIn k h).dispose d h force w = _ from
        dispose_project d.projects_logged h force (p.checkIn k h) (w, []), hlogged]
      rfl
    have hs := disposed d h force (p.checkIn k h) w
    rw [hdispose] at hs
    obtain ⟨touching, hlog, htouching⟩ : Driver.Adds (·.Touches h.conn) (w, []) (u, log) := by
      have hadds := (disposed d.logged h force (p.checkIn k h) (w, [])).adds
      rwa [hlogged] at hadds
    obtain rfl : log = touching := hlog
    obtain ⟨made, failure, hfills, hcalls⟩ := refill_attempts d r u log
    refine ⟨r, u, (r.refill d u).1, (r.refill d u).2, made, failure, log, _, hdispose,
      hs.kept_or_one_less hk, ?_,
      hfills.filledExactly (hreached.consistent.dispose hk hs), ?_, ?_, htouching⟩
    · rw [release_of_some hopen hk, hdispose]
    · exact hfills.stocked.held_eq.trans hs.held_eq
    · change (p.release d.logged h key force (w, [])).2.2.2 = log ++ attempts made failure
      rw [release_of_some hopen hk, hlogged]
      exact hcalls

/-- A backend at which no more than so many connections are opened. -/
def rationed (n : Nat) : Driver World SimId Fault :=
  { World.driver 0 .manual with
    connect := fun w =>
      if w.conns.length < n then w.connect 0
      else (.error (.connectRefused (w.conns.length + 1)), w) }

/-- A pool with a floor of three has lent a connection when the two others are evicted. The
connection comes back to be closed, so that all three are missing, and there is one more to be had,
which is closed from the start. -/
theorem fills_up_exactly_as_far_as_possible :
    ∃ hist p w r u q v made failure touching calls, Reached (rationed 4) (fun _ _ => True)
        { minConnections := 3, maxConnections := 4, idleTimeout := ⟨5⟩ } {} hist (p, w) ∧
      p.closed = false ∧ p.idle = [] ∧ p.size = 1 ∧
      EndsCheckout (rationed 4) p w (.release ⟨2, 2, Instant.start⟩ none true) (.named "a") ∧
      p.release (rationed 4) ⟨2, 2, Instant.start⟩ none true w = (.ok (), q, v) ∧
      FilledExactly (rationed 4) r u made failure q v calls ∧ r.size = 0 ∧ made.length = 1 ∧
      touching ++ calls = [.close 2 (.ok ()), .connect (.ok 3),
        .connect (.error (.connectRefused 5))] ∧
      q.idleIds = [3] ∧ (rationed 4).Closed 3 v := by
  have h : Reached (rationed 4) (fun _ _ => True)
      { minConnections := 3, maxConnections := 4, idleTimeout := ⟨5⟩ } {} _ (_, _) :=
    ⟨_, _, rfl, ((((Run.start.serve (.acquire (some (.named "a")))).drift
      (w := { backends := [{ attempts := 3, opened := 3 }]
              conns := [.born 0 1 {}, .born 0 2 {}, .born 0 3 {}]
              manual := Instant.start + (⟨5⟩ : Duration) }) trivial).serve .prune).drift
      (w := { backends := [{ attempts := 3, opened := 3, closed := 2, closeLog := [1, 2]
                             birth := { severed := true } }]
              conns := [.born 0 1 { severed := true }, .born 0 2 { severed := true }, .born 0 3 {}]
              manual := Instant.start + (⟨5⟩ : Duration) }) trivial)⟩
  obtain ⟨r, u, q, v, made, failure, touching, calls, hdispose, _, hrelease, hfilled, _, hcalls,
    _⟩ := (fills_up_exactly (rationed 4) fun _ _ => True).2 _ _ _ _ _ h rfl
      ⟨2, 2, Instant.start⟩ none true (.named "a") (endsCheckout_release_iff.mpr rfl)
  have hr : r.size = 0 := (congrArg (fun s => s.1.size) hdispose).symm
  have hq : q.idleIds = [3] := (congrArg (fun s => s.2.1.idleIds) hrelease).symm
  have hv : (rationed 4).Closed 3 v := by
    have hclosed := congrArg (fun s => (rationed 4).Closed 3 s.2.2) hrelease
    exact hclosed ▸ rfl
  have hmade : made.length = 1 := by
    have hsize := hfilled.size_eq
    rw [hr, Nat.zero_add] at hsize
    rw [← hsize]
    exact (congrArg (fun s => s.2.1.size) hrelease).symm
  refine ⟨_, _, _, r, u, q, v, made, failure, touching, calls, h, rfl, rfl, rfl,
    endsCheckout_release_iff.mpr rfl, hrelease, hfilled, hr, hmade, ?_, hq, hv⟩
  rw [← hcalls]
  rfl

end Pool

end ConnPool
