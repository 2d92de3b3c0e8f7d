import ConnPool.Proofs.Pool.Leaks

/-!
# When nothing fails

On a good day nothing fails. Every attempt to open a connection succeeds, and every connection
is **fit**: it is open, the status of its transaction is known, and a rollback of it
succeeds. `ConnPool.Driver.Faultless` says that of a driver; what it takes for an attempt to
succeed and for a connection to be fit are parameters, and no call may spoil either of them.

A pool has little to do on such a day. The first idle connection it looks at is fit to be
handed out, so none is ever dropped (`ConnPool.Pool.Healthy.not_drop`); none that comes back is
rejected; and filling up opens as many connections as are missing. `ConnPool.Pool.Healthy` is
what all of this keeps: the pool is open, the connections it owns are fit, none has been closed,
and it owns as many as it has opened.
-/

namespace ConnPool

variable {W C ε : Type} {d : Driver W C ε} {serves : W → Prop} {fit : C → W → Prop}

namespace Driver

/-! ### Drivers without faults -/

/-- Nothing gets worse from one world to another: attempts to open a connection still
succeed, and connections that were fit are fit. -/
def Lasts (serves : W → Prop) (fit : C → W → Prop) (w w' : W) : Prop :=
  (serves w → serves w') ∧ ∀ c, fit c w → fit c w'

theorem Lasts.refl (w : W) : Lasts serves fit w w := ⟨id, fun _ => id⟩

theorem Lasts.trans {u v w : W} (h : Lasts serves fit u v) (h' : Lasts serves fit v w) :
    Lasts serves fit u w :=
  ⟨h'.1 ∘ h.1, fun c => h'.2 c ∘ h.2 c⟩

/-- **A driver without faults.** -/
structure Faultless (d : Driver W C ε) (serves : W → Prop) (fit : C → W → Prop) : Prop where
  /-- An attempt to open a connection succeeds, and the connection is fit. -/
  connect : ∀ {w : W}, serves w →
    ∃ c w', d.connect w = (.ok c, w') ∧ fit c w' ∧ Lasts serves fit w w'
  /-- A fit connection is open. -/
  isClosed : ∀ {c : C} {w : W}, fit c w →
    ∃ w', d.isClosed c w = (false, w') ∧ Lasts serves fit w w'
  /-- Its status is known. -/
  status : ∀ {c : C} {w : W}, fit c w →
    ∃ status w', d.status c w = (status, w') ∧ status ≠ .unknown ∧ Lasts serves fit w w'
  /-- Rolling it back succeeds. -/
  rollback : ∀ {c : C} {w : W}, fit c w →
    ∃ w', d.rollback c w = (.ok (), w') ∧ Lasts serves fit w w'
  /-- Reading the clock spoils nothing. -/
  now : ∀ w : W, Lasts serves fit w (d.now w).2

/-- **A fit connection passes the recycle check.** -/
theorem Faultless.recycle (hd : d.Faultless serves fit) {c : C} {w w' : W}
    {outcome : RecycleOutcome} (hc : fit c w) (h : d.recycle c w = (outcome, w')) :
    outcome.isReusable = true ∧ Lasts serves fit w w' := by
  obtain ⟨v₁, hopen, hlasts₁⟩ := hd.isClosed hc
  obtain ⟨status, v₂, hknown, hne, hlasts₂⟩ := hd.status (hlasts₁.2 c hc)
  obtain ⟨v₃, hback, hlasts₃⟩ := hd.rollback (hlasts₂.2 c (hlasts₁.2 c hc))
  have hend := recycled d c w
  rw [h] at hend
  cases hend with
  | alreadyClosed hclosed => cases hopen.symm.trans hclosed
  | reusable hclosed hstatus =>
    cases hopen.symm.trans hclosed
    cases hknown.symm.trans hstatus
    exact ⟨rfl, hlasts₁.trans hlasts₂⟩
  | statusUnknown hclosed hstatus _ =>
    cases hopen.symm.trans hclosed
    cases hknown.symm.trans hstatus
    exact absurd rfl hne
  | rolledBack hclosed hstatus _ _ hrollback =>
    cases hopen.symm.trans hclosed
    cases hknown.symm.trans hstatus
    cases hback.symm.trans hrollback
    exact ⟨rfl, hlasts₁.trans (hlasts₂.trans hlasts₃)⟩
  | rollbackFailed hclosed hstatus _ _ hrollback _ =>
    cases hopen.symm.trans hclosed
    cases hknown.symm.trans hstatus
    cases hback.symm.trans hrollback

/-! ### With a log -/

/-- No close has been called. -/
def NoneClosed (log : List (Call C ε)) : Prop := ∀ c result, .close c result ∉ log

theorem NoneClosed.append {log : List (Call C ε)} (h : NoneClosed log) {call : Call C ε}
    (hcall : ∀ c result, call ≠ .close c result) : NoneClosed (log ++ [call]) := by
  intro c result hmem
  rcases List.mem_append.mp hmem with hmem | hmem
  · exact h c result hmem
  · exact hcall c result (List.mem_singleton.mp hmem).symm

/-- A driver without faults has none with a log, and nothing there needs a close. -/
theorem Faultless.logged (hd : d.Faultless serves fit) :
    d.logged.Faultless (fun s => serves s.1 ∧ NoneClosed s.2) fun c s => fit c s.1 where
  connect {s} h := by
    obtain ⟨c, w', hconnect, hfit, hserves, hlasts⟩ := hd.connect h.1
    refine ⟨c, (w', s.2 ++ [.connect (.ok c)]), ?_, hfit, fun h => ⟨hserves h.1, ?_⟩, hlasts⟩
    · simp only [Driver.logged, hconnect]
    · exact h.2.append fun _ _ hclose => by cases hclose
  isClosed {c s} h := by
    obtain ⟨w', hclosed, hserves, hlasts⟩ := hd.isClosed h
    refine ⟨(w', s.2), ?_, fun h => ⟨hserves h.1, h.2⟩, hlasts⟩
    simp only [Driver.logged, hclosed]
  status {c s} h := by
    obtain ⟨status, w', hstatus, hne, hserves, hlasts⟩ := hd.status h
    refine ⟨status, (w', s.2), ?_, hne, fun h => ⟨hserves h.1, h.2⟩, hlasts⟩
    simp only [Driver.logged, hstatus]
  rollback {c s} h := by
    obtain ⟨w', hrollback, hserves, hlasts⟩ := hd.rollback h
    refine ⟨(w', s.2 ++ [.rollback c (.ok ())]), ?_, fun h => ⟨hserves h.1, ?_⟩, hlasts⟩
    · simp only [Driver.logged, hrollback]
    · exact h.2.append fun _ _ hclose => by cases hclose
  now s := ⟨fun h => ⟨(hd.now s.1).1 h.1, h.2⟩, (hd.now s.1).2⟩

/-- No call but an attempt to open a connection opens any. -/
theorem along_opened (d : Driver W C ε) :
    d.logged.Along fun s s' => True ∧ opened s'.2 = opened s.2 :=
  Along.logged (R := fun _ _ => True)
    ⟨fun _ => trivial, fun _ _ => trivial, fun _ => trivial, fun _ => trivial, fun _ => trivial,
      fun _ => trivial, fun _ => trivial⟩

end Driver

namespace Pool

open Relation (ReflTransGen)
open Driver (Call opened Lasts NoneClosed)

/-! ### Healthy pools -/

/-- **A pool is healthy**, with the world and the log of its driver. -/
structure Healthy (serves : W → Prop) (fit : C → W → Prop) (s : Pool C × W × List (Call C ε)) :
    Prop where
  /-- The pool is open. -/
  isOpen : s.1.closed = false
  /-- Attempts to open a connection succeed. -/
  serves : serves s.2.1
  /-- The connections the pool owns are fit. -/
  fit : ∀ c, s.1.Owns c → fit c s.2.1
  /-- No close has been called. -/
  none_closed : NoneClosed s.2.2
  /-- The pool owns as many connections as it has opened. -/
  opened_eq : (opened s.2.2).length = s.1.size

variable {p q : Pool C} {s s' : W × List (Call C ε)}

/-- What a healthy pool may rely on when it calls its driver. -/
theorem Healthy.served (h : Healthy serves fit (p, s)) : serves s.1 ∧ NoneClosed s.2 :=
  ⟨h.serves, h.none_closed⟩

/-- The world may change behind the back of a healthy pool, as long as nothing gets worse. -/
theorem Healthy.drift (h : Healthy serves fit (p, s)) (hlasts : Lasts serves fit s.1 s'.1)
    (hlog : s'.2 = s.2) : Healthy serves fit (p, s') where
  isOpen := h.isOpen
  serves := hlasts.1 h.serves
  fit c hc := hlasts.2 c (h.fit c hc)
  none_closed := hlog ▸ h.none_closed
  opened_eq := hlog ▸ h.opened_eq

/-- A pool that owns the same connections as before stays healthy. -/
theorem Healthy.same (h : Healthy serves fit (p, s)) (hopen : q.closed = false)
    (hlasts : Lasts (fun s => serves s.1 ∧ NoneClosed s.2) (fun c s => fit c s.1) s s')
    (hopened : opened s'.2 = opened s.2) (howns : ∀ c, q.Owns c → p.Owns c)
    (hsize : q.size = p.size) : Healthy serves fit (q, s') where
  isOpen := hopen
  serves := (hlasts.1 h.served).1
  fit c hc := hlasts.2 c (h.fit c (howns c hc))
  none_closed := (hlasts.1 h.served).2
  opened_eq := by rw [hopened, h.opened_eq, hsize]

/-- A pool that owns a connection more, which it has opened, stays healthy. -/
theorem Healthy.gain (h : Healthy serves fit (p, s)) (hopen : q.closed = false) {c : C}
    (hlasts : Lasts (fun s => serves s.1 ∧ NoneClosed s.2) (fun c s => fit c s.1) s s')
    (hopened : opened s'.2 = opened s.2 ++ [c]) (hc : fit c s'.1)
    (howns : ∀ c', q.Owns c' → p.Owns c' ∨ c' = c) (hsize : q.size = p.size + 1) :
    Healthy serves fit (q, s') where
  isOpen := hopen
  serves := (hlasts.1 h.served).1
  fit c' hc' := by
    rcases howns c' hc' with hold | rfl
    · exact hlasts.2 c' (h.fit c' hold)
    · exact hc
  none_closed := (hlasts.1 h.served).2
  opened_eq := by rw [hopened, List.length_append, h.opened_eq, hsize, List.length_singleton]

/-! ### Filling a healthy pool up -/

/-- **A healthy pool opens as many connections as it sets out to.** -/
theorem Healthy.openIdle (hd : d.Faultless serves fit) (n : Nat)
    (h : Healthy serves fit (p, s)) :
    Healthy serves fit (openIdle d.logged n p s) ∧
      (Pool.openIdle d.logged n p s).1.size = p.size + n := by
  induction n generalizing p s with
  | zero => exact ⟨h, rfl⟩
  | succ n ih =>
    obtain ⟨c, s₁, hconnect, hfit, hlasts₁⟩ := hd.logged.connect h.served
    obtain ⟨now, s₂, hnow⟩ : ∃ now s₂, d.logged.now s₁ = (now, s₂) := ⟨_, _, rfl⟩
    obtain ⟨since, s₃, hsince⟩ : ∃ since s₃, d.logged.now s₂ = (since, s₃) := ⟨_, _, rfl⟩
    have hlasts₂ : Lasts _ _ s₁ s₂ := congrArg Prod.snd hnow ▸ hd.logged.now s₁
    have hlasts₃ : Lasts _ _ s₂ s₃ := congrArg Prod.snd hsince ▸ hd.logged.now s₂
    have hread : opened s₃.2 = opened s₁.2 :=
      ((Driver.along_opened d).trans ((Driver.along_opened d).now hnow)
        ((Driver.along_opened d).now hsince)).2
    have hmore : Healthy serves fit (p.number.stack ⟨p.nextId, c, now⟩ since, s₃) :=
      h.gain h.isOpen (hlasts₁.trans (hlasts₂.trans hlasts₃))
        (hread.trans (Driver.opened_logged_connect hconnect))
        ((hlasts₂.trans hlasts₃).2 c hfit) (fun c' => (owns_stack _ _ _ c').mp) (size_stack _ _ _)
    obtain ⟨hhealthy, hsize⟩ := ih hmore
    simp only [Pool.openIdle, connect, hconnect, hnow, shelve, hsince]
    refine ⟨hhealthy, ?_⟩
    rw [hsize, size_stack]
    simp only [size, number]
    omega

/-- A pool that is not below its floor has nothing to fill up. -/
theorem refill_of_le {d : Driver W C ε} {w : W} (h : p.config.floor ≤ p.size) :
    p.refill d w = (p, w) := by
  rw [refill, Nat.sub_eq_zero_of_le h, Pool.openIdle]

/-- **A pool built on a good day is healthy**, and owns as many connections as its floor. -/
theorem healthy_build (hd : d.Faultless serves fit) {config : Config} {w₀ : W}
    (hserves : serves w₀) (hbuild : build d.logged config (w₀, []) = (.ok p, s)) :
    Healthy serves fit (p, s) ∧ p.size = config.floor ∧ p.held = ∅ := by
  have hfresh : Healthy serves fit ((fresh config : Pool C), w₀, ([] : List (Call C ε))) :=
    { isOpen := rfl
      serves := hserves
      fit := fun c hc => by
        rcases hc with ⟨_, hg, _⟩ | ⟨_, _, hk, _⟩
        · cases hg
        · cases hk
      none_closed := fun _ _ => List.not_mem_nil
      opened_eq := rfl }
  have hheld : p.held = ∅ := opens_held_eq (build_opens hbuild).2
  rw [build] at hbuild
  cases hvalid : config.validate with
  | error defect => simp [hvalid] at hbuild
  | ok _ =>
    simp only [hvalid, Prod.mk.injEq, Except.ok.injEq] at hbuild
    obtain ⟨rfl, rfl⟩ := hbuild
    obtain ⟨hhealthy, hsize⟩ := hfresh.openIdle hd (config.floor - (fresh config : Pool C).size)
    refine ⟨hhealthy, ?_, hheld⟩
    change (Pool.openIdle d.logged (config.floor - (fresh config : Pool C).size) (fresh config)
      (w₀, [])).1.size = config.floor
    rw [hsize]
    exact Nat.zero_add _

/-! ### Acquiring from a healthy pool -/

/-- A healthy pool drops no idle connection. -/
theorem Healthy.not_drop (hd : d.Faultless serves fit) (h : Healthy serves fit (p, s))
    {t : Pool C × W × List (Call C ε)} : ¬Drop d.logged (p, s) t := by
  rintro ⟨htop, hcheck, hbad⟩
  have hfit := h.fit _ (owns_of_idle (htop ▸ List.mem_cons_self))
  exact absurd (hd.logged.recycle hfit hcheck).1 (Bool.eq_false_iff.mp hbad)

theorem Healthy.drops_eq_refl (hd : d.Faultless serves fit) (h : Healthy serves fit (p, s))
    {t : Pool C × W × List (Call C ε)} (hdrops : ReflTransGen (Drop d.logged) (p, s) t) :
    t = (p, s) := by
  rcases hdrops.cases_head with heq | ⟨_, hdrop, _⟩
  · exact heq.symm
  · exact absurd hdrop (h.not_drop hd)

/-- **A healthy pool serves a borrower without a key**, and then owns as many connections as
before, or one more than were checked out if that is more; or nothing is idle, as many
connections are checked out as the capacity allows, and nothing happens. -/
theorem Healthy.acquire (hd : d.Faultless serves fit) (h : Healthy serves fit (p, s))
    (hfree : p.held.get? (.auto p.nextKey) = none) :
    (∃ g q s', p.acquire d.logged none s = (.ok g, q, s') ∧ Healthy serves fit (q, s') ∧
        q.held = p.held.insert (.auto p.nextKey) g ∧ q.size = max p.size (p.held.size + 1) ∧
        (p.idle = [] → p.held.size < p.config.capacity)) ∨
      (p.acquire d.logged none s = (.error (.exhausted p.config.maxConnections), p, s) ∧
        p.idle = [] ∧ p.config.capacity ≤ p.held.size) := by
  have hinsert : ∀ g, (p.held.insert (.auto p.nextKey) g).size = p.held.size + 1 :=
    fun g => Table.size_insert_of_get?_eq_none g hfree
  have hend := acquired d.logged none p s
  generalize p.acquire d.logged none s = result at hend ⊢
  cases hend with
  | closed hclosed => cases h.isOpen.symm.trans hclosed
  | served _ hheld => cases hheld
  | @reused q v w' g rest outcome _ _ hdrops htop hcheck _ =>
    cases h.drops_eq_refl hd hdrops
    have hlasts := (hd.logged.recycle (h.fit _ (owns_of_idle (htop ▸ List.mem_cons_self))) hcheck).2
    have hsize : ((p.unstack g rest).checkOut none g).size = p.size := by
      have : p.idle.length = rest.length + 1 := congrArg List.length htop
      simp only [size, checkOut, unstack, chooseKey_none, hinsert]
      omega
    refine Or.inl ⟨g, _, w', rfl, ?_, rfl, ?_, fun hempty => by cases htop.symm.trans hempty⟩
    · refine h.same h.isOpen hlasts ((Driver.along_opened d).recycle hcheck).2
        (fun c hc => ?_) hsize
      exact (owns_unstack [] rest htop c).mpr ((owns_checkOut g hfree c).mp hc)
    · have : 0 < p.idle.length := htop ▸ Nat.succ_pos _
      rw [hsize, Nat.max_eq_left]
      simp only [size]
      omega
  | exhausted _ _ hdrops hempty hfull =>
    cases h.drops_eq_refl hd hdrops
    exact Or.inr ⟨rfl, hempty, hfull⟩
  | failed _ _ hdrops _ _ hconnect =>
    cases h.drops_eq_refl hd hdrops
    obtain ⟨_, _, hok, _⟩ := hd.logged.connect h.served
    cases hconnect.symm.trans hok
  | @opened q v w₁ w₂ conn now _ _ hdrops hempty hroom hconnect hnow =>
    cases h.drops_eq_refl hd hdrops
    obtain ⟨_, _, hok, hfit, hlasts⟩ := hd.logged.connect h.served
    cases hconnect.symm.trans hok
    have hlasts₂ : Lasts _ _ w₁ w₂ := congrArg Prod.snd hnow ▸ hd.logged.now w₁
    have hsize : (p.number.checkOut none ⟨p.nextId, conn, now⟩).size = p.held.size + 1 := by
      simp only [size, checkOut, number, chooseKey_none, hinsert, hempty, List.length_nil]
      omega
    have hbefore : p.size = p.held.size := by
      simp only [size, hempty, List.length_nil, Nat.zero_add]
    have hfree' : p.number.held.get? (p.number.chooseKey none).1 = none := hfree
    refine Or.inl ⟨⟨p.nextId, conn, now⟩, _, w₂, rfl, ?_, rfl, ?_, fun _ => hroom⟩
    · refine h.gain h.isOpen (hlasts.trans hlasts₂) ?_ (hlasts₂.2 conn hfit)
        (fun c => (owns_checkOut _ hfree' c).mp) (hbefore ▸ hsize)
      exact ((Driver.along_opened d).now hnow).2.trans (Driver.opened_logged_connect hconnect)
    · rw [hsize, hbefore, Nat.max_eq_right (Nat.le_succ _)]

/-! ### Handing back to a healthy pool -/

/-- **A healthy pool takes back what it has lent**, unless it has all the idle connections it
keeps, and owns as many connections as before. -/
theorem Healthy.put [DecidableEq C] (hd : d.Faultless serves fit) (h : Healthy serves fit (p, s))
    (hevicts : p.config.evictsIdle = true) (hfloor : p.config.floor ≤ p.size) {k : Key}
    {g : Handle C} (hk : p.checkout? g none = some k) :
    ∃ q s', p.release d.logged g none false s = (.ok (), q, s') ∧ Healthy serves fit (q, s') ∧
      q.held = p.held.erase k ∧ q.size = p.size := by
  obtain ⟨_, g', hheld, _, hconn⟩ := checkout?_eq_some_iff.mp hk
  have hsize : ∀ now, ((p.checkIn k g).stack g now).size = p.size := by
    intro now
    have := Table.size_erase_add_one hheld
    rw [size_stack]
    simp only [size, checkIn]
    omega
  have hwanted : (false || (p.checkIn k g).closed || (p.checkIn k g).hasSurplus) = false := by
    have hopen : p.closed = false := h.isOpen
    simp only [hasSurplus, checkIn, hopen, hevicts, Bool.not_true, Bool.false_and, Bool.or_self]
  have hend := released d.logged g none false p s
  generalize p.release d.logged g none false s = result at hend ⊢
  cases hend with
  | unknown hnone => cases hk.symm.trans hnone
  | late _ _ hclosed => cases h.isOpen.symm.trans hclosed
  | ended hk' hs _ =>
    cases hk.symm.trans hk'
    have hfit : fit g.conn s.1 := hconn ▸ h.fit _ (owns_of_held hheld)
    cases hs with
    | letGo hunwanted => cases hwanted.symm.trans hunwanted
    | rejected _ hcheck hbad =>
      exact absurd (hd.logged.recycle hfit hcheck).1 (Bool.eq_false_iff.mp hbad)
    | @shelved _ _ w₁ w₂ outcome now _ hcheck _ hnow =>
      have hlasts : Lasts _ _ w₁ w₂ := congrArg Prod.snd hnow ▸ hd.logged.now w₁
      -- the pool owns as many connections as before, so it is not below its floor
      have hfull : ((p.checkIn k g).stack g now).config.floor ≤
          ((p.checkIn k g).stack g now).size :=
        (hsize now).symm ▸ hfloor
      refine ⟨(p.checkIn k g).stack g now, w₂, ?_, ?_, rfl, hsize now⟩
      · rw [refill_of_le hfull]
      · refine h.same h.isOpen ((hd.logged.recycle hfit hcheck).2.trans hlasts) ?_ (fun c hc => ?_)
          (hsize now)
        · exact (Driver.along_opened d).trans ((Driver.along_opened d).recycle hcheck)
            ((Driver.along_opened d).now hnow) |>.2
        · exact (owns_checkIn hk c).mpr ((owns_stack _ g now c).mp hc)

end Pool

end ConnPool
