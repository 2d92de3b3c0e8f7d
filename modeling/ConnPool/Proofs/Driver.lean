import ConnPool.Driver

/-!
# What comes of calling a driver

The two procedures a pool runs on its connections are made of calls of the driver, and
this file says which (`ConnPool.Driver.recycled`, `ConnPool.Driver.shutDown`). What all
the calls have in common is then a matter of looking at each of them once: a relation
that every single call follows, the procedures follow too (`ConnPool.Driver.Along`).

A driver is arbitrary, and nothing need come of a close. What one would expect is
`ConnPool.Driver.ClosesForGood`: a close closes, whether it reports an error or not, and
a closed connection stays closed. Under such a driver a connection that has been shut, or
has failed the recycle check, is closed.

To speak of the connections a pool has opened, one has to remember them. That is what
`ConnPool.Driver.logged` is for. It is the same driver, with a log beside the world; a
pool cannot tell the two apart.
-/

namespace ConnPool

namespace Driver

variable {W C ε : Type} {d : Driver W C ε}

/-! ### The procedures, call by call -/

/-- **The five ways the recycle check ends.** -/
inductive Recycled (d : Driver W C ε) (c : C) (w : W) : RecycleOutcome × W → Prop
  /-- The connection is closed. -/
  | alreadyClosed {w₁ : W} (hclosed : d.isClosed c w = (true, w₁)) :
      Recycled d c w (.alreadyClosed, w₁)
  /-- It is idle. -/
  | reusable {w₁ w₂ : W} (hclosed : d.isClosed c w = (false, w₁))
      (hstatus : d.status c w₁ = (.idle, w₂)) : Recycled d c w (.reusable, w₂)
  /-- Its status is not known, and it is closed. -/
  | statusUnknown {w₁ w₂ w₃ : W} {result : Except ε Unit} (hclosed : d.isClosed c w = (false, w₁))
      (hstatus : d.status c w₁ = (.unknown, w₂)) (hclose : d.close c w₂ = (result, w₃)) :
      Recycled d c w (.statusUnknown, w₃)
  /-- Its transaction is rolled back. -/
  | rolledBack {w₁ w₂ w₃ : W} {status : TxStatus} (hclosed : d.isClosed c w = (false, w₁))
      (hstatus : d.status c w₁ = (status, w₂)) (hidle : status ≠ .idle)
      (hknown : status ≠ .unknown) (hrollback : d.rollback c w₂ = (.ok (), w₃)) :
      Recycled d c w (.rolledBack, w₃)
  /-- Its transaction cannot be rolled back, and it is closed. -/
  | rollbackFailed {w₁ w₂ w₃ w₄ : W} {status : TxStatus} {e : ε} {result : Except ε Unit}
      (hclosed : d.isClosed c w = (false, w₁)) (hstatus : d.status c w₁ = (status, w₂))
      (hidle : status ≠ .idle) (hknown : status ≠ .unknown)
      (hrollback : d.rollback c w₂ = (.error e, w₃)) (hclose : d.close c w₃ = (result, w₄)) :
      Recycled d c w (.rollbackFailed, w₄)

theorem recycled (d : Driver W C ε) (c : C) (w : W) : Recycled d c w (d.recycle c w) := by
  obtain ⟨closed, w₁, hclosed⟩ : ∃ closed w₁, d.isClosed c w = (closed, w₁) := ⟨_, _, rfl⟩
  obtain ⟨status, w₂, hstatus⟩ : ∃ status w₂, d.status c w₁ = (status, w₂) := ⟨_, _, rfl⟩
  obtain ⟨result, w₃, hrollback⟩ : ∃ result w₃, d.rollback c w₂ = (result, w₃) := ⟨_, _, rfl⟩
  rw [recycle, hclosed]
  cases closed with
  | true => exact .alreadyClosed hclosed
  | false =>
    simp only [hstatus]
    cases status with
    | idle => exact .reusable hclosed hstatus
    | unknown => exact .statusUnknown hclosed hstatus rfl
    -- the other three are all treated alike
    | _ =>
      simp only [hrollback]
      cases result with
      | ok _ => exact .rolledBack hclosed hstatus (by decide) (by decide) hrollback
      | error e => exact .rollbackFailed hclosed hstatus (by decide) (by decide) hrollback rfl

/-- **The three ways shutting a connection ends.** -/
inductive ShutDown (d : Driver W C ε) (c : C) (w : W) : Except ε Bool × W → Prop
  /-- It is closed already. -/
  | alreadyClosed {w₁ : W} (hclosed : d.isClosed c w = (true, w₁)) :
      ShutDown d c w (.ok false, w₁)
  /-- It is closed by this call. -/
  | closed {w₁ w₂ : W} (hclosed : d.isClosed c w = (false, w₁))
      (hclose : d.close c w₁ = (.ok (), w₂)) : ShutDown d c w (.ok true, w₂)
  /-- Closing it reports an error. -/
  | failed {w₁ w₂ : W} {e : ε} (hclosed : d.isClosed c w = (false, w₁))
      (hclose : d.close c w₁ = (.error e, w₂)) : ShutDown d c w (.error e, w₂)

theorem shutDown (d : Driver W C ε) (c : C) (w : W) : ShutDown d c w (d.shut c w) := by
  obtain ⟨closed, w₁, hclosed⟩ : ∃ closed w₁, d.isClosed c w = (closed, w₁) := ⟨_, _, rfl⟩
  obtain ⟨result, w₂, hclose⟩ : ∃ result w₂, d.close c w₁ = (result, w₂) := ⟨_, _, rfl⟩
  rw [shut, hclosed]
  cases closed with
  | true => exact .alreadyClosed hclosed
  | false =>
    simp only [hclose]
    cases result with
    | ok _ => exact .closed hclosed hclose
    | error e => exact .failed hclosed hclose

/-! ### Relations that every call follows -/

/-- **Every call goes along a relation between worlds**, except those that open a
connection; and so does doing nothing, or one thing after the other. -/
structure Along (d : Driver W C ε) (R : W → W → Prop) : Prop where
  refl : ∀ w, R w w
  trans : ∀ {u v w : W}, R u v → R v w → R u w
  close : ∀ {c : C} {w w' : W} {result : Except ε Unit}, d.close c w = (result, w') → R w w'
  isClosed : ∀ {c : C} {w w' : W} {answer : Bool}, d.isClosed c w = (answer, w') → R w w'
  status : ∀ {c : C} {w w' : W} {answer : TxStatus}, d.status c w = (answer, w') → R w w'
  rollback : ∀ {c : C} {w w' : W} {result : Except ε Unit}, d.rollback c w = (result, w') → R w w'
  now : ∀ {w w' : W} {reading : Instant}, d.now w = (reading, w') → R w w'

section Along

variable {R : W → W → Prop} {c : C} {w w' : W}

theorem Along.recycle (hd : d.Along R) {outcome : RecycleOutcome}
    (h : d.recycle c w = (outcome, w')) : R w w' := by
  have hend := recycled d c w
  rw [h] at hend
  cases hend with
  | alreadyClosed hclosed => exact hd.isClosed hclosed
  | reusable hclosed hstatus => exact hd.trans (hd.isClosed hclosed) (hd.status hstatus)
  | statusUnknown hclosed hstatus hclose =>
    exact hd.trans (hd.isClosed hclosed) (hd.trans (hd.status hstatus) (hd.close hclose))
  | rolledBack hclosed hstatus _ _ hrollback =>
    exact hd.trans (hd.isClosed hclosed) (hd.trans (hd.status hstatus) (hd.rollback hrollback))
  | rollbackFailed hclosed hstatus _ _ hrollback hclose =>
    exact hd.trans (hd.isClosed hclosed) (hd.trans (hd.status hstatus)
      (hd.trans (hd.rollback hrollback) (hd.close hclose)))

theorem Along.shut (hd : d.Along R) {result : Except ε Bool} (h : d.shut c w = (result, w')) :
    R w w' := by
  have hend := shutDown d c w
  rw [h] at hend
  cases hend with
  | alreadyClosed hclosed => exact hd.isClosed hclosed
  | closed hclosed hclose => exact hd.trans (hd.isClosed hclosed) (hd.close hclose)
  | failed hclosed hclose => exact hd.trans (hd.isClosed hclosed) (hd.close hclose)

end Along

/-! ### Drivers whose connections close for good -/

/-- A connection is closed in a world, as it reports itself. -/
def Closed (d : Driver W C ε) (c : C) (w : W) : Prop := (d.isClosed c w).1 = true

/-- **Connections close for good.** A world that is `later` than another is one in which
more connections may be open and more may be closed, and `known` are the connections that
have been opened. Every call leads to a later world, opening a connection as well, and a
connection that has just been opened is known from then on. A close closes its
connection, whatever it reports, and in later worlds it is still closed. -/
structure ClosesForGood (d : Driver W C ε) (later : W → W → Prop) (known : C → W → Prop) : Prop
    extends d.Along later where
  connect : ∀ {w w' : W} {result : Except ε C}, d.connect w = (result, w') → later w w'
  known_of_connect : ∀ {w w' : W} {c : C}, d.connect w = (.ok c, w') → known c w'
  known_of_later : ∀ {w w' : W} {c : C}, later w w' → known c w → known c w'
  closed_of_later : ∀ {w w' : W} {c : C}, later w w' → known c w → d.Closed c w → d.Closed c w'
  closed_of_close : ∀ {w w' : W} {c : C} {result : Except ε Unit}, known c w →
    d.close c w = (result, w') → d.Closed c w'

namespace ClosesForGood

variable {later : W → W → Prop} {known : C → W → Prop} {c : C} {w w' : W}

/-- A connection that says that it is closed is closed after saying so. -/
theorem closed_of_isClosed (hd : d.ClosesForGood later known) (hc : known c w)
    (h : d.isClosed c w = (true, w')) : d.Closed c w' :=
  hd.closed_of_later (hd.isClosed h) hc (congrArg Prod.fst h)

/-- **A connection that has failed the recycle check is closed.** -/
theorem closed_of_recycle (hd : d.ClosesForGood later known) (hc : known c w)
    {outcome : RecycleOutcome} (h : d.recycle c w = (outcome, w'))
    (hbad : outcome.isReusable = false) : d.Closed c w' := by
  have hend := recycled d c w
  rw [h] at hend
  cases hend with
  | alreadyClosed hclosed => exact hd.closed_of_isClosed hc hclosed
  | reusable _ _ => cases hbad
  | statusUnknown hclosed hstatus hclose =>
    refine hd.closed_of_close (hd.known_of_later (hd.status hstatus) ?_) hclose
    exact hd.known_of_later (hd.isClosed hclosed) hc
  | rolledBack _ _ _ _ _ => cases hbad
  | rollbackFailed hclosed hstatus _ _ hrollback hclose =>
    refine hd.closed_of_close (hd.known_of_later (hd.rollback hrollback) ?_) hclose
    exact hd.known_of_later (hd.status hstatus) (hd.known_of_later (hd.isClosed hclosed) hc)

/-- **A connection that has been shut is closed.** -/
theorem closed_of_shut (hd : d.ClosesForGood later known) (hc : known c w)
    {result : Except ε Bool} (h : d.shut c w = (result, w')) : d.Closed c w' := by
  have hend := shutDown d c w
  rw [h] at hend
  cases hend with
  | alreadyClosed hclosed => exact hd.closed_of_isClosed hc hclosed
  | closed hclosed hclose =>
    exact hd.closed_of_close (hd.known_of_later (hd.isClosed hclosed) hc) hclose
  | failed hclosed hclose =>
    exact hd.closed_of_close (hd.known_of_later (hd.isClosed hclosed) hc) hclose

end ClosesForGood

/-! ### Keeping a log -/

/-- A call that may change something at the backend, with its answer. -/
inductive Call (C ε : Type) where
  | connect (result : Except ε C)
  | close (conn : C) (result : Except ε Unit)
  | rollback (conn : C) (result : Except ε Unit)

/-- The connection a call has opened. -/
def Call.opened? : Call C ε → Option C
  | connect (.ok c) => some c
  | _ => none

/-- The connections that have been opened, in the order of opening. -/
def opened (log : List (Call C ε)) : List C := log.filterMap Call.opened?

/-- **A driver with a log**: the same driver, except that beside the world it keeps a list
of the calls that may change something, the latest last. -/
def logged (d : Driver W C ε) : Driver (W × List (Call C ε)) C ε where
  connect s := match d.connect s.1 with
    | (result, w) => (result, w, s.2 ++ [.connect result])
  close c s := match d.close c s.1 with
    | (result, w) => (result, w, s.2 ++ [.close c result])
  isClosed c s := match d.isClosed c s.1 with
    | (answer, w) => (answer, w, s.2)
  status c s := match d.status c s.1 with
    | (answer, w) => (answer, w, s.2)
  rollback c s := match d.rollback c s.1 with
    | (result, w) => (result, w, s.2 ++ [.rollback c result])
  now s := match d.now s.1 with
    | (reading, w) => (reading, w, s.2)

section Log

variable {s s' : W × List (Call C ε)}

/-! Every call is the same with a log as without. Opening a connection and closing one is logged,
the others are not. -/

theorem connect_of_logged {result : Except ε C} (h : d.logged.connect s = (result, s')) :
    d.connect s.1 = (result, s'.1) ∧ s'.2 = s.2 ++ [.connect result] := by
  cases h
  exact ⟨rfl, rfl⟩

theorem close_of_logged {c : C} {result : Except ε Unit} (h : d.logged.close c s = (result, s')) :
    d.close c s.1 = (result, s'.1) ∧ s'.2 = s.2 ++ [.close c result] := by
  cases h
  exact ⟨rfl, rfl⟩

theorem isClosed_of_logged {c : C} {answer : Bool} (h : d.logged.isClosed c s = (answer, s')) :
    d.isClosed c s.1 = (answer, s'.1) ∧ s'.2 = s.2 := by
  cases h
  exact ⟨rfl, rfl⟩

theorem now_of_logged {reading : Instant} (h : d.logged.now s = (reading, s')) :
    d.now s.1 = (reading, s'.1) ∧ s'.2 = s.2 := by
  cases h
  exact ⟨rfl, rfl⟩

@[simp] theorem opened_append (log log' : List (Call C ε)) :
    opened (log ++ log') = opened log ++ opened log' := List.filterMap_append

/-- A successful attempt to open a connection adds it to the log. -/
theorem opened_logged_connect {c : C} (h : d.logged.connect s = (.ok c, s')) :
    opened s'.2 = opened s.2 ++ [c] := by
  obtain ⟨hresult, rfl⟩ := Prod.mk.inj h
  simp only [hresult, opened_append]
  rfl

/-- A failed one adds none. -/
theorem opened_logged_connect_error {e : ε} (h : d.logged.connect s = (.error e, s')) :
    opened s'.2 = opened s.2 := by
  obtain ⟨hresult, rfl⟩ := Prod.mk.inj h
  simp only [hresult, opened_append]
  exact List.append_nil _

/-- The other calls go along what they went along without the log, and open nothing. -/
theorem Along.logged {R : W → W → Prop} (hd : d.Along R) :
    d.logged.Along fun s s' => R s.1 s'.1 ∧ opened s'.2 = opened s.2 where
  refl s := ⟨hd.refl s.1, rfl⟩
  trans h h' := ⟨hd.trans h.1 h'.1, h'.2.trans h.2⟩
  close h := by
    cases h
    exact ⟨hd.close rfl, (opened_append _ _).trans (List.append_nil _)⟩
  isClosed h := by
    cases h
    exact ⟨hd.isClosed rfl, rfl⟩
  status h := by
    cases h
    exact ⟨hd.status rfl, rfl⟩
  rollback h := by
    cases h
    exact ⟨hd.rollback rfl, (opened_append _ _).trans (List.append_nil _)⟩
  now h := by
    cases h
    exact ⟨hd.now rfl, rfl⟩

/-- Calls have been added to the log, and none of them is an attempt to open a
connection. -/
def NoneAttempted (s s' : W × List (Call C ε)) : Prop :=
  ∃ calls, s'.2 = s.2 ++ calls ∧ ∀ result, .connect result ∉ calls

theorem NoneAttempted.refl (s : W × List (Call C ε)) : NoneAttempted s s :=
  ⟨[], (List.append_nil _).symm, fun _ => List.not_mem_nil⟩

theorem NoneAttempted.trans {s'' : W × List (Call C ε)} (h : NoneAttempted s s')
    (h' : NoneAttempted s' s'') : NoneAttempted s s'' := by
  obtain ⟨calls, hcalls, hnone⟩ := h
  obtain ⟨calls', hcalls', hnone'⟩ := h'
  refine ⟨calls ++ calls', by rw [hcalls', hcalls, List.append_assoc], fun result hmem => ?_⟩
  rcases List.mem_append.mp hmem with hmem | hmem
  · exact hnone result hmem
  · exact hnone' result hmem

/-- Only opening a connection is logged as an attempt to do so. -/
theorem along_noneAttempted (d : Driver W C ε) : d.logged.Along NoneAttempted where
  refl := .refl
  trans := .trans
  close h := by
    cases h
    exact ⟨_, rfl, fun _ hmem => by cases List.mem_singleton.mp hmem⟩
  isClosed h := by
    cases h
    exact ⟨[], (List.append_nil _).symm, fun _ => List.not_mem_nil⟩
  status h := by
    cases h
    exact ⟨[], (List.append_nil _).symm, fun _ => List.not_mem_nil⟩
  rollback h := by
    cases h
    exact ⟨_, rfl, fun _ hmem => by cases List.mem_singleton.mp hmem⟩
  now h := by
    cases h
    exact ⟨[], (List.append_nil _).symm, fun _ => List.not_mem_nil⟩

/-- Connections close for good with the log as they did without. -/
theorem ClosesForGood.logged {later : W → W → Prop} {known : C → W → Prop}
    (hd : d.ClosesForGood later known) :
    d.logged.ClosesForGood (fun s s' => later s.1 s'.1) fun c s => known c s.1 where
  refl s := hd.refl s.1
  trans := hd.trans
  close h := (hd.toAlong.logged.close h).1
  isClosed h := (hd.toAlong.logged.isClosed h).1
  status h := (hd.toAlong.logged.status h).1
  rollback h := (hd.toAlong.logged.rollback h).1
  now h := (hd.toAlong.logged.now h).1
  connect h := by
    cases h
    exact hd.connect rfl
  known_of_connect h := by
    obtain ⟨hresult, rfl⟩ := Prod.mk.inj h
    exact hd.known_of_connect (Prod.ext hresult rfl)
  known_of_later := hd.known_of_later
  closed_of_later := hd.closed_of_later
  closed_of_close hc h := by
    cases h
    exact hd.closed_of_close hc rfl

end Log

end Driver

end ConnPool
