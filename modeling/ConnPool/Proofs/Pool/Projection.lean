import ConnPool.Proofs.Driver
import ConnPool.Proofs.Pool.Runs

/-!
# Pools do not look into the world

All a pool ever learns about the world are the answers of its driver. So if one driver is
another, seen through a function on worlds (`ConnPool.Driver.Projects`), a pool cannot tell
them apart: it answers every request alike and keeps the same books
(`ConnPool.Pool.serve_project`).

The case in point is the driver with a log, seen without the log. The runs of a pool are
just its logged runs, with the log left out (`ConnPool.Pool.reached_logged_iff`), and what
is proved of the logged ones is proved of all.
-/

namespace ConnPool

variable {V W C ε : Type} {f : V → W} {d' : Driver V C ε} {d : Driver W C ε}

/-! ### Drivers seen through a function -/

/-- **One driver is another, seen through a function**: it gives the same answers, and its
worlds are what the function shows of the worlds of the other. -/
structure Driver.Projects (f : V → W) (d' : Driver V C ε) (d : Driver W C ε) : Prop where
  connect : ∀ v, d.connect (f v) = Prod.map id f (d'.connect v)
  close : ∀ c v, d.close c (f v) = Prod.map id f (d'.close c v)
  isClosed : ∀ c v, d.isClosed c (f v) = Prod.map id f (d'.isClosed c v)
  status : ∀ c v, d.status c (f v) = Prod.map id f (d'.status c v)
  rollback : ∀ c v, d.rollback c (f v) = Prod.map id f (d'.rollback c v)
  now : ∀ v, d.now (f v) = Prod.map id f (d'.now v)

theorem Driver.projects_logged (d : Driver W C ε) : d.logged.Projects Prod.fst d where
  connect _ := rfl
  close _ _ := rfl
  isClosed _ _ := rfl
  status _ _ := rfl
  rollback _ _ := rfl
  now _ := rfl

namespace Driver.Projects

theorem recycle (h : Projects f d' d) (c : C) (v : V) :
    d.recycle c (f v) = Prod.map id f (d'.recycle c v) := by
  rw [Driver.recycle, Driver.recycle, h.isClosed]
  obtain ⟨closed, v₁⟩ := d'.isClosed c v
  cases closed with
  | true => rfl
  | false =>
    simp only [Prod.map_apply, id, h.status]
    obtain ⟨status, v₂⟩ := d'.status c v₁
    cases status with
    | idle => rfl
    | unknown => simp only [Prod.map_apply, id, h.close, Prod.map_snd]
    | _ =>
      simp only [Prod.map_apply, id, h.rollback]
      obtain ⟨result, v₃⟩ := d'.rollback c v₂
      cases result with
      | ok _ => rfl
      | error _ => simp only [Prod.map_apply, id, h.close, Prod.map_snd]

theorem shut (h : Projects f d' d) (c : C) (v : V) :
    d.shut c (f v) = Prod.map id f (d'.shut c v) := by
  rw [Driver.shut, Driver.shut, h.isClosed]
  obtain ⟨closed, v₁⟩ := d'.isClosed c v
  cases closed with
  | true => rfl
  | false =>
    simp only [Prod.map_apply, id, h.close]
    obtain ⟨result, v₂⟩ := d'.close c v₁
    cases result <;> rfl

theorem closeEach (h : Projects f d' d) (l : List (Handle C)) (v : V) :
    d.closeEach l (f v) = Prod.map id f (d'.closeEach l v) := by
  induction l generalizing v with
  | nil => rfl
  | cons g l ih =>
    simp only [Driver.closeEach, h.shut, Prod.map_fst, Prod.map_snd, id, ih]
    rfl

end Driver.Projects

namespace Pool

open Driver (Projects)

/-! ### Requests seen through a function -/

theorem connect_project (h : Projects f d' d) (p : Pool C) (v : V) :
    p.connect d (f v) = Prod.map id (Prod.map id f) (p.connect d' v) := by
  rw [connect, connect, h.connect]
  obtain ⟨result, v₁⟩ := d'.connect v
  cases result with
  | error e => rfl
  | ok c =>
    simp only [Prod.map_apply, id, h.now]
    rfl

theorem shelve_project (h : Projects f d' d) (g : Handle C) (p : Pool C) (v : V) :
    p.shelve d g (f v) = Prod.map id f (p.shelve d' g v) := by
  simp only [shelve, h.now]
  rfl

theorem openIdle_project (h : Projects f d' d) (n : Nat) (p : Pool C) (v : V) :
    openIdle d n p (f v) = Prod.map id f (openIdle d' n p v) := by
  induction n generalizing p v with
  | zero => rfl
  | succ n ih =>
    rw [openIdle, openIdle, connect_project h]
    obtain ⟨result, q, v₁⟩ := p.connect d' v
    cases result with
    | error e => rfl
    | ok g => simp only [Prod.map_apply, id, shelve_project h, Prod.map_fst, Prod.map_snd, ih]

theorem refill_project (h : Projects f d' d) (p : Pool C) (v : V) :
    p.refill d (f v) = Prod.map id f (p.refill d' v) := openIdle_project h _ p v

theorem build_project (h : Projects f d' d) (config : Config) (v : V) :
    build d config (f v) = Prod.map id f (build d' config v) := by
  rw [build, build, refill_project h]
  cases config.validate <;> rfl

theorem reuse_project (h : Projects f d' d) (p : Pool C) (v : V) :
    p.reuse d (f v) = Prod.map id (Prod.map id f) (p.reuse d' v) := by
  rw [reuse, reuse]
  generalize p.idle = stack
  induction stack generalizing p v with
  | nil => rfl
  | cons g rest ih =>
    rw [reuseFrom, reuseFrom, h.recycle]
    obtain ⟨outcome, v₁⟩ := d'.recycle g.conn v
    simp only [Prod.map_apply, id]
    -- the answer decides alone whether the search goes on
    cases outcome.isReusable with
    | true => rfl
    | false => exact ih _ _

theorem acquire_project (h : Projects f d' d) (key : Option Key) (p : Pool C) (v : V) :
    p.acquire d key (f v) = Prod.map id (Prod.map id f) (p.acquire d' key v) := by
  rw [acquire, acquire, reuse_project h]
  cases p.closed with
  | true => rfl
  | false =>
    cases key.bind p.held.get? with
    | some g => rfl
    | none =>
      obtain ⟨found, q, v₁⟩ := p.reuse d' v
      cases found with
      | some g => rfl
      | none =>
        simp only [Prod.map_apply, id, Bool.false_eq_true, if_false]
        by_cases hfull : q.config.capacity ≤ q.held.size
        · simp only [hfull, if_true, Prod.map_apply, id]
        · simp only [hfull, if_false, connect_project h]
          obtain ⟨result, q', v₂⟩ := q.connect d' v₁
          cases result <;> rfl

theorem dispose_project (h : Projects f d' d) (g : Handle C) (force : Bool) (p : Pool C) (v : V) :
    p.dispose d g force (f v) = Prod.map id f (p.dispose d' g force v) := by
  rw [dispose, dispose]
  cases force || p.closed || p.hasSurplus with
  | true => simp only [letGo, h.shut, if_true, Prod.map_snd, Prod.map_apply, id]
  | false =>
    simp only [shelveIfUsable, h.recycle, Bool.false_eq_true, if_false]
    obtain ⟨outcome, v₁⟩ := d'.recycle g.conn v
    simp only [Prod.map_apply, id]
    cases outcome.isReusable with
    | true => exact shelve_project h g p v₁
    | false => rfl

theorem prune_project (h : Projects f d' d) (p : Pool C) (v : V) :
    p.prune d (f v) = Prod.map id (Prod.map id f) (p.prune d' v) := by
  rw [prune, prune]
  cases p.closed || !p.config.evictsIdle with
  | true => rfl
  | false =>
    simp only [h.now, h.closeEach, Prod.map_fst, Prod.map_snd, Bool.false_eq_true, if_false]
    rfl

theorem closeAll_project (h : Projects f d' d) (p : Pool C) (v : V) :
    p.closeAll d (f v) = Prod.map id (Prod.map id f) (p.closeAll d' v) := by
  rw [closeAll, closeAll, closeIn, closeIn, h.closeEach]
  rfl

variable [DecidableEq C]

theorem release_project (h : Projects f d' d) (g : Handle C) (key : Option Key) (force : Bool)
    (p : Pool C) (v : V) :
    p.release d g key force (f v) = Prod.map id (Prod.map id f) (p.release d' g key force v) := by
  rw [release, release]
  cases p.checkout? g key with
  | none => rfl
  | some k =>
    simp only [dispose_project h]
    obtain ⟨q, v₁⟩ := (p.checkIn k g).dispose d' g force v
    simp only [Prod.map_apply, id, refill_project h]
    cases q.closed <;> rfl

/-- **A pool does not look into the world.** Over a driver seen through a function it gives
the same answers and keeps the same books. -/
theorem serve_project (h : Projects f d' d) (r : Request (Handle C)) (p : Pool C) (v : V) :
    p.serve d r (f v) = Prod.map id (Prod.map id f) (p.serve d' r v) := by
  cases r with
  | acquire key =>
    simp only [serve, acquire_project h]
    rfl
  | release g key force =>
    simp only [serve, release_project h]
    rfl
  | prune =>
    simp only [serve, prune_project h]
    rfl
  | closeAll =>
    simp only [serve, closeAll_project h]
    rfl

/-! ### Runs with a log -/

/-- A moment as a function shows it. -/
def Moment.project (f : V → W) (m : Moment V C) : Moment W C := ⟨m.pool, f m.world, m.request⟩

/-- The world changes as it would without the log, and the log does not change. -/
def silently (env : W → W → Prop) (s s' : W × List (Driver.Call C ε)) : Prop :=
  env s.1 s'.1 ∧ s'.2 = s.2

variable {env : W → W → Prop} {config : Config} {w₀ w : W} {p : Pool C}
  {hist : List (Moment W C)}

theorem Run.forget_log {p₀ : Pool C} {s₀ : W × List (Driver.Call C ε)}
    {hist : List (Moment (W × List (Driver.Call C ε)) C)} {t : Pool C × W × List (Driver.Call C ε)}
    (h : Run d.logged (silently env) (p₀, s₀) hist t) :
    Run d env (p₀, s₀.1) (hist.map (Moment.project Prod.fst)) (t.1, t.2.1) := by
  induction h with
  | start => exact .start
  | drift _ henv ih => exact ih.drift henv.1
  | @serve hist t _ r ih =>
    have hnext := ih.serve r
    rw [serve_project d.projects_logged] at hnext
    exact hnext

theorem Run.exists_log {p₀ : Pool C} {t : Pool C × W} (s₀ : W × List (Driver.Call C ε))
    (h : Run d env (p₀, s₀.1) hist t) :
    ∃ hist' log, Run d.logged (silently env) (p₀, s₀) hist' (t.1, t.2, log) ∧
      hist'.map (Moment.project Prod.fst) = hist := by
  induction h with
  | start => exact ⟨[], s₀.2, .start, rfl⟩
  | @drift _ t w _ henv ih =>
    obtain ⟨hist', log, hrun, hhist⟩ := ih
    exact ⟨hist', log, hrun.drift (w := (w, log)) ⟨henv, rfl⟩, hhist⟩
  | @serve _ t _ r ih =>
    obtain ⟨hist', log, hrun, hhist⟩ := ih
    have hsame := serve_project d.projects_logged r t.1 (t.2, log)
    rw [hsame]
    exact ⟨_, _, hrun.serve r, congrArg (_ :: ·) hhist⟩

/-- **The runs of a pool are its logged runs, with the log left out.** -/
theorem reached_logged_iff :
    Reached d env config w₀ hist (p, w) ↔
      ∃ hist' log, Reached d.logged (silently env) config (w₀, []) hist' (p, w, log) ∧
        hist'.map (Moment.project Prod.fst) = hist := by
  have hsame := build_project d.projects_logged config (w₀, [])
  constructor
  · rintro ⟨p₀, w₁, hbuild, hrun⟩
    obtain ⟨hresult, hworld⟩ := Prod.mk.inj (hsame.symm.trans hbuild)
    obtain ⟨hist', log, hrun', hhist⟩ := Run.exists_log (build d.logged config (w₀, [])).2
      (hworld ▸ hrun)
    exact ⟨hist', log, ⟨p₀, _, Prod.ext hresult rfl, hrun'⟩, hhist⟩
  · rintro ⟨hist', log, ⟨p₀, s₀, hbuild, hrun⟩, rfl⟩
    exact ⟨p₀, s₀.1, hsame.trans (congrArg (Prod.map id Prod.fst) hbuild), hrun.forget_log⟩

end Pool

end ConnPool
