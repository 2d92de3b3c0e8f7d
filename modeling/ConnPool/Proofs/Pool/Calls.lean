import ConnPool.Proofs.Driver
import ConnPool.Proofs.Pool.Runs

/-!
# What a pool does to the world

All that a pool does to the world is to open connections, to run the recycle check on them,
to shut them and to read the clock. So a relation between worlds that these four follow
(`ConnPool.Driver.Follows`) is followed by every request of a pool
(`ConnPool.Pool.serve_follows`), and by building one.

This differs from `ConnPool.Driver.Along` in that nothing is asked of a close on its own.
A pool does not close a connection before it has asked whether it is closed, and a relation
may well hold of a close that comes after such a question and of no other.
-/

namespace ConnPool

variable {W C ε : Type} {d : Driver W C ε} {R : W → W → Prop}

/-- **A pool follows a relation between worlds**: everything it does leads from a world to
one that is so related to it. -/
structure Driver.Follows (d : Driver W C ε) (R : W → W → Prop) : Prop where
  refl : ∀ w, R w w
  trans : ∀ {u v w : W}, R u v → R v w → R u w
  connect : ∀ {w w' : W} {result : Except ε C}, d.connect w = (result, w') → R w w'
  recycle : ∀ {c : C} {w w' : W} {outcome : RecycleOutcome},
    d.recycle c w = (outcome, w') → R w w'
  shut : ∀ {c : C} {w w' : W} {result : Except ε Bool}, d.shut c w = (result, w') → R w w'
  now : ∀ {w w' : W} {reading : Instant}, d.now w = (reading, w') → R w w'

/-- A relation that every call goes along, those that open a connection included, is followed
by a pool. -/
theorem Driver.Along.follows (hd : d.Along R)
    (hconnect : ∀ {w w' : W} {result : Except ε C}, d.connect w = (result, w') → R w w') :
    d.Follows R where
  refl := hd.refl
  trans := hd.trans
  connect := hconnect
  recycle := hd.recycle
  shut := hd.shut
  now := hd.now

namespace Pool

open Relation (ReflTransGen)

/-! ### Steps -/

theorem Opens.follows {s s' : Pool C × W} (hstep : Opens d s s') (hd : d.Follows R) :
    R s.2 s'.2 := by
  cases hstep with
  | failed _ _ hconnect => exact hd.connect hconnect
  | added _ _ hconnect hnow hsince =>
    exact hd.trans (hd.connect hconnect) (hd.trans (hd.now hnow) (hd.now hsince))

theorem opens_follows {s s' : Pool C × W} (h : ReflTransGen (Opens d) s s') (hd : d.Follows R) :
    R s.2 s'.2 := by
  induction h with
  | refl => exact hd.refl _
  | tail _ hstep ih => exact hd.trans ih (hstep.follows hd)

theorem Drop.follows {s s' : Pool C × W} (hstep : Drop d s s') (hd : d.Follows R) :
    R s.2 s'.2 := by
  cases hstep with
  | mk _ hcheck _ => exact hd.recycle hcheck

theorem Disposed.follows {h : Handle C} {force : Bool} {s s' : Pool C × W}
    (hs : Disposed d h force s s') (hd : d.Follows R) : R s.2 s'.2 := by
  cases hs with
  | letGo _ => exact hd.shut rfl
  | rejected _ hcheck _ => exact hd.recycle hcheck
  | shelved _ hcheck _ hnow => exact hd.trans (hd.recycle hcheck) (hd.now hnow)

variable [DecidableEq C]

theorem Move.follows {r : Request (Handle C)} {s s' : Pool C × W} (hstep : Move d r s s')
    (hd : d.Follows R) : R s.2 s'.2 := by
  cases hstep with
  | discard _ hdrop => exact hdrop.follows hd
  | reuse _ _ _ hcheck _ => exact hd.recycle hcheck
  | fail _ _ _ hconnect => exact hd.connect hconnect
  | lend _ _ _ _ hconnect hnow => exact hd.trans (hd.connect hconnect) (hd.now hnow)
  | giveBack _ hs => exact hs.follows hd
  | refill hopens => exact hopens.follows hd
  | look _ => exact hd.now rfl
  | evict _ _ => exact hd.shut rfl
  | shut _ => exact hd.shut rfl
  | close => exact hd.refl _

/-! ### Requests -/

/-- **Every request follows what the pool follows.** -/
theorem serve_follows (hd : d.Follows R) (r : Request (Handle C)) (p : Pool C) (w : W) :
    R w (p.serve d r w).2.2 := by
  refine serve_invariant (I := fun s => R w s.2) ?_ (hd.refl w)
  intro s s' hstep hs
  exact hd.trans hs (hstep.follows hd)

omit [DecidableEq C] in
/-- A pool is refused only for its settings, and then nothing has been done. -/
theorem build_error {config : Config} {w w' : W} {e : Refusal ε}
    (h : build d config w = (.error e, w')) :
    (∃ defect, config.validate = .error defect ∧ e = .configuration defect) ∧ w' = w := by
  rw [build] at h
  cases hvalid : config.validate with
  | error defect =>
    rw [hvalid] at h
    cases h
    exact ⟨⟨defect, rfl, rfl⟩, rfl⟩
  | ok _ =>
    rw [hvalid] at h
    cases h

omit [DecidableEq C] in
/-- So does building a pool, whether it succeeds or not. -/
theorem build_follows (hd : d.Follows R) (config : Config) (w : W) :
    R w (build d config w).2 := by
  rcases hbuild : build d config w with ⟨e | p, w'⟩
  · obtain ⟨_, rfl⟩ := build_error hbuild
    exact hd.refl w'
  · exact opens_follows (build_opens hbuild).2 hd

end Pool

end ConnPool
