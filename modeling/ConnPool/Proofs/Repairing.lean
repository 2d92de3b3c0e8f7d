import ConnPool.Proofs.Pool.Renaming
import ConnPool.Proofs.Recycling

/-!
# Factories that fail and are repaired

A factory that fails may be working again when it is asked the next time. What has happened to it
in between is no business of the pool, and should make no difference to the connections that are
open already. This is what `ConnPool.Driver.Repairable` asks of a driver: worlds that differ in the
factory alone, in how often it has been tried or in whether it is about to fail, are told apart by
nothing but the factory.

So a number of connections is checked in the same way whether the factory has been repaired before
or not (`ConnPool.Driver.Repairable.recycleEach`), and the calls that this takes are the same.
-/

namespace ConnPool

namespace Driver

variable {W C ε : Type} {d : Driver W C ε} {serves : W → Prop} {R : W → W → Prop} {w w' : W}

/-! ### Worlds that look the same, with a log -/

/-- The worlds are related, and the logs are the same. -/
def SameLog (R : W → W → Prop) (s s' : W × List (Call C ε)) : Prop := R s.1 s'.1 ∧ s'.2 = s.2

/-- With a log the difference is still concealed. -/
theorem Conceals.logged (hd : d.Conceals R) : d.logged.Conceals (SameLog R) where
  connect {s s'} hs := by
    obtain ⟨result, v, v', h, h', hv⟩ := hd.connect hs.1
    simp only [Driver.logged, h, h', hs.2]
    exact .mk _ ⟨hv, rfl⟩
  close c s s' hs := by
    obtain ⟨result, v, v', h, h', hv⟩ := hd.close c hs.1
    simp only [Driver.logged, h, h', hs.2]
    exact .mk _ ⟨hv, rfl⟩
  isClosed c s s' hs := by
    obtain ⟨answer, v, v', h, h', hv⟩ := hd.isClosed c hs.1
    simp only [Driver.logged, h, h']
    exact .mk _ ⟨hv, hs.2⟩
  status c s s' hs := by
    obtain ⟨answer, v, v', h, h', hv⟩ := hd.status c hs.1
    simp only [Driver.logged, h, h']
    exact .mk _ ⟨hv, hs.2⟩
  rollback c s s' hs := by
    obtain ⟨result, v, v', h, h', hv⟩ := hd.rollback c hs.1
    simp only [Driver.logged, h, h', hs.2]
    exact .mk _ ⟨hv, rfl⟩
  now {s s'} hs := by
    obtain ⟨reading, v, v', h, h', hv⟩ := hd.now hs.1
    simp only [Driver.logged, h, h']
    exact .mk _ ⟨hv, hs.2⟩

/-- If each check gives the same answer in worlds that look the same, so do any number of them. -/
theorem alike_recycleEach
    (hcheck : ∀ (c : C) {w w' : W}, R w w' → Alike R (d.recycle c w) (d.recycle c w'))
    (l : List (Handle C)) (hw : R w w') : Alike R (d.recycleEach l w) (d.recycleEach l w') := by
  induction l generalizing w w' with
  | nil => exact .mk _ hw
  | cons g l ih =>
    obtain ⟨outcome, v, v', h, h', hv⟩ := hcheck g.conn hw
    obtain ⟨outcomes, u, u', hl, hl', hu⟩ := ih hv
    rw [recycleEach_cons, recycleEach_cons, h, h', hl, hl']
    exact .mk _ hu

/-- What each check keeps, any number of them keep. -/
theorem Along.recycleEach (hd : d.Along R) (l : List (Handle C)) (w : W) :
    R w (d.recycleEach l w).2 := by
  induction l generalizing w with
  | nil => exact hd.refl w
  | cons g l ih => exact hd.trans (hd.recycle rfl) (ih _)

/-! ### Factories apart -/

/-- The driver with a factory that always fails, and takes no notice of it. -/
def refusing (d : Driver W C ε) (e : ε) : Driver W C ε :=
  { d with connect := fun w => (.error e, w) }

/-- **The factory can be repaired.** Worlds that are related by `R` differ in the factory at most.
A factory that `serves` opens a connection, and it opens the same one in worlds that differ in it
alone. -/
structure Repairable (d : Driver W C ε) (serves : W → Prop) (R : W → W → Prop) : Prop where
  equiv : Equivalence R
  /-- Apart from the factory, nothing depends on the difference. -/
  conceals : ∀ e, (d.refusing e).Conceals R
  /-- To have failed is such a difference. -/
  failed : ∀ {w w' : W} {e : ε}, d.connect w = (.error e, w') → R w w'
  opens : ∀ {w w' : W}, R w w' → serves w → serves w' →
    ∃ c v v', d.connect w = (.ok c, v) ∧ d.connect w' = (.ok c, v') ∧ R v v'
  /-- What is done to connections does not spoil the factory. -/
  lasts : d.Along fun w w' => serves w → serves w'

/-- The clock shows the same. -/
theorem Repairable.now (hd : d.Repairable serves R) (e : ε) (hw : R w w') :
    Alike R (d.now w) (d.now w') := (hd.conceals e).now hw

/-- **Checks do not depend on the factory**, and neither do the calls that they demand. -/
theorem Repairable.recycleEach (hd : d.Repairable serves R) (e : ε) {l : List (Handle C)}
    (hw : R w w') {calls : List (Call C ε)}
    (hcalls : (d.logged.recycleEach l (w, [])).2.2 = calls) :
    (d.recycleEach l w').1 = (d.recycleEach l w).1 ∧
      R (d.recycleEach l w).2 (d.recycleEach l w').2 ∧
      (d.logged.recycleEach l (w', [])).2 = ((d.recycleEach l w').2, calls) := by
  have hcheck : ∀ (c : C) {s s' : W × List (Call C ε)}, SameLog R s s' →
      Alike (SameLog R) (d.logged.recycle c s) (d.logged.recycle c s') :=
    fun c _ _ hs => (hd.conceals e).logged.recycle c hs
  have hstart : SameLog R (w, ([] : List (Call C ε))) (w', []) := ⟨hw, rfl⟩
  obtain ⟨outcomes, s, s', h, h', hworld, hlog⟩ := alike_recycleEach hcheck l hstart
  obtain ⟨_, _, hsame⟩ := d.recycleEach_logged l (w, [])
  obtain ⟨_, _, hsame'⟩ := d.recycleEach_logged l (w', [])
  rw [h] at hsame hcalls
  rw [h'] at hsame' ⊢
  obtain ⟨rfl, rfl⟩ := Prod.mk.inj hsame
  obtain ⟨houtcomes, rfl⟩ := Prod.mk.inj hsame'
  exact ⟨houtcomes.symm, hworld, Prod.ext rfl (hlog.trans hcalls)⟩

end Driver

end ConnPool
