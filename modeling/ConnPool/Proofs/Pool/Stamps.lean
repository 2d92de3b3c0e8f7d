import ConnPool.Proofs.Pool.Refilling

/-!
# Since when a connection has been idle

A connection gets on the idle stack in one of two ways. It has come back and is kept, or it has
been opened to fill the pool up. `ConnPool.Pool.Moment.Shelves` says of a moment of a run that
this happens to a connection, and what the clock shows when it does.

In the course of a run a connection may get there many times. Its stamp is always from the last
time (`ConnPool.Pool.Reached.lastShelved`): whoever leaves the stack loses its stamp, and while it
stays there it is not put there again.
-/

namespace ConnPool

namespace Pool

variable {W C ε : Type} {d : Driver W C ε} {p : Pool C} {w : W} {id : ConnId} {t u : Instant}

/-! ### Getting on the idle stack -/

/-- **Filling a pool up delivers a connection**, and this is its number and its stamp. -/
def Delivers (d : Driver W C ε) (s : Pool C × W) (id : ConnId) (t : Instant) : Prop :=
  ∃ made failure s' i x, Fills d s made failure s' ∧ made[i]? = some x ∧ s.1.nextId + i = id ∧
    x.since = t

/-- A connection that is delivered gets a new number. -/
theorem Delivers.le {s : Pool C × W} (h : Delivers d s id t) : s.1.nextId ≤ id := by
  obtain ⟨_, _, _, i, _, _, _, rfl, _⟩ := h
  exact Nat.le_add_right _ i

/-- It is stamped so when the pool has been filled up. -/
theorem Delivers.idleSince? {s : Pool C × W} (h : Delivers d s id t) :
    (s.1.refill d s.2).1.idleSince? id = some t := by
  obtain ⟨made, failure, s', i, x, hfills, hx, rfl, rfl⟩ := h
  rw [← hfills.eq_refill]
  exact hfills.stocked.stamped i x hx

/-- What is stamped after filling up has been delivered, or was stamped before. -/
theorem delivers_or_idleSince? (h : (p.refill d w).1.idleSince? id = some t) :
    Delivers d (p, w) id t ∨ p.idleSince? id = some t := by
  obtain ⟨made, failure, hfills⟩ := fills_refill d p w
  by_cases hid : id < p.nextId ∨ p.nextId + made.length ≤ id
  · exact Or.inr ((hfills.stocked.stamps_eq id hid).symm.trans h)
  · obtain ⟨hle, hlt⟩ := not_or.mp hid
    obtain ⟨i, rfl⟩ := Nat.exists_eq_add_of_le (Nat.le_of_not_lt hle)
    have hi : i < made.length := Nat.lt_of_add_lt_add_left (Nat.lt_of_not_le hlt)
    have hx : made[i]? = some made[i] := List.getElem?_eq_getElem hi
    refine Or.inl ⟨made, failure, _, i, made[i], hfills, hx, rfl, ?_⟩
    exact Option.some_inj.mp ((hfills.stocked.stamped i _ hx).symm.trans h)

/-- What becomes of a connection that has come back is determined. -/
theorem Disposed.eq_dispose {h : Handle C} {force : Bool} {s s' : Pool C × W}
    (hs : Disposed d h force s s') : s' = s.1.dispose d h force s.2 := by
  rcases hs with hunwanted | ⟨hwanted, hcheck, hbad⟩ | ⟨hwanted, hcheck, hgood, hnow⟩
  · rw [dispose, if_pos hunwanted]
  · simp only [dispose, hwanted, shelveIfUsable, hcheck, hbad, Bool.false_eq_true, if_false]
  · simp only [dispose, hwanted, shelveIfUsable, hcheck, hgood, shelve, hnow, Bool.false_eq_true,
      if_false, if_true]

variable [DecidableEq C] {m : Moment W C}

/-- **A moment puts a connection on the idle stack**: a release takes effect then. -/
inductive Moment.Shelves (d : Driver W C ε) (m : Moment W C) : ConnId → Instant → Prop
  /-- The connection has come back and is kept. The clock is read after the check. -/
  | kept {h : Handle C} {key : Option Key} {force : Bool} {k : Key}
      (hrequest : m.request = .release h key force) (hk : m.pool.checkout? h key = some k)
      (hkeeps : Keeps d m.pool m.world h force) :
      Shelves d m h.id (d.now (d.recycle h.conn m.world).2).1
  /-- The connection has been opened to fill the pool up. -/
  | opened {h : Handle C} {key : Option Key} {force : Bool} {k : Key} {id : ConnId} {t : Instant}
      (hrequest : m.request = .release h key force) (hk : m.pool.checkout? h key = some k)
      (hopen : m.pool.closed = false)
      (hdelivers : Delivers d ((m.pool.checkIn k h).dispose d h force m.world) id t) :
      Shelves d m id t

/-- **No connection gets on the stack that is there.** -/
theorem Consistent.not_shelves (hp : m.pool.Consistent) (hid : m.pool.idleSince? id = some t)
    (u : Instant) : ¬m.Shelves d id u := by
  intro hshelves
  cases hshelves with
  | @kept h key force k hrequest hk hkeeps =>
    -- what comes back was checked out
    obtain ⟨_, g, hheld, hsame, _⟩ := Pool.checkout?_eq_some_iff.mp hk
    refine hp.apart hheld ((hp.stamped g.id).mp ?_)
    rw [hsame]
    exact Option.isSome_of_eq_some hid
  | @opened h key force k _ _ hrequest hk hopen hdelivers =>
    have hnextId : ((m.pool.checkIn k h).dispose d h force m.world).1.nextId = m.pool.nextId :=
      (disposed d h force (m.pool.checkIn k h) m.world).nextId_eq
    exact Nat.lt_irrefl _ (Nat.lt_of_lt_of_le (hp.stamps_lt hid) (hnextId ▸ hdelivers.le))

/-- **What gets on the stack is stamped**, with what the clock has shown. -/
theorem Moment.Shelves.idleSince? (h : m.Shelves d id t) (hp : m.pool.Consistent) :
    (m.after d).1.idleSince? id = some t := by
  rcases h with @⟨h, key, force, k, hrequest, hk, hkeeps⟩ |
      @⟨h, key, force, k, _, _, hrequest, hk, hopen, hdelivers⟩
  · have hs := disposed d h force (m.pool.checkIn k h) m.world
    obtain ⟨_, hback⟩ := hs.keeps_or_not.resolve_right fun hnot =>
      hnot.1 ((keeps_checkIn k h).mpr hkeeps)
    have hlt : h.id < ((m.pool.checkIn k h).dispose d h force m.world).1.nextId :=
      hs.nextId_eq.symm ▸ (hp.checkIn hk).2.lt
    obtain ⟨made, failure, hfills⟩ := fills_refill d
      ((m.pool.checkIn k h).dispose d h force m.world).1
      ((m.pool.checkIn k h).dispose d h force m.world).2
    rw [Moment.after, hrequest]
    change (m.pool.release d h key force m.world).2.1.idleSince? h.id = some _
    -- filling up gives no stamp to a number that has been given away
    rw [release_of_some hkeeps.isOpen hk]
    refine (hfills.stocked.stamps_eq h.id (Or.inl hlt)).trans ?_
    rw [hback]
    exact (Table.get?_insert _ _ _ _).trans (if_pos rfl)
  · rw [Moment.after, hrequest]
    change (m.pool.release d h key force m.world).2.1.idleSince? id = some t
    rw [release_of_some hopen hk]
    exact hdelivers.idleSince?

/-- A step that does not belong to a release stamps nothing. -/
theorem Move.idleSince?_of_ne_release {r : Request (Handle C)} {s s' : Pool C × W}
    (hstep : Move d r s s') (hr : ∀ h key force, r ≠ .release h key force)
    (h : s'.1.idleSince? id = some t) : s.1.idleSince? id = some t := by
  cases hstep with
  | discard _ hdrop =>
    cases hdrop with
    | mk _ _ _ => exact (Table.get?_erase_eq_some_iff.mp h).2
  | reuse _ _ _ _ _ => exact (Table.get?_erase_eq_some_iff.mp h).2
  | fail _ _ _ _ => exact h
  | lend _ _ _ _ _ _ => exact h
  | giveBack _ _ => exact absurd rfl (hr _ _ _)
  | refill _ => exact absurd rfl (hr _ _ _)
  | look _ => exact h
  | evict _ _ => exact (Table.get?_erase_eq_some_iff.mp h).2
  | shut _ => exact h
  | close => exact h

/-- **Whatever is stamped after a moment** has been put on the stack then, or was stamped
before. -/
theorem Moment.shelves_or_idleSince? (h : (m.after d).1.idleSince? id = some t) :
    m.Shelves d id t ∨ m.pool.idleSince? id = some t := by
  by_cases hr : ∀ h key force, m.request ≠ .release h key force
  · refine Or.inr (serve_invariant
      (I := fun s => s.1.idleSince? id = some t → m.pool.idleSince? id = some t) ?_ (fun h => h) h)
    intro s s' hstep hs h
    exact hs (hstep.idleSince?_of_ne_release hr h)
  · simp only [not_forall, not_not] at hr
    obtain ⟨g, key, force, hrequest⟩ := hr
    rw [Moment.after, hrequest] at h
    replace h : (m.pool.release d g key force m.world).2.1.idleSince? id = some t := h
    have hend := released d g key force m.pool m.world
    generalize m.pool.release d g key force m.world = result at hend h
    -- the connection that has come back, before the pool is filled up
    have hback : ∀ {k : Key} {s : Pool C × W}, m.pool.checkout? g key = some k →
        Disposed d g force (m.pool.checkIn k g, m.world) s → s.1.idleSince? id = some t →
        m.Shelves d id t ∨ m.pool.idleSince? id = some t := by
      intro k s hk hs h
      have hcases := hs.keeps_or_not
      rw [keeps_checkIn] at hcases
      rcases hcases with ⟨hkeeps, hs⟩ | ⟨_, hs⟩ <;> rw [hs] at h
      · rcases Table.get?_insert_eq_some_iff.mp h with ⟨rfl, rfl⟩ | ⟨_, hold⟩
        · exact Or.inl (.kept hrequest hk hkeeps)
        · exact Or.inr hold
      · exact Or.inr h
    rcases hend with hnone | ⟨hk, hs, hclosed⟩ | ⟨hk, hs, hopen⟩
    · exact Or.inr h
    · exact hback hk hs h
    · rcases delivers_or_idleSince? h with hdelivers | h
      · exact Or.inl (.opened hrequest hk hopen (hs.eq_dispose ▸ hdelivers))
      · exact hback hk hs h

/-! ### The latest time -/

variable {env : W → W → Prop} {config : Config} {w₀ : W} {hist : List (Moment W C)}

/-- **A connection has last been put on the idle stack** in the course of a run, and this is what
the clock has shown: at some moment, and at none since then, or when the pool was built. -/
def LastShelved (d : Driver W C ε) (config : Config) (w₀ : W) (hist : List (Moment W C))
    (id : ConnId) (t : Instant) : Prop :=
  (∃ since m before, hist = since ++ m :: before ∧ m.Shelves d id t ∧
      ∀ m' ∈ since, ∀ u, ¬m'.Shelves d id u) ∨
    Delivers d (fresh config, w₀) id t ∧ ∀ m ∈ hist, ∀ u, ¬m.Shelves d id u

/-- It is still the latest time after a moment at which this does not happen again. -/
theorem LastShelved.cons (h : LastShelved d config w₀ hist id t)
    (hm : ∀ u, ¬m.Shelves d id u) : LastShelved d config w₀ (m :: hist) id t := by
  rcases h with ⟨since, m₁, before, rfl, hshelves, hnever⟩ | ⟨hdelivers, hnever⟩
  · exact Or.inl ⟨m :: since, m₁, before, rfl, hshelves, List.forall_mem_cons.mpr ⟨hm, hnever⟩⟩
  · exact Or.inr ⟨hdelivers, List.forall_mem_cons.mpr ⟨hm, hnever⟩⟩

/-- **A stamp is from the latest time** that its connection has been put on the idle stack. -/
theorem Reached.lastShelved {s : Pool C × W} (h : Reached d env config w₀ hist s)
    (hid : s.1.idleSince? id = some t) : LastShelved d config w₀ hist id t := by
  obtain ⟨p₀, w₁, hbuild, hrun⟩ := h
  induction hrun with
  | start =>
    obtain rfl : ((fresh config).refill d w₀).1 = p₀ := congrArg Prod.fst (refill_of_build hbuild)
    rcases delivers_or_idleSince? hid with hdelivers | hnone
    · exact Or.inr ⟨hdelivers, fun _ hm => absurd hm List.not_mem_nil⟩
    · cases hnone
  | drift _ _ ih => exact ih hid
  | @serve hist s hrun r ih =>
    have hp : s.1.Consistent := Reached.consistent ⟨p₀, w₁, hbuild, hrun⟩
    rcases Moment.shelves_or_idleSince? (m := ⟨s.1, s.2, r⟩) hid with hshelves | hold
    · exact Or.inl ⟨[], _, hist, rfl, hshelves, fun _ hm => absurd hm List.not_mem_nil⟩
    · exact (ih hold).cons (hp.not_shelves hold)

end Pool

end ConnPool
