import ConnPool.Proofs.Pool.Runs

/-!
# Issued keys

A pool issues its keys by counting. So it never issues one twice – but a borrower can
write an issued key down as well as the pool can, and nothing makes it wait until the key
has been issued. This file is about the borrowers that do wait
(`ConnPool.Request.Polite`): as long as there are no others, every issued key in use
has been issued (`ConnPool.Pool.Reached.keysIssued`), and the next one to be issued is
free.
-/

namespace ConnPool

theorem Request.Polite.mono {C : Type} {r : Request (Handle C)} {p q : Pool C}
    (h : r.Polite p) (hle : p.nextKey ≤ q.nextKey) : r.Polite q :=
  fun n hn => Nat.lt_of_lt_of_le (h n hn) hle

namespace Pool

variable {W C ε : Type} {d : Driver W C ε}

/-- No issued key is in use before it has been issued. -/
def KeysIssued (p : Pool C) : Prop := ∀ n g, p.held.get? (.auto n) = some g → n < p.nextKey

theorem le_nextKey_checkOut (p : Pool C) (key : Option Key) (h : Handle C) :
    p.nextKey ≤ (p.checkOut key h).nextKey := by
  cases key with
  | none => exact Nat.le_succ _
  | some k => exact Nat.le_refl _

/-- A checkout under an issued key keeps to the keys that have been issued. -/
theorem KeysIssued.checkOut {p : Pool C} (hp : p.KeysIssued) {key : Option Key}
    (hkey : (Request.acquire key).Polite p) (h : Handle C) : (p.checkOut key h).KeysIssued := by
  intro n g hn
  rcases Table.get?_insert_eq_some_iff.mp hn with ⟨hk, _⟩ | ⟨_, hn⟩
  · -- the new entry: its key has just been issued, or was named and had been issued
    cases key with
    | none =>
      cases hk
      exact Nat.lt_succ_self _
    | some k => exact hkey n (congrArg (fun k => Request.acquire (some k)) hk.symm)
  · exact Nat.lt_of_lt_of_le (hp n g hn) (le_nextKey_checkOut p key h)

/-- The next key to be issued is free. -/
theorem KeysIssued.nextKey_free {p : Pool C} (hp : p.KeysIssued) :
    p.held.get? (.auto p.nextKey) = none :=
  Option.eq_none_iff_forall_ne_some.mpr fun g hg => Nat.lt_irrefl _ (hp _ g hg)

/-- The key a borrower is served under is free, unless the borrower is served already. -/
theorem KeysIssued.chooseKey_free {p : Pool C} (hp : p.KeysIssued) {key : Option Key}
    (hfree : key.bind p.held.get? = none) : p.held.get? (p.chooseKey key).1 = none := by
  cases key with
  | none => exact hp.nextKey_free
  | some k => exact hfree

theorem Opens.keysIssued {s s' : Pool C × W} (hstep : Opens d s s') (hp : s.1.KeysIssued) :
    s'.1.KeysIssued := by
  cases hstep with
  | failed _ _ _ => exact hp
  | added _ _ _ _ _ => exact hp

variable [DecidableEq C]

/-- **A step of a request keeps to the keys that have been issued**, unless the request
asks for one that has not – and no step makes an issued key unissued. -/
theorem Move.keysIssued {r : Request (Handle C)} {s s' : Pool C × W} (hstep : Move d r s s')
    (h : s.1.KeysIssued ∧ r.Polite s.1) : s'.1.KeysIssued ∧ r.Polite s'.1 := by
  obtain ⟨hp, hr⟩ := h
  cases hstep with
  | discard _ hdrop =>
    cases hdrop with
    | mk _ _ _ => exact ⟨hp, hr⟩
  | @reuse key p _ _ h rest _ _ _ _ _ _ =>
    exact ⟨KeysIssued.checkOut (p := p.unstack h rest) hp hr h,
      hr.mono (le_nextKey_checkOut (p.unstack h rest) key h)⟩
  | fail _ _ _ _ => exact ⟨hp, hr⟩
  | @lend key p _ _ _ conn now _ _ _ _ _ _ =>
    exact ⟨KeysIssued.checkOut (p := p.number) hp hr _,
      hr.mono (le_nextKey_checkOut p.number key ⟨p.nextId, conn, now⟩)⟩
  | giveBack _ hs =>
    refine ⟨fun n g hn => ?_, fun n hn => by cases hn⟩
    rw [hs.held_eq] at hn
    have hlt := hp n g (Table.get?_erase_eq_some_iff.mp hn).2
    cases hs <;> exact hlt
  | refill hopens => exact ⟨hopens.keysIssued hp, fun n hn => by cases hn⟩
  | look _ => exact ⟨hp, hr⟩
  | evict _ _ => exact ⟨hp, hr⟩
  | shut _ => exact ⟨hp, hr⟩
  | close => exact ⟨hp, hr⟩

variable {env : W → W → Prop} {config : Config} {w₀ : W} {hist : List (Moment W C)}

/-- **Among polite borrowers no issued key is in use before it has been issued.** -/
theorem Reached.keysIssued {s : Pool C × W} (h : Reached d env config w₀ hist s)
    (hpolite : ∀ m ∈ hist, m.Polite) : s.1.KeysIssued := by
  refine h.invariant (I := fun s => s.1.KeysIssued) (fun _ _ _ hn => by cases hn)
    (fun _ _ hstep => hstep.keysIssued) (fun _ _ _ _ hp => hp) fun m hm hp => ?_
  exact (serve_invariant (fun _ _ hstep => hstep.keysIssued) ⟨hp, hpolite m hm⟩).1

end Pool

end ConnPool
