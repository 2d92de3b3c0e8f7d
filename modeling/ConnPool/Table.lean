/-!
# Finite tables

A pool keeps two small dictionaries – which key holds which connection, and which
connection is held under which key – and a registry keeps a third. All of them are
`ConnPool.Table`: a list of entries in which no key occurs twice. That the keys are
distinct is part of the type, so the number of entries is the number of keys and
no lookup ever has a choice.

The order of the entries is never part of an answer. What a table *is* is the
partial function `ConnPool.Table.get?`, and each operation is described by what it
does to that function: `ConnPool.Table.get?_insert`, `ConnPool.Table.get?_erase`.
-/

namespace ConnPool

/-- A finite partial function from `α` to `β`, as a list of entries with distinct keys. -/
structure Table (α β : Type) where
  /-- The entries, the latest insertion first. -/
  entries : List (α × β)
  /-- No key has two entries. -/
  nodup : (entries.map Prod.fst).Nodup

namespace Table

variable {α β : Type}

/-! ### Views and operations -/

/-- The table without entries. -/
def empty : Table α β := ⟨[], List.nodup_nil⟩

instance : EmptyCollection (Table α β) := ⟨empty⟩

instance : Inhabited (Table α β) := ⟨empty⟩

/-- The number of entries. -/
def size (t : Table α β) : Nat := t.entries.length

/-- The keys that have an entry. -/
def keys (t : Table α β) : List α := t.entries.map Prod.fst

/-- The values of the entries. -/
def values (t : Table α β) : List β := t.entries.map Prod.snd

variable [DecidableEq α]

/-- The value at a key, if it has one. -/
def get? (t : Table α β) (a : α) : Option β :=
  (t.entries.find? fun e => e.1 = a).map Prod.snd

/-- The table without the entry of a key. -/
def erase (t : Table α β) (a : α) : Table α β where
  entries := t.entries.filter fun e => e.1 ≠ a
  nodup := t.nodup.sublist (List.filter_sublist.map Prod.fst)

/-- The table without the entries of some keys. -/
def eraseAll (t : Table α β) (l : List α) : Table α β where
  entries := t.entries.filter fun e => e.1 ∉ l
  nodup := t.nodup.sublist (List.filter_sublist.map Prod.fst)

/-- The table with a value at a key, in place of any the key had before. -/
def insert (t : Table α β) (a : α) (b : β) : Table α β where
  entries := (a, b) :: (t.erase a).entries
  nodup := by
    refine List.nodup_cons.2 ⟨?_, (t.erase a).nodup⟩
    simp [erase]

/-! ### Membership and lookup -/

@[simp] theorem get?_empty (a : α) : (empty : Table α β).get? a = none := rfl

omit [DecidableEq α] in
@[simp] theorem size_empty : (empty : Table α β).size = 0 := rfl

omit [DecidableEq α] in
/-- In a list of entries with distinct keys, two entries with one key are the same. -/
theorem eq_of_nodup_of_mem {l : List (α × β)} (hl : (l.map Prod.fst).Nodup) {a : α} {b b' : β}
    (h : (a, b) ∈ l) (h' : (a, b') ∈ l) : b = b' := by
  induction l with
  | nil => simp at h
  | cons x l ih =>
    rw [List.map_cons, List.nodup_cons] at hl
    have out : ∀ c : β, (a, c) ∈ l → a ∈ l.map Prod.fst := fun c hc =>
      List.mem_map.2 ⟨(a, c), hc, rfl⟩
    rcases List.mem_cons.1 h with e | m <;> rcases List.mem_cons.1 h' with e' | m'
    · exact (Prod.ext_iff.1 (e.trans e'.symm)).2
    · subst e
      exact absurd (out b' m') hl.1
    · subst e'
      exact absurd (out b m) hl.1
    · exact ih hl.2 m m'

/-- **A lookup finds exactly the entries.** -/
theorem get?_eq_some_iff {t : Table α β} {a : α} {b : β} :
    t.get? a = some b ↔ (a, b) ∈ t.entries := by
  constructor
  · intro h
    obtain ⟨e, he, rfl⟩ := Option.map_eq_some_iff.1 h
    have := List.find?_some he
    simp only [decide_eq_true_eq] at this
    exact this ▸ List.mem_of_find?_eq_some he
  · intro h
    unfold get?
    cases he : t.entries.find? (fun e => e.1 = a) with
    | none => simpa using List.find?_eq_none.1 he _ h
    | some e =>
      have h1 := List.find?_some he
      simp only [decide_eq_true_eq] at h1
      subst h1
      exact congrArg some (eq_of_nodup_of_mem t.nodup (List.mem_of_find?_eq_some he) h)

/-- A lookup fails exactly at the keys without an entry. -/
theorem get?_eq_none_iff {t : Table α β} {a : α} : t.get? a = none ↔ a ∉ t.keys := by
  simp only [get?, keys, Option.map_eq_none_iff, List.find?_eq_none, decide_eq_true_eq,
    List.mem_map, not_exists, not_and]

/-- Erasing a key makes it the one key without a value. -/
theorem get?_erase (t : Table α β) (a x : α) :
    (t.erase a).get? x = if x = a then none else t.get? x := by
  by_cases h : x = a
  · subst h
    rw [if_pos rfl, get?_eq_none_iff]
    simp [keys, erase]
  · rw [if_neg h]
    apply Option.ext
    intro b
    simp [get?_eq_some_iff, erase, h]

/-- Inserting at a key changes the value there and nowhere else. -/
theorem get?_insert (t : Table α β) (a : α) (b : β) (x : α) :
    (t.insert a b).get? x = if x = a then some b else t.get? x := by
  by_cases h : x = a
  · subst h
    rw [if_pos rfl, get?_eq_some_iff]
    exact List.mem_cons_self
  · rw [if_neg h]
    apply Option.ext
    intro b'
    rw [get?_eq_some_iff, get?_eq_some_iff]
    simp [insert, erase, h]

/-- What a lookup finds after an erasure was there before, at another key. -/
theorem get?_erase_eq_some_iff {t : Table α β} {a x : α} {b : β} :
    (t.erase a).get? x = some b ↔ x ≠ a ∧ t.get? x = some b := by
  rw [get?_erase]
  by_cases h : x = a <;> simp [h]

/-- What a lookup finds after an insertion has been inserted, or was there before at
another key. -/
theorem get?_insert_eq_some_iff {t : Table α β} {a x : α} {b c : β} :
    (t.insert a b).get? x = some c ↔ (x = a ∧ b = c) ∨ (x ≠ a ∧ t.get? x = some c) := by
  rw [get?_insert]
  by_cases h : x = a <;> simp [h]

omit [DecidableEq α] in
/-- A table is its entries. -/
@[ext] theorem ext {t u : Table α β} (h : t.entries = u.entries) : t = u := by
  cases t
  cases u
  cases h
  rfl

@[simp] theorem eraseAll_nil (t : Table α β) : t.eraseAll [] = t :=
  ext (List.filter_eq_self.2 fun _ _ => by simp)

/-- Erasing one key and then some others is erasing them all. -/
theorem eraseAll_erase (t : Table α β) (a : α) (l : List α) :
    (t.erase a).eraseAll l = t.eraseAll (l ++ [a]) := by
  apply ext
  simp only [eraseAll, erase, List.filter_filter]
  refine List.filter_congr fun e _ => ?_
  simp only [List.mem_append, List.mem_singleton, not_or, Bool.decide_and]

/-- Erasing some keys and then some others is erasing them all. -/
theorem eraseAll_eraseAll (t : Table α β) (l l' : List α) :
    (t.eraseAll l).eraseAll l' = t.eraseAll (l ++ l') := by
  apply ext
  simp only [eraseAll, List.filter_filter]
  refine List.filter_congr fun e _ => ?_
  simp only [List.mem_append, not_or, Bool.decide_and, Bool.and_comm]

/-- Erasing one key. -/
theorem erase_eq_eraseAll (t : Table α β) (a : α) : t.erase a = t.eraseAll [a] := by
  apply ext
  simp only [erase, eraseAll, List.mem_singleton]

/-- The keys that have been erased, and no others, are without a value. -/
theorem get?_eraseAll (t : Table α β) (l : List α) (x : α) :
    (t.eraseAll l).get? x = if x ∈ l then none else t.get? x := by
  apply Option.ext
  intro b
  by_cases h : x ∈ l <;> simp [get?_eq_some_iff, eraseAll, h]

/-- The values are what the lookups find. -/
theorem mem_values {t : Table α β} {b : β} : b ∈ t.values ↔ ∃ a, t.get? a = some b := by
  simp only [values, List.mem_map, get?_eq_some_iff]
  constructor
  · rintro ⟨e, he, rfl⟩
    exact ⟨e.1, he⟩
  · rintro ⟨a, ha⟩
    exact ⟨(a, b), ha, rfl⟩

/-! ### Sizes -/

/-- Filtering out a key that does not occur keeps the whole list. -/
theorem filter_ne_eq_self {l : List (α × β)} {a : α} (h : a ∉ l.map Prod.fst) :
    (l.filter fun e => e.1 ≠ a) = l := by
  refine List.filter_eq_self.2 fun e he => ?_
  simp only [decide_eq_true_eq]
  rintro rfl
  exact h (List.mem_map.2 ⟨e, he, rfl⟩)

/-- Filtering out a key that occurs once takes one entry away. -/
theorem length_filter_ne_add_one {l : List (α × β)} (hl : (l.map Prod.fst).Nodup) {a : α}
    (h : a ∈ l.map Prod.fst) : (l.filter fun e => e.1 ≠ a).length + 1 = l.length := by
  induction l with
  | nil => simp at h
  | cons x l ih =>
    rw [List.map_cons, List.nodup_cons] at hl
    by_cases hx : x.1 = a
    · subst hx
      rw [List.filter_cons_of_neg (by simp), filter_ne_eq_self hl.1, List.length_cons]
    · rw [List.filter_cons_of_pos (by simpa using hx), List.length_cons, List.length_cons,
        ih hl.2 ((List.mem_cons.1 h).resolve_left (Ne.symm hx))]

/-- Erasing a key that has no entry changes nothing. -/
theorem erase_eq_self {t : Table α β} {a : α} (h : t.get? a = none) : t.erase a = t := by
  have := filter_ne_eq_self (get?_eq_none_iff.1 h)
  cases t
  simpa only [erase, mk.injEq] using this

/-- Erasing what has been inserted at a fresh key. -/
theorem erase_insert {t : Table α β} {a : α} (b : β) (h : t.get? a = none) :
    (t.insert a b).erase a = t := by
  apply ext
  change ((a, b) :: (t.erase a).entries).filter (fun e => e.1 ≠ a) = t.entries
  rw [erase_eq_self h, List.filter_cons_of_neg (by simp),
    filter_ne_eq_self (get?_eq_none_iff.1 h)]

/-- Inserting at a key that has just been erased. -/
theorem insert_erase (t : Table α β) (a : α) (b : β) : (t.erase a).insert a b = t.insert a b := by
  apply ext
  change (a, b) :: ((t.erase a).erase a).entries = (a, b) :: (t.erase a).entries
  rw [erase_eq_self ((get?_erase t a a).trans (if_pos rfl))]

/-- A table in which nothing is found is empty. -/
theorem eq_empty {t : Table α β} (h : ∀ a, t.get? a = none) : t = ∅ := by
  refine ext (List.eq_nil_iff_forall_not_mem.2 fun ⟨a, b⟩ hmem => ?_)
  cases (h a).symm.trans (get?_eq_some_iff.2 hmem)

/-- Erasing a key that has an entry takes one entry away. -/
theorem size_erase_add_one {t : Table α β} {a : α} {b : β} (h : t.get? a = some b) :
    (t.erase a).size + 1 = t.size :=
  length_filter_ne_add_one t.nodup (List.mem_map.2 ⟨(a, b), get?_eq_some_iff.1 h, rfl⟩)

/-- Inserting at a fresh key adds one entry. -/
theorem size_insert_of_get?_eq_none {t : Table α β} {a : α} (b : β) (h : t.get? a = none) :
    (t.insert a b).size = t.size + 1 := by
  show ((a, b) :: (t.erase a).entries).length = _
  rw [erase_eq_self h]
  rfl

omit [DecidableEq α] in
/-- There are as many values as entries. -/
@[simp] theorem length_values (t : Table α β) : t.values.length = t.size := List.length_map ..

/-- Inserting adds at most one entry. -/
theorem size_insert_le (t : Table α β) (a : α) (b : β) : (t.insert a b).size ≤ t.size + 1 :=
  Nat.succ_le_succ (List.length_filter_le _ _)

/-! ### Up to the order of the entries -/

/-- The entry of a key stands before the others, up to the order. -/
theorem entries_perm_erase {t : Table α β} {a : α} {b : β} (h : t.get? a = some b) :
    t.entries.Perm ((a, b) :: (t.erase a).entries) := by
  obtain ⟨l, hl⟩ := t
  replace h : (a, b) ∈ l := get?_eq_some_iff.1 h
  change l.Perm ((a, b) :: l.filter fun e => e.1 ≠ a)
  induction l with
  | nil => simp at h
  | cons x l ih =>
    rw [List.map_cons, List.nodup_cons] at hl
    rcases List.mem_cons.1 h with rfl | hmem
    · rw [List.filter_cons_of_neg (by simp), filter_ne_eq_self hl.1]
    · have hx : x.1 ≠ a := fun hxa => hl.1 (hxa ▸ List.mem_map.2 ⟨(a, b), hmem, rfl⟩)
      rw [List.filter_cons_of_pos (by simpa using hx)]
      exact ((ih hl.2 hmem).cons x).trans (.swap _ _ _)

/-- Erasing a key takes its value away. -/
theorem values_perm_erase {t : Table α β} {a : α} {b : β} (h : t.get? a = some b) :
    t.values.Perm (b :: (t.erase a).values) :=
  (entries_perm_erase h).map Prod.snd

/-- Inserting at a fresh key adds the value. -/
theorem values_insert {t : Table α β} {a : α} (b : β) (h : t.get? a = none) :
    (t.insert a b).values = b :: t.values := by
  change b :: (t.erase a).values = _
  rw [erase_eq_self h]

end Table

end ConnPool
