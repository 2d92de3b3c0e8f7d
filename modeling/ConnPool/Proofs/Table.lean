import ConnPool.Table
import Mathlib.Data.List.Basic

/-!
# Tables with other keys and values

A table may have the entries of another, with other keys and other values in the place of the
old ones, and in any order (`ConnPool.Table.Maps`). If different keys are replaced by different
keys, then nothing that is done to the two tables tells them apart: lookups find values that
correspond, and after an insertion or an erasure the tables still correspond.

The order of the entries never matters. With the identity for both replacements, `Maps` says
that two tables differ in that order at most.
-/

namespace ConnPool

namespace Table

variable {α α' β β' : Type} {f : α → α'} {g : β → β'} {t : Table α β} {u : Table α' β'}

/-- **A table with the entries of another**, keys replaced by `f` and values by `g`, in any
order. -/
def Maps (f : α → α') (g : β → β') (t : Table α β) (u : Table α' β') : Prop :=
  u.entries.Perm (t.entries.map (Prod.map f g))

theorem maps_refl (t : Table α β) : t.Maps id id t := by
  rw [Maps, Prod.map_id, List.map_id]

theorem maps_empty : (∅ : Table α β).Maps f g ∅ := .nil

/-- Both have the same number of entries. -/
theorem Maps.size (h : t.Maps f g u) : u.size = t.size := by
  rw [Table.size, Table.size, h.length_eq, List.length_map]

theorem Maps.values (h : t.Maps f g u) : u.values.Perm (t.values.map g) := by
  have hvalues := h.map Prod.snd
  rw [List.map_map] at hvalues
  rwa [Table.values, Table.values, List.map_map]

variable [DecidableEq α] [DecidableEq α']

/-- **Lookups correspond.** -/
theorem Maps.get? (h : t.Maps f g u) (hf : Function.Injective f) (a : α) :
    u.get? (f a) = (t.get? a).map g := by
  apply Option.ext
  intro b
  rw [get?_eq_some_iff, h.mem_iff, List.mem_map, Option.map_eq_some_iff]
  constructor
  · rintro ⟨⟨a', b'⟩, hmem, heq⟩
    obtain ⟨ha, rfl⟩ := Prod.mk.inj heq
    exact ⟨b', get?_eq_some_iff.mpr (hf ha ▸ hmem), rfl⟩
  · rintro ⟨b', hb', rfl⟩
    exact ⟨(a, b'), get?_eq_some_iff.mp hb', rfl⟩

omit [DecidableEq α] [DecidableEq α'] in
/-- Corresponding entries are taken out. -/
theorem Maps.filter (h : t.Maps f g u) {p : α' × β' → Bool} {q : α × β → Bool}
    (hpq : ∀ e, p (Prod.map f g e) = q e) :
    (u.entries.filter p).Perm ((t.entries.filter q).map (Prod.map f g)) := by
  have hfilter := List.Perm.filter p h
  rw [List.filter_map] at hfilter
  exact hfilter.trans (.of_eq (congrArg _ (List.filter_congr fun e _ => hpq e)))

/-- Erasing corresponding keys. -/
theorem Maps.erase (h : t.Maps f g u) (hf : Function.Injective f) (a : α) :
    (t.erase a).Maps f g (u.erase (f a)) :=
  h.filter fun e => by simp only [Prod.map_fst, ne_eq, hf.eq_iff]

theorem Maps.eraseAll (h : t.Maps f g u) (hf : Function.Injective f) (l : List α) :
    (t.eraseAll l).Maps f g (u.eraseAll (l.map f)) :=
  h.filter fun e => by simp only [Prod.map_fst, List.mem_map_of_injective hf]

/-- Inserting corresponding entries. -/
theorem Maps.insert (h : t.Maps f g u) (hf : Function.Injective f) (a : α) (b : β) :
    (t.insert a b).Maps f g (u.insert (f a) (g b)) :=
  (h.erase hf a).cons (f a, g b)

end Table

end ConnPool
