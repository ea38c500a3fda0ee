import Mathlib.Data.List.Nodup
import Mathlib.Data.List.Perm.Basic

/-! # Lists of keys and values

A list in which no key occurs twice is as good as the set of its members: what is looked up is what is in
it, in whatever order it stands.

* **`KeyedList.lookup_eq_some_iff_mem`** relates looking up and being a member.
* **`KeyedList.lookup_eq_of_perm_filter`** says that only members with keys of a kind matter when a key of
  this kind is looked up, and that their order does not. -/

namespace CursorThemes.KeyedList

variable {α β : Type} [BEq α] [LawfulBEq α] {entries first second : List (α × β)} {key : α}
  {value : β}

/-- **What is looked up is what is in the list**, if no key occurs twice. -/
theorem lookup_eq_some_iff_mem (nodup : (entries.map Prod.fst).Nodup) :
    entries.lookup key = some value ↔ (key, value) ∈ entries := by
  constructor
  · intro found
    obtain ⟨before, after, split, -⟩ := List.lookup_eq_some_iff.mp found
    rw [split]
    exact List.mem_append_right before List.mem_cons_self
  · intro member
    obtain ⟨before, after, split⟩ := List.append_of_mem member
    rw [split, List.map_append, List.map_cons, List.nodup_middle, List.nodup_cons] at nodup
    refine List.lookup_eq_some_iff.mpr ⟨before, after, split, ?_⟩
    -- the key is not there a second time
    intro other early
    rw [bne_iff_ne]
    intro same
    exact nodup.1 (List.mem_append_left _ (List.mem_map.mpr ⟨other, early, same.symm⟩))

/-- A key that cannot be looked up is in no member. -/
theorem lookup_eq_none_iff_not_mem :
    entries.lookup key = none ↔ ∀ value, (key, value) ∉ entries := by
  rw [List.lookup_eq_none_iff]
  constructor
  · intro other value member
    exact absurd rfl (bne_iff_ne.mp (other _ member))
  · rintro absent ⟨_, value⟩ member
    rw [bne_iff_ne]
    rintro rfl
    exact absent value member

/-- A key that is not there yet may be added. -/
theorem nodup_keys_append (nodup : (entries.map Prod.fst).Nodup) (fresh : entries.lookup key = none)
    (value : β) : ((entries ++ [(key, value)]).map Prod.fst).Nodup := by
  rw [List.map_append]
  refine List.nodup_append.mpr ⟨nodup, List.nodup_singleton key, ?_⟩
  intro other listed same last
  obtain rfl := List.mem_singleton.mp last
  rintro rfl
  obtain ⟨⟨_, held⟩, member, rfl⟩ := List.mem_map.mp listed
  exact lookup_eq_none_iff_not_mem.mp fresh held member

/-- **Only members with keys of a kind matter** when a key of this kind is looked up, and their order
does not. -/
theorem lookup_eq_of_perm_filter {kind : α → Bool} (firstNodup : (first.map Prod.fst).Nodup)
    (secondNodup : (second.map Prod.fst).Nodup)
    (same : (first.filter fun entry => kind entry.1).Perm (second.filter fun entry => kind entry.1))
    (known : kind key = true) : first.lookup key = second.lookup key := by
  refine Option.ext fun value => ?_
  rw [lookup_eq_some_iff_mem firstNodup, lookup_eq_some_iff_mem secondNodup]
  simpa [List.mem_filter, known] using same.mem_iff (a := (key, value))

end CursorThemes.KeyedList
