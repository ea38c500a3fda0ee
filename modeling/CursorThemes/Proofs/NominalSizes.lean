import CursorThemes.Xcursor.Nearest

/-! # The nominal size that is taken

Of the nominal sizes of a cursor file one is taken: the nearest to the size asked for, and of two that
are as near the one that comes first in the file. Which of the two this is has nothing to do with
which is smaller. All the same, who asks for more never gets a smaller nominal size.

* **`Xcursor.Selects.eq`** and **`Xcursor.Selects.le`** say that there is one such size, and that it
  grows with the size asked for.
* **`Xcursor.Chosen`** says with whole numbers which nominal size of some pictures is meant.
* **`Xcursor.nearest_takes_one_size`** is the result. -/

namespace CursorThemes.Xcursor

variable {size larger nominal other : UInt32} {sizes : List UInt32} {pictures : List Picture}

/-! ## Selected sizes -/

/-- The distance of two sizes is that of their numbers. -/
theorem distance_eq_natAbs (a b : UInt32) :
    distance a b = ((a.toNat : Int) - b.toNat).natAbs := by
  rw [distance]
  omega

/-- A size that is selected is one of the sizes. -/
theorem Selects.mem (selected : Selects size sizes nominal) : nominal ∈ sizes := by
  obtain ⟨before, after, rfl, -, -⟩ := selected
  exact List.mem_append_right before List.mem_cons_self

/-- The selected size is the first one at its distance. -/
theorem Selects.find?_eq (selected : Selects size sizes nominal) :
    sizes.find? (fun other => distance other size == distance nominal size) = some nominal := by
  obtain ⟨before, after, rfl, less, -⟩ := selected
  have farther : before.find? (fun other => distance other size == distance nominal size) = none := by
    rw [List.find?_eq_none]
    intro other early same
    exact absurd (less other early) (by rw [beq_iff_eq.mp same]; exact Nat.lt_irrefl _)
  rw [List.find?_append, farther, Option.none_or]
  exact List.find?_cons_of_pos (beq_self_eq_true _)

/-- **One size is selected.** -/
theorem Selects.eq (selected : Selects size sizes nominal) (also : Selects size sizes other) :
    nominal = other := by
  have same : distance nominal size = distance other size :=
    Nat.le_antisymm (selected.least other also.mem) (also.least nominal selected.mem)
  have found := selected.find?_eq
  rw [same, also.find?_eq] at found
  exact (Option.some.inj found).symm

/-- **The selected size grows with the size asked for.** Two sizes can change places only between the
sizes asked for, so that the rule for sizes that are as near plays no part. -/
theorem Selects.le (selected : Selects size sizes nominal) (above : Selects larger sizes other)
    (grows : size ≤ larger) : nominal ≤ other := by
  by_cases same : size = larger
  · -- for one size it is the rule for ties that decides
    subst same
    rw [selected.eq above]
    exact UInt32.le_refl other
  · have here := selected.least other above.mem
    have there := above.least nominal selected.mem
    have strict : size.toNat < larger.toNat :=
      Nat.lt_of_le_of_ne (UInt32.le_iff_toNat_le.mp grows) fun equal => same (UInt32.toNat_inj.mp equal)
    rw [distance_eq_natAbs, distance_eq_natAbs] at here there
    rw [UInt32.le_iff_toNat_le]
    omega

/-! ## Pictures of the selected size -/

/-- **The nominal size that is meant by a size**: none of the pictures is nearer to it, and all before
the first picture of that nominal size are less near. -/
structure Chosen (size : UInt32) (pictures : List Picture) (nominal : UInt32) : Prop where
  /-- No nominal size is nearer. -/
  least : ∀ picture ∈ pictures,
    ((nominal.toNat : Int) - size.toNat).natAbs ≤ ((picture.nominal.toNat : Int) - size.toNat).natAbs
  /-- It is the nominal size of a picture, and earlier ones are less near. -/
  first : ∃ before picture after, pictures = before ++ picture :: after ∧ picture.nominal = nominal ∧
    ∀ earlier ∈ before, ((nominal.toNat : Int) - size.toNat).natAbs
      < ((earlier.nominal.toNat : Int) - size.toNat).natAbs

/-- The nominal size that is meant is the selected one. -/
theorem chosen_iff_selects :
    Chosen size pictures nominal ↔ Selects size (pictures.map Picture.nominal) nominal := by
  constructor
  · rintro ⟨least, before, picture, after, rfl, rfl, less⟩
    refine ⟨before.map Picture.nominal, after.map Picture.nominal, ?_, ?_, ?_⟩
    · rw [List.map_append, List.map_cons]
    · rw [List.forall_mem_map]
      intro earlier early
      rw [distance_eq_natAbs, distance_eq_natAbs]
      exact less earlier early
    · rw [List.forall_mem_map]
      intro later late
      rw [distance_eq_natAbs, distance_eq_natAbs]
      exact least later (List.mem_append_right before (List.mem_cons_of_mem picture late))
  · intro selected
    have least := List.forall_mem_map.mp selected.least
    obtain ⟨before, after, split, less, -⟩ := selected
    obtain ⟨front, rest, rfl, rfl, tail⟩ := List.map_eq_append_iff.mp split
    obtain ⟨picture, back, rfl, rfl, rfl⟩ := List.map_eq_cons_iff.mp tail
    simp only [distance_eq_natAbs] at least less
    exact ⟨least, front, picture, back, rfl, rfl,
      fun earlier early => less _ (List.mem_map_of_mem early)⟩

/-- **One nominal size is taken, with all its pictures.** There is nothing nearest exactly if there is
nothing at all. Otherwise one nominal size is meant by the size asked for: no nominal size of the
pictures is nearer, and it is the first one at its distance. All pictures of that nominal size are
taken, and no others, as they are and in the order of the list. The nominal size meant by a larger
size is never smaller. -/
theorem nearest_takes_one_size (pictures : List Picture) :
    (∀ size, nearest size pictures = [] ↔ pictures = []) ∧
    (pictures ≠ [] → ∀ size, ∃ nominal,
      (∀ other, Chosen size pictures other ↔ other = nominal) ∧
      nearest size pictures = (pictures.filter (·.nominal = nominal)).map Picture.frame) ∧
    ∀ size larger nominal other, size ≤ larger →
      Chosen size pictures nominal → Chosen larger pictures other → nominal ≤ other := by
  refine ⟨fun size => nearest_eq_nil_iff, fun filled size => ?_, ?_⟩
  · obtain ⟨nominal, selected, kept⟩ := exists_selects_of_ne_nil size filled
    refine ⟨nominal, fun other => ⟨fun chosen => ?_, ?_⟩, kept⟩
    · exact (chosen_iff_selects.mp chosen).eq selected
    · rintro rfl
      exact chosen_iff_selects.mpr selected
  · intro size larger nominal other grows chosen above
    exact (chosen_iff_selects.mp chosen).le (chosen_iff_selects.mp above) grows

/-- Pictures of two nominal sizes, by turns. -/
def interleaved : List Picture := [⟨48, .dot 1⟩, ⟨24, .dot 2⟩, ⟨48, .dot 3⟩]

/-- Half way between two nominal sizes the first one of the file is taken, with both its pictures; for
a smaller size it is the other one. -/
theorem nearest_takes_one_size_of_interleaved :
    interleaved ≠ [] ∧ (30 : UInt32) ≤ 36 ∧ Chosen 30 interleaved 24 ∧ Chosen 36 interleaved 48 ∧
      (24 : UInt32) ≤ 48 ∧ nearest 36 interleaved = [.dot 1, .dot 3] := by
  have filled : interleaved ≠ [] := by decide
  have below : Chosen 30 interleaved 24 :=
    ⟨by decide, [⟨48, .dot 1⟩], ⟨24, .dot 2⟩, [⟨48, .dot 3⟩], rfl, rfl, by decide⟩
  have tie : Chosen 36 interleaved 48 :=
    ⟨by decide, [], ⟨48, .dot 1⟩, [⟨24, .dot 2⟩, ⟨48, .dot 3⟩], rfl, rfl, by decide⟩
  obtain ⟨-, taken, grows⟩ := nearest_takes_one_size interleaved
  obtain ⟨nominal, only, kept⟩ := taken filled 36
  rw [← (only 48).mp tie] at kept
  exact ⟨filled, by decide, below, tie, grows 30 36 24 48 (by decide) below tie, kept⟩

end CursorThemes.Xcursor
