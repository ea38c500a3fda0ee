import CursorThemes.Path
import Mathlib.Logic.Function.Defs

/-! # The names in a path

What the bytes of a text are, and which names stand between the separators of a path that is
continued.

* **`Text.separator_not_mem_toBytes`** says that a separator in the bytes of a text is a character by
  itself.
* **`Path.components_join`** says what becomes of the components of a path that a name continues, and
  **`Path.names_join`** does so for any relative continuation, empty components apart. -/

namespace CursorThemes

/-! ## Names in bytes -/

namespace Text

/-- The bytes of a text are those of its characters. -/
theorem toBytes_eq_flatMap (text : String) :
    toBytes text = text.toList.flatMap String.utf8EncodeChar := by
  rw [toBytes, ← String.utf8Encode_toList, List.utf8Encode, List.data_toByteArray]

/-- A byte below `0x80` is a character by itself. -/
theorem toNat_eq_of_mem_utf8EncodeChar {c : Char} {b : UInt8}
    (member : b ∈ String.utf8EncodeChar c) (ascii : b.toNat < 0x80) : c.toNat = b.toNat := by
  have value : c.val.toNat = c.toNat := rfl
  simp only [String.utf8EncodeChar, value] at member
  split at member
  · rw [List.mem_singleton.mp member, UInt8.toNat_ofNat']
    omega
  · -- all bytes of a longer character are marked
    have marked : 0x80 ≤ b.toNat := by
      split at member
      · simp only [List.mem_cons, List.not_mem_nil, or_false] at member
        rcases member with rfl | rfl <;> rw [UInt8.toNat_ofNat'] <;> omega
      · split at member
        · simp only [List.mem_cons, List.not_mem_nil, or_false] at member
          rcases member with rfl | rfl | rfl <;> rw [UInt8.toNat_ofNat'] <;> omega
        · simp only [List.mem_cons, List.not_mem_nil, or_false] at member
          rcases member with rfl | rfl | rfl | rfl <;> rw [UInt8.toNat_ofNat'] <;> omega
    exact absurd ascii (Nat.not_lt.mpr marked)

/-- Texts are told apart by their bytes. -/
theorem toBytes_injective : Function.Injective toBytes := by
  intro first second same
  have read := congrArg ofBytes? same
  rw [ofBytes?_toBytes, ofBytes?_toBytes, Option.some.injEq] at read
  exact read

/-- A text without a separator has none in its bytes. -/
theorem separator_not_mem_toBytes {text : String} (unseparated : '/' ∉ text.toList) :
    Path.separator ∉ toBytes text := by
  rw [toBytes_eq_flatMap, List.mem_flatMap]
  rintro ⟨c, member, encoded⟩
  have same := toNat_eq_of_mem_utf8EncodeChar encoded (by decide)
  obtain rfl : c = '/' := Char.toNat_inj.mp same
  exact unseparated member

end Text

/-! ## A path continued by another one -/

namespace Path

variable {name : List UInt8}

/-- A name is no absolute path. -/
theorem not_isAbsolute_of_not_mem (plain : separator ∉ name) : (⟨name⟩ : Path).isAbsolute = false := by
  cases name with
  | nil => rfl
  | cons first rest =>
    have other : first ≠ separator := fun same => plain (same ▸ List.mem_cons_self)
    simp [isAbsolute, other]

/-- A name is one component. -/
theorem components_of_not_mem (plain : separator ∉ name) : (⟨name⟩ : Path).components = [name] := by
  refine List.splitOnP_eq_singleton fun b member => ?_
  exact beq_eq_false_iff_ne.mpr fun same => plain (same ▸ member)

/-- A path that is continued by a relative one starts where it started. -/
theorem isAbsolute_join (base : Path) {rest : Path} (relative : rest.isAbsolute = false) :
    (base.join rest).isAbsolute = base.isAbsolute := by
  obtain ⟨bytes⟩ := base
  rw [join, if_neg (by simp [relative])]
  cases bytes with
  | nil => exact relative
  | cons first later =>
    split <;> rfl

/-- **The components of a path that is continued by a relative one** are those of the two paths, but for
an empty one at the end of the first path, which the second one takes the place of. -/
theorem components_join (base : Path) {rest : Path} (relative : rest.isAbsolute = false) :
    (base.join rest).components = base.components ++ rest.components ∨
      ∃ front, base.components = front ++ [[]] ∧
        (base.join rest).components = front ++ rest.components := by
  rw [join, if_neg (by simp [relative])]
  by_cases ends : (base.bytes.isEmpty || base.bytes.getLast? == some separator) = true
  · rw [if_pos ends, components, components]
    refine Or.inr ?_
    rcases Bool.or_eq_true_iff.mp ends with empty | last
    · rw [List.isEmpty_iff.mp empty, List.nil_append]
      exact ⟨[], List.splitOnP_nil, rfl⟩
    · obtain ⟨front, split⟩ := List.getLast?_eq_some_iff.mp (beq_iff_eq.mp last)
      refine ⟨front.splitOnP (· == separator), ?_, ?_⟩
      · rw [split, List.splitOnP_append_cons _ _ (by decide), List.splitOnP_nil]
      · rw [split, List.append_assoc, List.singleton_append,
          List.splitOnP_append_cons _ _ (by decide), components]
  · rw [if_neg ends, components, components]
    refine Or.inl ?_
    rw [List.splitOnP_append_cons _ _ (by decide), components]

/-- **The names in a path**: its components without the empty ones, which lead nowhere. -/
def names (path : Path) : List (List UInt8) := path.components.filter (!·.isEmpty)

/-- **The names in a path that is continued by a relative one** are those of the two paths. -/
theorem names_join (base : Path) {rest : Path} (relative : rest.isAbsolute = false) :
    (base.join rest).names = base.names ++ rest.names := by
  rcases base.components_join relative with both | ⟨front, split, joined⟩
  · rw [names, both, List.filter_append]
    rfl
  · rw [names, names, split, joined, List.filter_append, List.filter_append]
    simp [names]

end Path

end CursorThemes
