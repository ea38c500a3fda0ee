/-! # Saturating arithmetic on 32-bit words

Sums and products that stop at the largest word where they would leave the range. Both are pinned
to the unbounded operation by `toNat_satAdd` and `toNat_satMul`. -/

namespace CursorThemes

/-- The sum of two words, or the largest word if the sum does not fit. -/
def satAdd (a b : UInt32) : UInt32 :=
  if a.toNat + b.toNat < UInt32.size then a + b else UInt32.ofNat (UInt32.size - 1)

/-- The product of two words, or the largest word if the product does not fit. -/
def satMul (a b : UInt32) : UInt32 :=
  if a.toNat * b.toNat < UInt32.size then a * b else UInt32.ofNat (UInt32.size - 1)

/-- A saturating sum is the sum, cut at the largest word. -/
theorem toNat_satAdd (a b : UInt32) :
    (satAdd a b).toNat = min (a.toNat + b.toNat) (UInt32.size - 1) := by
  unfold satAdd
  split
  · rename_i fits
    rw [UInt32.toNat_add, Nat.mod_eq_of_lt fits]
    have : UInt32.size = 4294967296 := rfl
    omega
  · have : UInt32.size = 4294967296 := rfl
    have : (UInt32.ofNat (UInt32.size - 1)).toNat = UInt32.size - 1 := rfl
    omega

/-- A saturating product is the product, cut at the largest word. -/
theorem toNat_satMul (a b : UInt32) :
    (satMul a b).toNat = min (a.toNat * b.toNat) (UInt32.size - 1) := by
  unfold satMul
  split
  · rename_i fits
    rw [UInt32.toNat_mul, Nat.mod_eq_of_lt fits]
    have : UInt32.size = 4294967296 := rfl
    omega
  · have : UInt32.size = 4294967296 := rfl
    have : (UInt32.ofNat (UInt32.size - 1)).toNat = UInt32.size - 1 := rfl
    omega

end CursorThemes
