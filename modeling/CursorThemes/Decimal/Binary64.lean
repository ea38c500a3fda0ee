/-! # Binary fractions of 53 bits

Numbers `significand · 2 ^ exponent` of the 64-bit binary format, and the nearest of them to a
decimal.

* **`Binary64`** is a number of the format: a finite one, an infinity, or no number.
* **`Binary64.round?`** rounds a quotient to the nearest finite number, and of two that are as near
  to the one with an even significand. It answers `none` where the format has only infinity. -/

namespace CursorThemes.Decimal

/-- **A number of the 64-bit binary format.** -/
inductive Binary64 where
  /-- No number. -/
  | nan
  /-- An infinity. -/
  | infinity (negative : Bool)
  /-- `significand · 2 ^ exponent`, negated if so marked. The significand has exactly 53 bits, or at
  most 53 if the exponent is the lowest. -/
  | finite (negative : Bool) (significand : Nat) (exponent : Int)
  deriving DecidableEq, Repr

namespace Binary64

/-- The number of bits of a significand. -/
def precision : Nat := 53

/-- The first number that does not fit into a significand. -/
def significandBound : Nat := Nat.pow 2 precision

/-- The lowest exponent. -/
def minExponent : Int := -1074

/-- The highest exponent. -/
def maxExponent : Int := 971

/-- The quotient of `numerator · 2 ^ (-exponent)` and `denominator`, as a quotient of naturals. -/
def scale (numerator denominator : Nat) (exponent : Int) : Nat × Nat :=
  (numerator * Nat.pow 2 (-exponent).toNat, denominator * Nat.pow 2 exponent.toNat)

/-- A quotient rounded to the nearest natural; a tie goes to the even one. -/
def roundDiv (numerator denominator : Nat) : Nat :=
  let quotient := numerator / denominator
  let rest := numerator % denominator
  if 2 * rest < denominator then quotient
  else if 2 * rest > denominator then quotient + 1
  else quotient + quotient % 2

/-- The exponent at which a positive quotient has `precision` bits, if the format has it. -/
def exponentOf (numerator denominator : Nat) : Int :=
  let guess : Int := (numerator.log2 : Int) - denominator.log2 - precision
  let (scaled, unit) := scale numerator denominator guess
  -- at the guessed exponent the quotient has `precision` bits or one more
  max minExponent (if scaled / unit < significandBound then guess else guess + 1)

/-- **The finite number nearest to a quotient**: its significand and its exponent. -/
def round? (numerator denominator : Nat) : Option (Nat × Int) :=
  if numerator = 0 then some (0, minExponent)
  else
    let exponent := exponentOf numerator denominator
    let (scaled, unit) := scale numerator denominator exponent
    let significand := roundDiv scaled unit
    -- rounding up may carry into a further bit
    let (significand, exponent) :=
      if significand = significandBound then (significandBound / 2, exponent + 1)
      else (significand, exponent)
    if exponent > maxExponent then none else some (significand, exponent)

/-- The number of decimal digits of a natural. -/
def digitCount (n : Nat) : Nat := (Nat.toDigits 10 n).length

/-- The finite number nearest to `digits · 10 ^ exponent`. Decimals far outside the format are told
by the number of their digits. -/
def ofDecimal? (digits : Nat) (exponent : Int) : Option (Nat × Int) :=
  if digits = 0 then some (0, minExponent)
  -- at least `10 ^ 310`, which is more than the largest finite number
  else if digitCount digits + exponent > 310 then none
  -- less than `10 ^ (-330)`, which is less than half of the smallest positive number
  else if digitCount digits + exponent < -330 then some (0, minExponent)
  else round? (digits * Nat.pow 10 exponent.toNat) (Nat.pow 10 (-exponent).toNat)

end Binary64

end CursorThemes.Decimal
