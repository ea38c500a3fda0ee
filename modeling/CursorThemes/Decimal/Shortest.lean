import CursorThemes.Decimal.Binary64

/-! # The shortest decimal of a binary fraction

The decimal with the fewest digits that rounds to a given number of the 64-bit format, and of those
with as few digits the nearest one; a tie goes up. All is done in exact arithmetic: for each number
of digits, the two decimals around the number are tried. -/

namespace CursorThemes.Decimal

/-- A decimal numeral: it stands for `digits · 10 ^ exponent`. -/
structure Numeral where
  /-- The digits as one number. -/
  digits : Nat
  /-- The power of ten. -/
  exponent : Int
  deriving DecidableEq, Repr

/-- The numbers that round to a binary fraction, and the fraction itself, all as multiples of
`2 ^ exponent`. -/
structure Interval where
  /-- The lower end. -/
  low : Nat
  /-- The fraction. -/
  middle : Nat
  /-- The upper end. -/
  high : Nat
  /-- The power of two that all three are multiples of. -/
  exponent : Int
  /-- Whether the ends belong to the interval. -/
  closed : Bool
  deriving DecidableEq, Repr

namespace Interval

/-- The numbers that round to `significand · 2 ^ exponent`. Below a power of two the next fraction is
only half as far away. -/
def of (significand : Nat) (exponent : Int) : Interval :=
  let tight := significand = Binary64.significandBound / 2 ∧ exponent > Binary64.minExponent
  -- quarters of the last place, so that both ends are whole
  { low := if tight then 4 * significand - 1 else 4 * significand - 2
    middle := 4 * significand
    high := 4 * significand + 2
    exponent := exponent - 2
    closed := significand % 2 == 0 }

/-- The multiplier that turns a decimal with the power `power` of ten into multiples of the unit of
an interval, and the one for the numbers of the interval, so that both can be compared. -/
def multipliers (interval : Interval) (power : Int) : Nat × Nat :=
  (Nat.pow 10 power.toNat * Nat.pow 2 (-interval.exponent).toNat,
    Nat.pow 10 (-power).toNat * Nat.pow 2 interval.exponent.toNat)

/-- Whether a decimal rounds to the fraction of the interval. -/
def contains (interval : Interval) (numeral : Numeral) : Bool :=
  let (ours, theirs) := interval.multipliers numeral.exponent
  let value := numeral.digits * ours
  if interval.closed then interval.low * theirs ≤ value && value ≤ interval.high * theirs
  else interval.low * theirs < value && value < interval.high * theirs

/-- The decimal with the power `power` of ten next to the fraction, among those in the interval. -/
def nearestAt? (interval : Interval) (power : Int) : Option Numeral :=
  let (ours, theirs) := interval.multipliers power
  let below : Numeral := ⟨interval.middle * theirs / ours, power⟩
  let above : Numeral := ⟨below.digits + 1, power⟩
  let gapBelow := interval.middle * theirs - below.digits * ours
  let gapAbove := above.digits * ours - interval.middle * theirs
  match interval.contains below, interval.contains above with
  | true, true => some (if gapBelow < gapAbove then below else above)
  | true, false => some below
  | false, true => some above
  | false, false => none

/-- The first of `count` powers of ten, from `power` downwards, that has a decimal in the
interval. -/
def search (interval : Interval) (power : Int) : Nat → Option Numeral
  | 0 => none
  | count + 1 =>
    match interval.nearestAt? power with
    | some numeral => some numeral
    | none => interval.search (power - 1) count

end Interval

/-- The digits and the power of ten without zeros at the end of the digits; `count` bounds how many
are taken off. -/
def Numeral.strip (numeral : Numeral) : Nat → Numeral
  | 0 => numeral
  | count + 1 =>
    if numeral.digits % 10 = 0 ∧ numeral.digits ≠ 0 then
      Numeral.strip ⟨numeral.digits / 10, numeral.exponent + 1⟩ count
    else numeral

/-- How many powers of ten are tried for one number. They lead from above its first digit, where at
most four of them are spent, down past its seventeenth; seventeen digits always tell a number from its
neighbours. -/
def attempts : Nat := 24

/-- A power of ten above a number in `[2 ^ (bits - 1), 2 ^ bits)`. -/
def powerAbove (bits : Int) : Int := (bits * 30103).fdiv 100000 + 2

/-- `significand · 2 ^ exponent` with all its decimal digits. -/
def exact (significand : Nat) (exponent : Int) : Numeral :=
  if 0 ≤ exponent then ⟨significand * Nat.pow 2 exponent.toNat, 0⟩
  else ⟨significand * Nat.pow 5 (-exponent).toNat, exponent⟩

/-- **The shortest decimal** that rounds to `significand · 2 ^ exponent`. -/
def shortest (significand : Nat) (exponent : Int) : Numeral :=
  if significand = 0 then ⟨0, 0⟩
  else
    let power := powerAbove (significand.log2 + 1 + exponent)
    -- every decimal rounds to itself, so that there is something to write in any case
    (((Interval.of significand exponent).search power attempts).getD
      (exact significand exponent)).strip attempts

/-- The digits of a decimal without a power of ten: at least one digit before the point, and one
after it. -/
def Numeral.positional (numeral : Numeral) : List Char :=
  let digits := Nat.toDigits 10 numeral.digits
  if 0 ≤ numeral.exponent then
    digits ++ List.replicate numeral.exponent.toNat '0' ++ ['.', '0']
  else
    let places := (-numeral.exponent).toNat
    let padded := List.replicate (places + 1 - digits.length) '0' ++ digits
    padded.take (padded.length - places) ++ '.' :: padded.drop (padded.length - places)

/-- **A number as it is written in messages**: the shortest decimal that reads back, with a point and
without a power of ten. -/
def Binary64.text : Binary64 → String
  | nan => "NaN"
  | infinity negative => if negative then "-inf" else "inf"
  | finite negative significand exponent =>
    .ofList ((if negative then ['-'] else []) ++ (shortest significand exponent).positional)

end CursorThemes.Decimal
