import CursorThemes.Toml.Token.Quotation
import CursorThemes.Toml.Value

/-! # Words that are values

A bare word of a TOML document is a truth value, a number, a date or a time.

* **`Scalar.digits?`** reads digits with single underscores between them.
* **`Scalar.integer?`** and **`Scalar.float?`** read numbers. A whole number that does not fit into 128
  bits is refused, and so is a fraction too large for the binary format.
* **`Scalar.isDatetime`** checks dates and times against the calendar and the clock.
* **`Scalar.value?`** reads a word of any kind. -/

namespace CursorThemes.Toml.Scalar

open Decimal (Binary64)

/-- Whether a character is a decimal digit. -/
def isDigit (c : Char) : Bool := '0' ≤ c && c ≤ '9'

/-- The digits of a word that starts with a digit and has no underscore but between two digits.
`isOk` says which characters are digits. -/
def digits? (isOk : Char → Bool) : List Char → Option (List Char)
  | [] => none
  | [c] => if isOk c then some [c] else none
  | c :: '_' :: rest => if isOk c then (digits? isOk rest).map (c :: ·) else none
  | c :: rest => if isOk c then (digits? isOk rest).map (c :: ·) else none

/-- The number of digits in base `base`, at most 16. -/
def number (base : Nat) (digits : List Char) : Nat :=
  digits.foldl (fun high c => base * high + (Token.hexValue? c).getD 0) 0

/-- Whether a word is a digit in base `base`, at most 16. -/
def isDigitOf (base : Nat) (c : Char) : Bool :=
  match Token.hexValue? c with
  | some digit => digit < base
  | none => false

/-- Decimal digits without a zero in front of others. -/
def plainDigits? (word : List Char) : Option (List Char) :=
  match digits? isDigit word with
  | some ('0' :: _ :: _) => none
  | found => found

/-- Whether a number fits into 128 bits, with a sign or without. -/
def isReadable (n : Int) : Bool :=
  -170141183460469231731687303715884105728 ≤ n && n ≤ 340282366920938463463374607431768211455

/-- The sign of a word, and the word without it. -/
def signed : List Char → Bool × List Char
  | '-' :: rest => (true, rest)
  | '+' :: rest => (false, rest)
  | word => (false, word)

/-- The whole number that a word stands for, of whatever size. -/
def unboundedInteger? (word : List Char) : Option Int :=
  match word with
  | '0' :: 'x' :: rest => (digits? (isDigitOf 16) rest).map fun digits => (number 16 digits : Int)
  | '0' :: 'o' :: rest => (digits? (isDigitOf 8) rest).map fun digits => (number 8 digits : Int)
  | '0' :: 'b' :: rest => (digits? (isDigitOf 2) rest).map fun digits => (number 2 digits : Int)
  | _ =>
    let (negative, rest) := signed word
    (plainDigits? rest).map fun digits =>
      if negative then -(number 10 digits : Int) else number 10 digits

/-- **The whole number that a word stands for.** -/
def integer? (word : List Char) : Option Int := (unboundedInteger? word).filter isReadable

/-- The power of ten after the letter of a number. -/
def power? (word : List Char) : Option Int :=
  let (negative, rest) := signed word
  (digits? isDigit rest).map fun digits =>
    if negative then -(number 10 digits : Int) else number 10 digits

/-- A word split at the letter of its power of ten: what is before, and what is after if there is
such a letter. -/
def splitPower (word : List Char) : List Char × Option (List Char) :=
  match word.dropWhile fun c => c != 'e' && c != 'E' with
  | [] => (word, none)
  | _ :: after => (word.takeWhile fun c => c != 'e' && c != 'E', some after)

/-- A word split at its point: what is before, and what is after if there is a point. -/
def splitPoint (word : List Char) : List Char × Option (List Char) :=
  match word.dropWhile (· != '.') with
  | [] => (word, none)
  | _ :: after => (word.takeWhile (· != '.'), some after)

/-- The digits and the power of ten of a word without sign. A point, a power of ten or both have to
be there, and digits on both sides of the point. -/
def decimal? (word : List Char) : Option (Nat × Int) :=
  let (front, power) := splitPower word
  let (whole, fraction) := splitPoint front
  if power.isNone && fraction.isNone then none
  else
    match plainDigits? whole, fraction.map (digits? isDigit), power.map power? with
    | none, _, _ => none
    | _, some none, _ => none
    | _, _, some none => none
    | some whole, fraction, power =>
      let places := (fraction.join).getD []
      some (number 10 (whole ++ places), (power.join).getD 0 - places.length)

/-- **The fraction that a word stands for.** -/
def float? (word : List Char) : Option Binary64 :=
  let (negative, rest) := signed word
  if rest = ['i', 'n', 'f'] then some (.infinity negative)
  else if rest = ['n', 'a', 'n'] then some .nan
  else
    match decimal? rest with
    | none => none
    | some (digits, power) =>
      (Binary64.ofDecimal? digits power).map fun (significand, exponent) =>
        .finite negative significand exponent

/-! ## Dates and times -/

/-- The number in the first `count` characters, which have to be digits, and what follows it. -/
def field? (count : Nat) (word : List Char) : Option (Nat × List Char) :=
  let front := word.take count
  if front.length = count && front.all isDigit then some (number 10 front, word.drop count)
  else none

/-- What follows a character, if the word starts with it. -/
def after? (c : Char) : List Char → Option (List Char)
  | d :: rest => if d = c then some rest else none
  | [] => none

/-- Whether a year has a 29th of February. -/
def isLeap (year : Nat) : Bool := year % 4 == 0 && (year % 100 != 0 || year % 400 == 0)

/-- The number of days of a month. -/
def daysOf (year month : Nat) : Nat :=
  if month = 2 then (if isLeap year then 29 else 28)
  else if month = 4 ∨ month = 6 ∨ month = 9 ∨ month = 11 then 30
  else 31

/-- What follows a date, if the word starts with one. -/
def afterDate? (word : List Char) : Option (List Char) := do
  let (year, rest) ← field? 4 word
  let rest ← after? '-' rest
  let (month, rest) ← field? 2 rest
  let rest ← after? '-' rest
  let (day, rest) ← field? 2 rest
  if 1 ≤ month ∧ month ≤ 12 ∧ 1 ≤ day ∧ day ≤ daysOf year month then some rest else none

/-- What follows the fraction of a second, if there is one, which has to have digits. -/
def afterFraction? (word : List Char) : Option (List Char) :=
  match word with
  | '.' :: rest => if (rest.takeWhile isDigit).isEmpty then none else some (rest.dropWhile isDigit)
  | _ => some word

/-- What follows a time, if the word starts with one. The seconds may be left out; there may be a
leap second. -/
def afterTime? (word : List Char) : Option (List Char) := do
  let (hour, rest) ← field? 2 word
  let rest ← after? ':' rest
  let (minute, rest) ← field? 2 rest
  if 23 < hour ∨ 59 < minute then none
  else
    match after? ':' rest with
    | none => some rest
    | some rest =>
      let (second, rest) ← field? 2 rest
      if 60 < second then none else afterFraction? rest

/-- Whether a word is a difference to universal time, or nothing. -/
def isOffset (word : List Char) : Bool :=
  match word with
  | [] => true
  | ['Z'] => true
  | ['z'] => true
  | sign :: rest =>
    (sign == '+' || sign == '-') &&
      match (do
        let (hour, rest) ← field? 2 rest
        let rest ← after? ':' rest
        let (minute, rest) ← field? 2 rest
        return hour ≤ 23 && minute ≤ 59 && rest.isEmpty : Option Bool) with
      | some inRange => inRange
      | none => false

/-- **Whether a word is a date, a time, or a date with a time.** -/
def isDatetime (word : List Char) : Bool :=
  match afterDate? word with
  | some [] => true
  | some (mark :: rest) =>
    (mark == 'T' || mark == 't' || mark == ' ') &&
      match afterTime? rest with
      | some offset => isOffset offset
      | none => false
  | none => afterTime? word == some []

/-- **The value that a word stands for.** -/
def value? (word : List Char) : Option Value :=
  if word = ['t', 'r', 'u', 'e'] then some (.boolean true)
  else if word = ['f', 'a', 'l', 's', 'e'] then some (.boolean false)
  else if isDatetime word then some (.datetime word)
  else
    match integer? word with
    | some n => some (.integer n)
    | none => (float? word).map .float

/-- One digit is digits. -/
@[simp] theorem digits?_singleton (isOk : Char → Bool) (c : Char) :
    digits? isOk [c] = if isOk c then some [c] else none := by
  simp [digits?]

end CursorThemes.Toml.Scalar
