import CursorThemes.Toml.Scalar
import Mathlib.Tactic.SplitIfs

/-! # Decimal numerals are read back

A number is written in decimal digits, without a zero in front. Such a word is no truth value, no
date and no time, and it is read as the number.

* **`Scalar.plainDigits?_toDigits`** says that a numeral is taken for plain digits, and
  **`Scalar.number_toDigits`** that their value is the number.
* **`Scalar.value?_toDigits`** is the result, for numbers that are not too large. -/

namespace CursorThemes.Toml.Scalar

/-! ## Digits -/

/-- The digits of a numeral are decimal digits. -/
theorem isDigit_of_mem_toDigits {n : Nat} {c : Char} (member : c ∈ Nat.toDigits 10 n) :
    isDigit c = true := by
  have digit := Nat.isDigit_of_mem_toDigits (by decide) (by decide) member
  simpa [Char.isDigit, isDigit, Char.le_def] using digit

/-- Digits without underscores are digits. -/
theorem digits?_of_forall {word : List Char} (filled : word ≠ [])
    (digits : ∀ c ∈ word, isDigit c = true) : digits? isDigit word = some word := by
  fun_induction digits? isDigit word with
  | case1 => exact absurd rfl filled
  | case2 => rfl
  | case3 c bad => exact absurd (digits c List.mem_cons_self) bad
  | case4 c rest good ih =>
    exact absurd (digits '_' (List.mem_cons_of_mem c List.mem_cons_self)) (by decide)
  | case5 c rest bad => exact absurd (digits c List.mem_cons_self) bad
  | case6 c rest more other good ih =>
    rw [ih more fun d member => digits d (List.mem_cons_of_mem c member), Option.map_some]
  | case7 c rest more other bad => exact absurd (digits c List.mem_cons_self) bad

/-- Only the numeral of zero starts with a zero. -/
theorem eq_zero_of_head?_toDigits {n : Nat} (head : (Nat.toDigits 10 n).head? = some '0') :
    n = 0 := by
  induction n using Nat.strongRecOn with
  | ind n ih =>
    rw [Nat.toDigits_eq_if (by decide)] at head
    split_ifs at head with small
    · have only : ∀ digit < 10, Nat.digitChar digit = '0' → digit = 0 := by decide
      exact only n small (by simpa using head)
    · -- the first digit is that of a smaller number, which is not zero
      have first : (Nat.toDigits 10 (n / 10)).head? = some '0' := by
        cases front : Nat.toDigits 10 (n / 10) with
        | nil => exact absurd front Nat.toDigits_ne_nil
        | cons c rest => simpa [front] using head
      have := ih (n / 10) (by omega) first
      omega

/-- **A numeral is plain digits.** -/
theorem plainDigits?_toDigits (n : Nat) :
    plainDigits? (Nat.toDigits 10 n) = some (Nat.toDigits 10 n) := by
  have digits := digits?_of_forall Nat.toDigits_ne_nil fun c member =>
    isDigit_of_mem_toDigits (n := n) (c := c) member
  rw [plainDigits?, digits]
  split
  · rename_i c rest same
    have zero : n = 0 := eq_zero_of_head?_toDigits (by rw [Option.some.inj same]; rfl)
    rw [zero, Nat.toDigits_zero] at same
    cases same
  · rfl

/-- **The value of a numeral is the number.** -/
theorem number_toDigits (n : Nat) : number 10 (Nat.toDigits 10 n) = n := by
  have same : ∀ (word : List Char) (high : Nat), (∀ c ∈ word, isDigit c = true) →
      word.foldl (fun high c => 10 * high + (Token.hexValue? c).getD 0) high
        = Nat.ofDigitChars 10 word high := by
    intro word
    induction word with
    | nil => exact fun _ _ => rfl
    | cons c later ih =>
      intro high digits
      have digit := digits c List.mem_cons_self
      simp only [isDigit, Bool.and_eq_true, decide_eq_true_eq] at digit
      rw [List.foldl_cons, ih _ fun d member => digits d (List.mem_cons_of_mem c member),
        Token.hexValue?, if_pos digit, Option.getD_some]
      rfl
  rw [number, same _ _ fun c member => isDigit_of_mem_toDigits member]
  exact Nat.ofDigitChars_ten_toDigits

/-- A digit is no sign. -/
theorem signed_of_isDigit {word : List Char} (digits : ∀ c ∈ word, isDigit c = true) :
    signed word = (false, word) := by
  unfold signed
  split
  · exact absurd (digits '-' List.mem_cons_self) (by decide)
  · exact absurd (digits '+' List.mem_cons_self) (by decide)
  · rfl

/-! ## Numerals are no other words -/

/-- A word of digits does not start with anything else. -/
theorem after?_of_digits {c : Char} (other : isDigit c = false) {word : List Char}
    (digits : ∀ d ∈ word, isDigit d = true) : after? c word = none := by
  cases word with
  | nil => rfl
  | cons d rest =>
    refine if_neg ?_
    rintro rfl
    exact absurd (digits d List.mem_cons_self) (Bool.eq_false_iff.mp other)

/-- What follows a field is the rest of the word. -/
theorem eq_drop_of_field? {count number : Nat} {word rest : List Char}
    (found : field? count word = some (number, rest)) : rest = word.drop count := by
  simp only [field?] at found
  split_ifs at found
  cases found
  rfl

/-- Digits alone are no date and no time. -/
theorem not_isDatetime {word : List Char} (digits : ∀ c ∈ word, isDigit c = true) :
    isDatetime word = false := by
  have later : ∀ {count rest}, rest = word.drop count → ∀ c ∈ rest, isDigit c = true := by
    rintro count rest rfl c member
    exact digits c (List.mem_of_mem_drop member)
  -- a date goes on with a dash after its year, and a time with a colon after its hour
  have noDate : afterDate? word = none := by
    rw [afterDate?]
    cases found : field? 4 word with
    | none => rfl
    | some year =>
      have dash := after?_of_digits (c := '-') (by decide) (later (eq_drop_of_field? found))
      simp [dash]
  have noTime : afterTime? word = none := by
    rw [afterTime?]
    cases found : field? 2 word with
    | none => rfl
    | some hour =>
      have colon := after?_of_digits (c := ':') (by decide) (later (eq_drop_of_field? found))
      simp [colon]
  rw [isDatetime, noDate, noTime]
  rfl

/-- **A numeral is read as its number**, if this fits into 128 bits. -/
theorem value?_toDigits {n : Nat} (readable : isReadable n = true) :
    value? (Nat.toDigits 10 n) = some (.integer n) := by
  have digits : ∀ c ∈ Nat.toDigits 10 n, isDigit c = true := fun c => isDigit_of_mem_toDigits
  have letter : ∀ c, isDigit c = false → c ∉ Nat.toDigits 10 n := fun c other member =>
    absurd (digits c member) (Bool.eq_false_iff.mp other)
  have unbounded : unboundedInteger? (Nat.toDigits 10 n) = (some (n : Int) : Option Int) := by
    unfold unboundedInteger?
    split
    · rename_i rest same
      exact absurd (same ▸ by simp) (letter 'x' (by decide))
    · rename_i rest same
      exact absurd (same ▸ by simp) (letter 'o' (by decide))
    · rename_i rest same
      exact absurd (same ▸ by simp) (letter 'b' (by decide))
    · simp [signed_of_isDigit digits, plainDigits?_toDigits, number_toDigits]
  -- no other kind of word consists of digits
  have notTrue : Nat.toDigits 10 n ≠ ['t', 'r', 'u', 'e'] := fun same =>
    letter 't' (by decide) (same ▸ by simp)
  have notFalse : Nat.toDigits 10 n ≠ ['f', 'a', 'l', 's', 'e'] := fun same =>
    letter 'f' (by decide) (same ▸ by simp)
  rw [value?, if_neg notTrue, if_neg notFalse, not_isDatetime digits, integer?, unbounded,
    Option.filter_some, if_pos readable]
  rfl

end CursorThemes.Toml.Scalar
