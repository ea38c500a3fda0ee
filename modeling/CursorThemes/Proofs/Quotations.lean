import CursorThemes.Toml.Quoting
import CursorThemes.Toml.Token.Quotation
import Mathlib.Tactic.SplitIfs

/-! # Quoted texts are read back

Whatever a text is made of, it is written between quotation marks from which it is read again.

* **`Quoting.IsEscape`** says what it takes for an escape to be read back, and
  **`Quoting.basicChar_cases`** and **`Quoting.multilineChar_cases`** that every character is escaped
  well or stands for itself.
* **`Token.closes_or_goesOn`** decides between the two ways to read on in a text of several lines:
  what is left is closing marks, or it does not start with three marks.
* **`Token.text?_quoted`** is the result for all four kinds of marks. -/

namespace CursorThemes.Toml

/-! ## Escapes -/

namespace Token

/-- A character is read from its number. -/
theorem charOf?_toNat (c : Char) : charOf? c.toNat = some c := by
  rw [charOf?, dif_pos (show c.toNat.isValidChar from c.valid)]
  rfl

end Token

namespace Quoting

/-- **An escape of a character**: a backslash, and then what is read as the character. It does not
look like a line that ends with a backslash. -/
def IsEscape (escaped : List Char) (c : Char) : Prop :=
  ∃ mark tail, escaped = '\\' :: mark :: tail ∧ Token.isSpace mark = false ∧ mark ≠ '\n' ∧
    mark ≠ '\r' ∧ ∀ rest, Token.escape? (mark :: tail ++ rest) = some (c, tail.length + 1)

/-- A digit in base 16 has its value. -/
theorem hexValue?_hexDigit {n : Nat} (small : n < 16) : Token.hexValue? (hexDigit n) = some n := by
  revert n
  decide

/-- A control is one of the first 128 characters. -/
theorem toNat_lt_of_isControl {c : Char} (control : isControl c = true) : c.toNat < 128 := by
  simp only [isControl, Bool.or_eq_true, Bool.and_eq_true, decide_eq_true_eq, beq_iff_eq] at control
  rcases control with ⟨⟨low, -⟩, -⟩ | rfl
  · have : c.toNat < 32 := low
    omega
  · decide

/-- Two digits in base 16 are enough for the first 128 characters. -/
theorem isEscape_of_toNat_lt {c : Char} (small : c.toNat < 128) :
    IsEscape ['\\', 'u', '0', '0', hexDigit (c.toNat / 16), hexDigit (c.toNat % 16)] c := by
  refine ⟨'u', _, rfl, by decide, by decide, by decide, fun rest => ?_⟩
  have high : Token.hexValue? (hexDigit (c.toNat / 16)) = some (c.toNat / 16) :=
    hexValue?_hexDigit (by omega)
  have low : Token.hexValue? (hexDigit (c.toNat % 16)) = some (c.toNat % 16) :=
    hexValue?_hexDigit (by omega)
  have zero : Token.hexValue? '0' = some 0 := by decide
  have number : Token.hexNumber? 0
      ['0', '0', hexDigit (c.toNat / 16), hexDigit (c.toNat % 16)] = some c.toNat := by
    simp only [Token.hexNumber?, high, low, zero, Option.some.injEq]
    omega
  have four : (['0', '0', hexDigit (c.toNat / 16), hexDigit (c.toNat % 16)] ++ rest).take 4
      = ['0', '0', hexDigit (c.toNat / 16), hexDigit (c.toNat % 16)] := rfl
  show (Token.numbered? 4
    (['0', '0', hexDigit (c.toNat / 16), hexDigit (c.toNat % 16)] ++ rest)).map (·, 5) = some (c, 5)
  rw [Token.numbered?, if_neg (by simp), four, number, Option.bind_some, Token.charOf?_toNat,
    Option.map_some]

/-- What is written for a control or a backslash is an escape of it. -/
theorem isEscape_of_escape? {c : Char} {escaped : List Char} (found : escape? c = some escaped) :
    IsEscape escaped c := by
  unfold escape? at found
  split_ifs at found with backspace tab feed ret slash control
  · cases found
    exact ⟨'b', [], rfl, by decide, by decide, by decide, fun rest => by rw [backspace]; rfl⟩
  · cases found
    exact ⟨'t', [], rfl, by decide, by decide, by decide, fun rest => by rw [tab]; rfl⟩
  · cases found
    exact ⟨'f', [], rfl, by decide, by decide, by decide, fun rest => by rw [feed]; rfl⟩
  · cases found
    exact ⟨'r', [], rfl, by decide, by decide, by decide, fun rest => by rw [ret]; rfl⟩
  · cases found
    exact ⟨'\\', [], rfl, by decide, by decide, by decide, fun rest => by rw [slash]; rfl⟩
  · cases found
    exact isEscape_of_toNat_lt (toNat_lt_of_isControl control)

/-- A character other than a control and the end of a line may stand on any line. -/
theorem isPlain_of_not_isControl {c : Char} (free : isControl c = false) (inside : c ≠ '\n') :
    Token.isPlain c = true := by
  simp only [isControl, Bool.or_eq_false_iff, Bool.and_eq_false_iff, decide_eq_false_iff_not,
    bne_eq_false_iff_eq, beq_eq_false_iff_ne] at free
  simp only [Token.isPlain, Bool.or_eq_true, Bool.and_eq_true, decide_eq_true_eq, beq_iff_eq,
    bne_iff_ne]
  obtain ⟨(high | tab) | line, last⟩ := free
  · exact Or.inr ⟨Char.not_lt.mp high, last⟩
  · exact Or.inl tab
  · exact absurd line inside

/-- What is not escaped is neither a backslash nor a carriage return nor any other control. -/
theorem of_escape?_eq_none {c : Char} (none : escape? c = none) :
    c ≠ '\\' ∧ c ≠ '\r' ∧ isControl c = false := by
  unfold escape? at none
  split_ifs at none with backspace tab feed ret slash control
  exact ⟨slash, ret, Bool.eq_false_iff.mpr control⟩

/-- **A character of a text of several lines** is escaped, or it stands for itself. Quotation marks
are not looked at here. -/
theorem multilineChar_cases (c : Char) :
    IsEscape ((escape? c).getD [c]) c ∨
      (escape? c).getD [c] = [c] ∧ c ≠ '\\' ∧ c ≠ '\r' ∧ (c ≠ '\n' → Token.isPlain c = true) := by
  cases found : escape? c with
  | some escaped => exact Or.inl (isEscape_of_escape? found)
  | none =>
    obtain ⟨slash, ret, free⟩ := of_escape?_eq_none found
    exact Or.inr ⟨rfl, slash, ret, isPlain_of_not_isControl free⟩

/-- **A character of a text on one line** is escaped, or it stands for itself. -/
theorem basicChar_cases (c : Char) :
    IsEscape (basicChar c) c ∨
      basicChar c = [c] ∧ c ≠ '"' ∧ c ≠ '\\' ∧ Token.isPlain c = true := by
  unfold basicChar
  split_ifs with quote line
  · exact Or.inl ⟨'"', [], rfl, by decide, by decide, by decide, fun rest => by rw [quote]; rfl⟩
  · exact Or.inl ⟨'n', [], rfl, by decide, by decide, by decide, fun rest => by rw [line]; rfl⟩
  · rcases multilineChar_cases c with escaped | ⟨same, slash, -, plain⟩
    · exact Or.inl escaped
    · exact Or.inr ⟨same, quote, slash, plain line⟩

end Quoting

/-! ## Texts on one line -/

namespace Token

/-- An escape between quotation marks on one line is read as its character. -/
theorem basic?_escape {escaped : List Char} {c : Char} (escape : Quoting.IsEscape escaped c)
    (rest : List Char) : basic? (escaped ++ rest) = (basic? rest).map (addFront c) := by
  obtain ⟨mark, tail, rfl, -, -, -, reads⟩ := escape
  rw [List.cons_append, basic?, if_neg (by decide), if_pos rfl, reads]
  simp only [List.cons_append, List.drop_succ_cons, List.drop_left]

/-- **A text between quotation marks on one line** is read back. -/
theorem basic?_flatMap (text rest : List Char) :
    basic? (text.flatMap Quoting.basicChar ++ '"' :: rest) = some (text, rest) := by
  induction text with
  | nil => rw [List.flatMap_nil, List.nil_append, basic?, if_pos rfl]
  | cons c later ih =>
    rw [List.flatMap_cons, List.append_assoc]
    rcases Quoting.basicChar_cases c with escape | ⟨same, quote, slash, plain⟩
    · rw [basic?_escape escape, ih]
      rfl
    · rw [same, List.singleton_append, basic?, if_neg quote, if_neg slash, if_pos plain, ih]
      rfl

/-- **A text between apostrophes on one line** is read back, if it may stand there. -/
theorem literal?_append {text : List Char} (plain : ∀ c ∈ text, isPlain c = true)
    (unmarked : '\'' ∉ text) (rest : List Char) :
    literal? (text ++ '\'' :: rest) = some (text, rest) := by
  induction text with
  | nil => rw [List.nil_append, literal?, if_pos rfl]
  | cons c later ih =>
    obtain ⟨different, others⟩ := List.ne_and_not_mem_of_not_mem_cons unmarked
    rw [List.cons_append, literal?, if_neg different.symm, if_pos (plain c List.mem_cons_self),
      ih (fun d member => plain d (List.mem_cons_of_mem c member)) others]
    rfl

/-! ## Texts of several lines -/

/-- Up to two marks in front of the closing ones belong to the text. -/
theorem afterThree?_replicate {mark : Char} {count : Nat} (few : count ≤ 2) (rest : List Char) :
    afterThree? mark (List.replicate count mark ++ mark :: mark :: mark :: rest)
      = some (List.replicate count mark ++ rest) := by
  obtain rfl | rfl | rfl : count = 0 ∨ count = 1 ∨ count = 2 := by omega
  all_goals simp [afterThree?, List.replicate]

/-- The marks that belong to the text are found behind the closing ones. -/
theorem closeMultiline_replicate {mark : Char} {count : Nat} (few : count ≤ 2) {rest : List Char}
    (unmarked : rest.head? ≠ some mark) :
    closeMultiline mark (List.replicate count mark ++ rest) = (List.replicate count mark, rest) := by
  obtain rfl | rfl | rfl : count = 0 ∨ count = 1 ∨ count = 2 := by omega
  all_goals
    cases rest with
    | nil => simp [closeMultiline, List.replicate]
    | cons c later =>
      have different : c ≠ mark := by simpa using unmarked
      simp [closeMultiline, List.replicate, different]

/-- What is left of a text of several lines is a few marks in front of the closing ones, or it does
not start with three marks. -/
theorem closes_or_goesOn {mark : Char} {body : List Char} (apart : afterThree? mark body = none)
    (rest : List Char) :
    (∃ count ≤ 2, body = List.replicate count mark) ∨
      afterThree? mark (body ++ mark :: mark :: mark :: rest) = none := by
  match body with
  | [] => exact Or.inl ⟨0, by decide, rfl⟩
  | [a] =>
    by_cases same : a = mark
    · exact Or.inl ⟨1, by decide, by rw [same]; rfl⟩
    · exact Or.inr (by simp [afterThree?, same])
  | [a, b] =>
    by_cases same : a = mark ∧ b = mark
    · exact Or.inl ⟨2, by decide, by rw [same.1, same.2]; rfl⟩
    · refine Or.inr ?_
      simp only [List.cons_append, List.nil_append, afterThree?]
      exact if_neg fun all => same ⟨all.1, all.2.1⟩
  | a :: b :: c :: later =>
    refine Or.inr ?_
    simp only [List.cons_append, afterThree?] at apart ⊢
    split_ifs at apart ⊢
    rfl

/-- Another character is not the first of three marks. -/
theorem afterThree?_of_head {mark c : Char} (different : c ≠ mark) (rest : List Char) :
    afterThree? mark (c :: rest) = none := by
  unfold afterThree?
  split
  · rename_i a b d later same
    cases same
    exact if_neg fun all => different all.1
  · rfl

/-- Nor is a mark in front of another character. -/
theorem afterThree?_of_second {mark a b : Char} (different : b ≠ mark) (rest : List Char) :
    afterThree? mark (a :: b :: rest) = none := by
  cases rest with
  | nil => rfl
  | cons c later => exact if_neg fun all => different all.2.1

/-- Nor are two marks without a third one. -/
theorem afterThree?_of_third {mark a b : Char} {rest : List Char}
    (unmarked : rest.head? ≠ some mark) : afterThree? mark (a :: b :: rest) = none := by
  cases rest with
  | nil => rfl
  | cons c later => exact if_neg fun all => unmarked (congrArg some all.2.2)

/-- An escape between threefold quotation marks is read as its character. -/
theorem multilineBasic?_escape {escaped : List Char} {c : Char}
    (escape : Quoting.IsEscape escaped c) (rest : List Char) :
    multilineBasic? (escaped ++ rest) = (multilineBasic? rest).map (addFront c) := by
  obtain ⟨mark, tail, rfl, space, line, ret, reads⟩ := escape
  -- the backslash is not the last character of its line
  have inLine : startsLine ((mark :: tail ++ rest).dropWhile isSpace) = false := by
    rw [List.cons_append, List.dropWhile_cons_of_neg (by simp [space])]
    unfold startsLine
    split
    · rename_i same
      exact absurd (List.cons.inj same).1 line
    · rename_i same
      exact absurd (List.cons.inj same).1 ret
    · rfl
  rw [List.cons_append, multilineBasic?, afterThree?_of_head (by decide)]
  simp only [if_true, inLine, Bool.false_eq_true, if_false, reads]
  rw [List.cons_append, List.drop_succ_cons, List.drop_left]

/-- A character that stands for itself between threefold quotation marks is read as itself. -/
theorem multilineBasic?_cons {c : Char} {rest : List Char}
    (apart : afterThree? '"' (c :: rest) = none) (slash : c ≠ '\\')
    (plain : c ≠ '\n' → isPlain c = true) :
    multilineBasic? (c :: rest) = (multilineBasic? rest).map (addFront c) := by
  have stands : (isPlain c || c = '\n' || (c = '\r' && startsLine (c :: rest))) = true := by
    by_cases line : c = '\n'
    · simp [line]
    · simp [plain line]
  rw [multilineBasic?, apart]
  simp only [if_neg slash, if_pos stands]

/-- Three marks that are read stand in front. -/
theorem replicate_prefix_of_afterThree? {mark : Char} {chars rest : List Char}
    (three : afterThree? mark chars = some rest) : List.replicate 3 mark <+: chars := by
  unfold afterThree? at three
  split at three
  · split_ifs at three with all
    rw [all.1, all.2.1, all.2.2]
    exact List.prefix_append [mark, mark, mark] _
  · cases three

/-- What is written for another character does not start with a quotation mark. -/
theorem exists_cons_multilineChar {c : Char} (other : c ≠ '"') :
    ∃ first tail, (Quoting.escape? c).getD [c] = first :: tail ∧ first ≠ '"' := by
  rcases Quoting.multilineChar_cases c with ⟨mark, tail, escaped, -⟩ | ⟨same, -⟩
  · exact ⟨'\\', mark :: tail, escaped, by decide⟩
  · exact ⟨c, [], same, other⟩

/-- After `run` quotation marks no more follow than make three in a row. -/
theorem not_replicate_prefix_body (text : List Char) {run : Nat} (few : run ≤ 2) :
    ¬ List.replicate (3 - run) '"' <+: Quoting.multilineBasicBody run text := by
  -- every mark that is written leaves one less to be found
  induction text generalizing run with
  | nil =>
    intro front
    have length := front.length_le
    rw [List.length_replicate, Quoting.multilineBasicBody, List.length_nil] at length
    omega
  | cons c later ih =>
    obtain ⟨left, count⟩ : ∃ left, 3 - run = left + 1 := ⟨2 - run, by omega⟩
    rw [count, List.replicate_succ, Quoting.multilineBasicBody]
    intro front
    by_cases quote : c = '"'
    · rw [if_pos quote] at front
      by_cases full : run = 2
      · rw [if_pos full] at front
        exact absurd (List.cons_prefix_cons.mp front).1 (by decide)
      · rw [if_neg full] at front
        have rest := (List.cons_prefix_cons.mp front).2
        rw [show left = 3 - (run + 1) by omega] at rest
        exact ih (by omega) rest
    · obtain ⟨first, tail, written, different⟩ := exists_cons_multilineChar quote
      rw [if_neg quote, written, List.cons_append] at front
      exact different (List.cons_prefix_cons.mp front).1.symm

/-- What is written between threefold quotation marks does not start with three of them. -/
theorem afterThree?_multilineBasicBody (text : List Char) {run : Nat} (few : run ≤ 2) :
    afterThree? '"' (Quoting.multilineBasicBody run text) = none := by
  cases three : afterThree? '"' (Quoting.multilineBasicBody run text) with
  | none => rfl
  | some rest =>
    have fewer : List.replicate (3 - run) '"' <+: List.replicate 3 '"' :=
      List.prefix_replicate_iff.mpr ⟨by rw [List.length_replicate]; omega, by simp⟩
    exact absurd (fewer.trans (replicate_prefix_of_afterThree? three))
      (not_replicate_prefix_body text few)

/-- Where there are only quotation marks, nothing was escaped. -/
theorem eq_replicate_of_body {run count : Nat} {text : List Char}
    (same : Quoting.multilineBasicBody run text = List.replicate count '"') :
    text = List.replicate count '"' := by
  induction text generalizing run count with
  | nil => exact same
  | cons c later ih =>
    rw [Quoting.multilineBasicBody] at same
    cases count with
    | zero =>
      split_ifs at same with quote
      · cases same
      · cases same
      · obtain ⟨first, tail, written, -⟩ := exists_cons_multilineChar quote
        rw [written] at same
        cases same
    | succ count =>
      rw [List.replicate_succ] at same ⊢
      by_cases quote : c = '"'
      · rw [if_pos quote] at same
        by_cases full : run = 2
        · rw [if_pos full] at same
          exact absurd (List.cons.inj same).1 (by decide)
        · rw [if_neg full] at same
          rw [quote, ih (List.cons.inj same).2]
      · obtain ⟨first, tail, written, different⟩ := exists_cons_multilineChar quote
        rw [if_neg quote, written, List.cons_append] at same
        exact absurd (List.cons.inj same).1 different

/-- The closing marks end a text, and up to two marks in front of them belong to it. -/
theorem multilineBasic?_closes {count : Nat} (few : count ≤ 2) {rest : List Char}
    (unmarked : rest.head? ≠ some '"') :
    multilineBasic? (List.replicate count '"' ++ '"' :: '"' :: '"' :: rest)
      = some (List.replicate count '"', rest) := by
  rw [multilineBasic?.eq_def, afterThree?_replicate few]
  exact congrArg some (closeMultiline_replicate few unmarked)

/-- **A text between threefold quotation marks** is read back, whatever marks were written before. -/
theorem multilineBasic?_body (text : List Char) {run : Nat} (few : run ≤ 2) {rest : List Char}
    (unmarked : rest.head? ≠ some '"') :
    multilineBasic? (Quoting.multilineBasicBody run text ++ '"' :: '"' :: '"' :: rest)
      = some (text, rest) := by
  -- the number of marks written last is carried along, for the third one in a row is escaped
  induction text generalizing run with
  | nil => exact multilineBasic?_closes (Nat.zero_le 2) unmarked
  | cons c later ih =>
    rcases closes_or_goesOn (afterThree?_multilineBasicBody (c :: later) few) rest
      with ⟨count, small, same⟩ | goesOn
    · -- only marks are left of the text, and the closing ones come right behind them
      rw [same, multilineBasic?_closes small unmarked, ← eq_replicate_of_body same]
    · rw [Quoting.multilineBasicBody] at goesOn ⊢
      by_cases quote : c = '"'
      · rw [if_pos quote] at goesOn ⊢
        by_cases full : run = 2
        · have escape : Quoting.IsEscape ['\\', '"'] '"' :=
            ⟨'"', [], rfl, by decide, by decide, by decide, fun rest => rfl⟩
          have reads := multilineBasic?_escape escape
            (Quoting.multilineBasicBody 0 later ++ '"' :: '"' :: '"' :: rest)
          rw [if_pos full, quote]
          refine reads.trans ?_
          rw [ih (Nat.zero_le 2)]
          rfl
        · rw [if_neg full] at goesOn ⊢
          rw [List.cons_append] at goesOn ⊢
          rw [multilineBasic?_cons goesOn (by decide) (fun _ => by decide), ih (by omega), quote]
          rfl
      · rw [if_neg quote] at goesOn ⊢
        rw [List.append_assoc] at goesOn ⊢
        rcases Quoting.multilineChar_cases c with escape | ⟨same, slash, -, plain⟩
        · rw [multilineBasic?_escape escape, ih (Nat.zero_le 2)]
          rfl
        · rw [same, List.singleton_append] at goesOn ⊢
          rw [multilineBasic?_cons goesOn slash plain, ih (Nat.zero_le 2)]
          rfl

end Token

/-! ## Runs of apostrophes -/

namespace Quoting

/-- A run is at least as long as what stands in front of it. -/
theorem le_longestRun (mark : Char) (current : Nat) (text : List Char) :
    current ≤ longestRun mark current text := by
  induction text generalizing current with
  | nil => exact Nat.le_refl _
  | cons c later ih =>
    rw [longestRun]
    split_ifs with same
    · exact Nat.le_trans (Nat.le_succ current) (ih (current + 1))
    · exact Nat.le_max_left _ _

/-- A run gets no shorter when there are more marks in front of it. -/
theorem longestRun_mono (mark : Char) {fewer more : Nat} (le : fewer ≤ more) (text : List Char) :
    longestRun mark fewer text ≤ longestRun mark more text := by
  induction text generalizing fewer more with
  | nil => exact le
  | cons c later ih =>
    rw [longestRun, longestRun]
    split_ifs with same
    · exact ih (Nat.succ_le_succ le)
    · omega

/-- What is left of a text has no longer runs. -/
theorem longestRun_tail_le (mark c : Char) (later : List Char) :
    longestRun mark 0 later ≤ longestRun mark 0 (c :: later) := by
  rw [longestRun]
  split_ifs with same
  · exact longestRun_mono mark (Nat.zero_le 1) later
  · exact Nat.le_max_right _ _

/-- A text with short runs does not start with three marks. -/
theorem afterThree?_of_longestRun_le {mark : Char} {text : List Char}
    (short : longestRun mark 0 text ≤ 2) : Token.afterThree? mark text = none := by
  cases three : Token.afterThree? mark text with
  | none => rfl
  | some rest =>
    obtain ⟨later, rfl⟩ := Token.replicate_prefix_of_afterThree? three
    have long := le_longestRun mark 3 later
    simp only [List.replicate, List.cons_append, List.nil_append, longestRun, if_true,
      Nat.reduceAdd] at short
    omega

end Quoting

namespace Token

/-- **A text between threefold apostrophes** is read back, if it may stand there. -/
theorem multilineLiteral?_append {text : List Char} (short : Quoting.longestRun '\'' 0 text ≤ 2)
    (plain : ∀ c ∈ text, c ≠ '\n' → isPlain c = true) {rest : List Char}
    (unmarked : rest.head? ≠ some '\'') :
    multilineLiteral? (text ++ '\'' :: '\'' :: '\'' :: rest) = some (text, rest) := by
  induction text with
  | nil =>
    rw [multilineLiteral?.eq_def, List.nil_append]
    exact congrArg some (closeMultiline_replicate (Nat.zero_le 2) unmarked)
  | cons c later ih =>
    rcases closes_or_goesOn (Quoting.afterThree?_of_longestRun_le short) rest
      with ⟨count, few, same⟩ | goesOn
    · -- only apostrophes are left of the text
      rw [same, multilineLiteral?.eq_def, afterThree?_replicate few]
      exact congrArg some (closeMultiline_replicate few unmarked)
    · have stands : (isPlain c || c = '\n' || (c = '\r' && startsLine
          (c :: (later ++ '\'' :: '\'' :: '\'' :: rest)))) = true := by
        by_cases line : c = '\n'
        · simp [line]
        · simp [plain c List.mem_cons_self line]
      rw [List.cons_append] at goesOn ⊢
      rw [multilineLiteral?, goesOn]
      simp only [if_pos stands]
      rw [ih (Nat.le_trans (Quoting.longestRun_tail_le _ c later) short)
        fun d member => plain d (List.mem_cons_of_mem c member)]
      rfl

end Token

/-! ## The marks for a text -/

namespace Quoting

/-- Whether a text between marks of a kind may run over several lines. -/
def isMultiline : Quoting → Bool
  | basic | literal => false
  | multilineBasic | multilineLiteral => true

/-- Apostrophes on one line are for texts without controls, apostrophes and ends of lines. -/
theorem of_eq_literal {text : List Char} (is : of text = literal) :
    (∀ c ∈ text, isControl c = false) ∧ '\'' ∉ text ∧ '\n' ∉ text := by
  unfold of at is
  split_ifs at is with controls line bare apart
  simp only [Bool.and_eq_true, Bool.not_eq_true', List.contains_eq_mem, decide_eq_false_iff_not]
    at apart
  refine ⟨fun c member => ?_, apart⟩
  exact Bool.eq_false_iff.mpr fun control => controls (List.any_eq_true.mpr ⟨c, member, control⟩)

/-- Threefold apostrophes are for texts without controls and without long runs of apostrophes. -/
theorem of_eq_multilineLiteral {text : List Char} (is : of text = multilineLiteral) :
    (∀ c ∈ text, isControl c = false) ∧ longestRun '\'' 0 text ≤ 2 := by
  unfold of at is
  split_ifs at is with controls line bare apart quotes short
  refine ⟨fun c member => ?_, short⟩
  exact Bool.eq_false_iff.mpr fun control => controls (List.any_eq_true.mpr ⟨c, member, control⟩)

/-- Between quotation marks on one line, any text is read back. -/
theorem text?_basic (text : List Char) {rest : List Char} (unmarked : rest.head? ≠ some '"') :
    Token.text? (basic.quote text ++ rest) = some (.quoted (.ofList text) false, rest) := by
  have shape : basic.quote text ++ rest = '"' :: (text.flatMap basicChar ++ '"' :: rest) := by
    simp [quote]
  have apart : Token.afterThree? '"' ('"' :: (text.flatMap basicChar ++ '"' :: rest)) = none := by
    cases text with
    | nil => exact Token.afterThree?_of_third unmarked
    | cons c later =>
      rw [List.flatMap_cons, List.append_assoc]
      rcases basicChar_cases c with ⟨mark, tail, escaped, -⟩ | ⟨same, quote, -⟩
      · rw [escaped]
        exact Token.afterThree?_of_second (by decide) _
      · rw [same]
        exact Token.afterThree?_of_second quote _
  have other : Token.afterThree? '\'' ('"' :: (text.flatMap basicChar ++ '"' :: rest)) = none :=
    Token.afterThree?_of_head (by decide) _
  rw [shape, Token.text?, apart, other]
  simp only [Token.basic?_flatMap, Option.map_some]

/-- Between apostrophes on one line, a text that is written there is read back. -/
theorem text?_literal {text : List Char} (is : of text = literal) {rest : List Char}
    (unmarked : rest.head? ≠ some '\'') :
    Token.text? (literal.quote text ++ rest) = some (.quoted (.ofList text) false, rest) := by
  obtain ⟨controls, unquoted, inside⟩ := of_eq_literal is
  have shape : literal.quote text ++ rest = '\'' :: (text ++ '\'' :: rest) := by
    simp [quote]
  have apart : Token.afterThree? '\'' ('\'' :: (text ++ '\'' :: rest)) = none := by
    cases text with
    | nil => exact Token.afterThree?_of_third unmarked
    | cons c later =>
      exact Token.afterThree?_of_second (List.ne_of_not_mem_cons unquoted).symm _
  have other : Token.afterThree? '"' ('\'' :: (text ++ '\'' :: rest)) = none :=
    Token.afterThree?_of_head (by decide) _
  have plain : ∀ c ∈ text, Token.isPlain c = true := by
    intro c member
    exact isPlain_of_not_isControl (controls c member) fun line => inside (line ▸ member)
  rw [shape, Token.text?, other, apart]
  simp only [Token.literal?_append plain unquoted, Option.map_some]

/-- The line that a text of several lines starts with is skipped, and no other one is. -/
theorem skipFirstLine_firstLine {text body : List Char}
    (starts : '\n' ∉ text → body.head? ≠ some '\n' ∧ body.head? ≠ some '\r') :
    Token.skipFirstLine (firstLine text ++ body) = body := by
  unfold firstLine
  split_ifs with lines
  · rfl
  · obtain ⟨line, ret⟩ := starts (by simpa using lines)
    rw [List.nil_append]
    unfold Token.skipFirstLine
    split
    · exact absurd rfl line
    · exact absurd rfl ret
    · rfl

/-- What is written for a text without ends of lines does not start with one. -/
theorem head?_multilineBasicBody {text : List Char} (oneLine : '\n' ∉ text) (rest : List Char) :
    (multilineBasicBody 0 text ++ '"' :: rest).head? ≠ some '\n' ∧
      (multilineBasicBody 0 text ++ '"' :: rest).head? ≠ some '\r' := by
  cases text with
  | nil => simp [multilineBasicBody]
  | cons c later =>
    by_cases quote : c = '"'
    · simp [multilineBasicBody, quote]
    · rw [multilineBasicBody, if_neg quote]
      rcases multilineChar_cases c with ⟨mark, tail, escaped, -⟩ | ⟨same, -, ret, -⟩
      · simp [escaped]
      · simp [same, ret, (List.ne_of_not_mem_cons oneLine).symm]

/-- Between threefold quotation marks, any text is read back. -/
theorem text?_multilineBasic (text : List Char) {rest : List Char}
    (unmarked : rest.head? ≠ some '"') :
    Token.text? (multilineBasic.quote text ++ rest) = some (.quoted (.ofList text) true, rest) := by
  have three : Token.afterThree? '"' (multilineBasic.quote text ++ rest)
      = some (firstLine text ++ (multilineBasicBody 0 text ++ '"' :: '"' :: '"' :: rest)) := by
    simp [quote, Token.afterThree?]
  have starts := fun oneLine : '\n' ∉ text => head?_multilineBasicBody oneLine ('"' :: '"' :: rest)
  rw [Token.text?.eq_def, three]
  simp only [skipFirstLine_firstLine starts, Token.multilineBasic?_body text (Nat.zero_le 2) unmarked,
    Option.map_some]

/-- Between threefold apostrophes, a text that is written there is read back. -/
theorem text?_multilineLiteral {text : List Char} (is : of text = multilineLiteral)
    {rest : List Char} (unmarked : rest.head? ≠ some '\'') :
    Token.text? (multilineLiteral.quote text ++ rest)
      = some (.quoted (.ofList text) true, rest) := by
  obtain ⟨controls, short⟩ := of_eq_multilineLiteral is
  have three : Token.afterThree? '\'' (multilineLiteral.quote text ++ rest)
      = some (firstLine text ++ (text ++ '\'' :: '\'' :: '\'' :: rest)) := by
    simp [quote, Token.afterThree?]
  have other : Token.afterThree? '"' (multilineLiteral.quote text ++ rest) = none :=
    Token.afterThree?_of_head (by decide) _
  have starts : '\n' ∉ text → (text ++ '\'' :: '\'' :: '\'' :: rest).head? ≠ some '\n' ∧
      (text ++ '\'' :: '\'' :: '\'' :: rest).head? ≠ some '\r' := by
    intro oneLine
    cases text with
    | nil => simp
    | cons c later =>
      have ret : c ≠ '\r' := by
        rintro rfl
        exact absurd (controls '\r' List.mem_cons_self) (by decide)
      simp [ret, (List.ne_of_not_mem_cons oneLine).symm]
  rw [Token.text?.eq_def, other, three]
  simp only [skipFirstLine_firstLine starts,
    Token.multilineLiteral?_append short (fun c member => isPlain_of_not_isControl (controls c member))
      unmarked, Option.map_some]

end Quoting

/-- **A quoted text is read back** when no further mark follows. -/
theorem Token.text?_quoted (text : String) {rest : List Char} (unquoted : rest.head? ≠ some '"')
    (unmarked : rest.head? ≠ some '\'') :
    Token.text? (Toml.quoted text ++ rest)
      = some (.quoted text (Quoting.of text.toList).isMultiline, rest) := by
  have whole : String.ofList text.toList = text := String.ofList_toList
  rw [Toml.quoted]
  cases is : Quoting.of text.toList with
  | basic => rw [Quoting.text?_basic _ unquoted, whole]; rfl
  | literal => rw [Quoting.text?_literal is unmarked, whole]; rfl
  | multilineBasic => rw [Quoting.text?_multilineBasic _ unquoted, whole]; rfl
  | multilineLiteral => rw [Quoting.text?_multilineLiteral is unmarked, whole]; rfl

end CursorThemes.Toml
