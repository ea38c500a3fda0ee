import CursorThemes.Toml.Token

/-! # Texts in quotation marks

How a text in quotation marks is read, on one line or on several, with escapes or without.

* **`Token.escape?`** reads one escape.
* **`Token.text?`** reads a text of any kind, up to its closing marks. A text without closing marks,
  or with a character that may not stand in it, is refused; what is left after a text is shorter
  (`length_of_text?`). -/

namespace CursorThemes.Toml.Token

/-! ## Escapes -/

/-- The value of a digit in base 16. -/
def hexValue? (c : Char) : Option Nat :=
  if '0' ≤ c ∧ c ≤ '9' then some (c.toNat - '0'.toNat)
  else if 'a' ≤ c ∧ c ≤ 'f' then some (c.toNat - 'a'.toNat + 10)
  else if 'A' ≤ c ∧ c ≤ 'F' then some (c.toNat - 'A'.toNat + 10)
  else none

/-- The number that digits in base 16 stand for, after the digits of `high`. -/
def hexNumber? (high : Nat) : List Char → Option Nat
  | [] => some high
  | c :: rest =>
    match hexValue? c with
    | none => none
    | some digit => hexNumber? (16 * high + digit) rest

/-- The character of a number, if there is one. -/
def charOf? (n : Nat) : Option Char := if h : n.isValidChar then some (.ofNatAux n h) else none

/-- The character whose number stands in the first `count` digits. -/
def numbered? (count : Nat) (chars : List Char) : Option Char :=
  if chars.length < count then none else (hexNumber? 0 (chars.take count)).bind charOf?

/-- The character that an escape stands for, and the number of characters of the escape. What is
given follows the backslash. -/
def escape? : List Char → Option (Char × Nat)
  | 'b' :: _ => some ('\x08', 1)
  | 't' :: _ => some ('\t', 1)
  | 'n' :: _ => some ('\n', 1)
  | 'f' :: _ => some ('\x0c', 1)
  | 'r' :: _ => some ('\r', 1)
  | 'e' :: _ => some ('\x1b', 1)
  | '"' :: _ => some ('"', 1)
  | '\\' :: _ => some ('\\', 1)
  | 'x' :: rest => (numbered? 2 rest).map (·, 3)
  | 'u' :: rest => (numbered? 4 rest).map (·, 5)
  | 'U' :: rest => (numbered? 8 rest).map (·, 9)
  | _ => none

/-! ## Texts in quotation marks -/

/-- A text and what follows it, with a further character in front of the text. -/
def addFront (c : Char) (found : List Char × List Char) : List Char × List Char :=
  (c :: found.1, found.2)

/-- The rest of a text between quotation marks on one line, and what follows the closing mark. -/
def basic? : List Char → Option (List Char × List Char)
  | [] => none
  | c :: rest =>
    if c = '"' then some ([], rest)
    else if c = '\\' then
      match escape? rest with
      | none => none
      | some (char, count) => (basic? (rest.drop count)).map (addFront char)
    else if isPlain c then (basic? rest).map (addFront c)
    else none
termination_by chars => chars.length
decreasing_by all_goals simp only [List.length_drop, List.length_cons]; omega

/-- The rest of a text between apostrophes on one line, and what follows the closing one. -/
def literal? : List Char → Option (List Char × List Char)
  | [] => none
  | c :: rest =>
    if c = '\'' then some ([], rest)
    else if isPlain c then (literal? rest).map (addFront c)
    else none

/-- Whether a line ends here. -/
def startsLine : List Char → Bool
  | '\n' :: _ => true
  | '\r' :: '\n' :: _ => true
  | _ => false

/-- What follows spaces, tabs and ends of lines. -/
def skipLines : List Char → List Char
  | '\r' :: '\n' :: rest => skipLines rest
  | c :: rest => if isSpace c || c = '\n' then skipLines rest else c :: rest
  | [] => []

/-- What follows the end of a line that may stand right after an opening mark. -/
def skipFirstLine : List Char → List Char
  | '\n' :: rest => rest
  | '\r' :: '\n' :: rest => rest
  | chars => chars

/-- What three marks at the end of a text of several lines leave: up to two further marks right after
them belong to the text. -/
def closeMultiline (mark : Char) : List Char → List Char × List Char
  | [] => ([], [])
  | c :: rest =>
    if c = mark then
      match rest with
      | [] => ([mark], [])
      | d :: rest => if d = mark then ([mark, mark], rest) else ([mark], d :: rest)
    else ([], c :: rest)

/-- What follows three marks, if the text goes on with them. -/
def afterThree? (mark : Char) : List Char → Option (List Char)
  | a :: b :: c :: rest => if a = mark ∧ b = mark ∧ c = mark then some rest else none
  | _ => none

/-- What follows the three marks is shorter. -/
theorem length_of_afterThree? {mark : Char} {chars rest : List Char}
    (h : afterThree? mark chars = some rest) : rest.length + 3 = chars.length := by
  unfold afterThree? at h
  split at h
  · split at h
    · cases h
      rfl
    · cases h
  · cases h

/-- Skipping does not make anything longer. -/
theorem length_skipLines_le (chars : List Char) : (skipLines chars).length ≤ chars.length := by
  fun_induction skipLines chars with
  | case1 rest ih => simp only [List.length_cons]; omega
  | case2 c rest _ _ ih => simp only [List.length_cons]; omega
  | case3 => simp
  | case4 => simp

/-- The rest of a text between threefold quotation marks, and what follows the closing ones. A
backslash at the end of a line takes the blanks and ends of lines that follow with it. -/
def multilineBasic? (chars : List Char) : Option (List Char × List Char) :=
  match afterThree? '"' chars with
  | some rest => some (closeMultiline '"' rest)
  | none =>
    match chars with
    | [] => none
    | c :: rest =>
      if c = '\\' then
        -- blanks may stand between the backslash and the end of its line
        if startsLine (rest.dropWhile isSpace) then multilineBasic? (skipLines rest)
        else
          match escape? rest with
          | none => none
          | some (char, count) => (multilineBasic? (rest.drop count)).map (addFront char)
      else if isPlain c || c = '\n' || (c = '\r' && startsLine (c :: rest)) then
        (multilineBasic? rest).map (addFront c)
      else none
termination_by chars.length
decreasing_by
  · have := length_skipLines_le rest
    simp only [List.length_cons]
    omega
  · simp only [List.length_drop, List.length_cons]
    omega
  · simp

/-- The rest of a text between threefold apostrophes, and what follows the closing ones. -/
def multilineLiteral? (chars : List Char) : Option (List Char × List Char) :=
  match afterThree? '\'' chars with
  | some rest => some (closeMultiline '\'' rest)
  | none =>
    match chars with
    | [] => none
    | c :: rest =>
      if isPlain c || c = '\n' || (c = '\r' && startsLine (c :: rest)) then
        (multilineLiteral? rest).map (addFront c)
      else none

/-- The text in quotation marks that the characters start with, and what follows it. -/
def text? (chars : List Char) : Option (Token × List Char) :=
  match afterThree? '"' chars with
  | some rest =>
    (multilineBasic? (skipFirstLine rest)).map fun (text, rest) => (quoted (.ofList text) true, rest)
  | none =>
    match afterThree? '\'' chars with
    | some rest =>
      (multilineLiteral? (skipFirstLine rest)).map fun (text, rest) =>
        (quoted (.ofList text) true, rest)
    | none =>
      match chars with
      | '"' :: rest => (basic? rest).map fun (text, rest) => (quoted (.ofList text) false, rest)
      | '\'' :: rest => (literal? rest).map fun (text, rest) => (quoted (.ofList text) false, rest)
      | _ => none

/-! ## What is left is shorter -/

/-- A text between quotation marks uses characters up. -/
theorem length_of_basic? {chars : List Char} {found : List Char × List Char}
    (h : basic? chars = some found) : found.2.length < chars.length := by
  fun_induction basic? chars generalizing found with
  | case1 => cases h
  | case2 => cases h; simp
  | case3 => cases h
  | case4 rest char count escaped _ ih =>
    obtain ⟨inner, isInner, rfl⟩ := Option.map_eq_some_iff.1 h
    have := ih isInner
    simp only [addFront, List.length_drop, List.length_cons] at this ⊢
    omega
  | case5 c rest _ _ _ ih =>
    obtain ⟨inner, isInner, rfl⟩ := Option.map_eq_some_iff.1 h
    have := ih isInner
    simp only [addFront, List.length_cons] at this ⊢
    omega
  | case6 => cases h

/-- A text between apostrophes uses characters up. -/
theorem length_of_literal? {chars : List Char} {found : List Char × List Char}
    (h : literal? chars = some found) : found.2.length < chars.length := by
  fun_induction literal? chars generalizing found with
  | case1 => cases h
  | case2 => cases h; simp
  | case3 c rest _ _ ih =>
    obtain ⟨inner, isInner, rfl⟩ := Option.map_eq_some_iff.1 h
    have := ih isInner
    simp only [addFront, List.length_cons] at this ⊢
    omega
  | case4 => cases h

/-- Closing marks make nothing longer. -/
theorem length_closeMultiline_le (mark : Char) (chars : List Char) :
    (closeMultiline mark chars).2.length ≤ chars.length := by
  unfold closeMultiline
  split
  · simp
  · split
    · split
      · simp
      · split
        · simp only [List.length_cons]
          omega
        · simp only [List.length_cons]
          omega
    · simp

/-- Skipping the end of a first line makes nothing longer. -/
theorem length_skipFirstLine_le (chars : List Char) :
    (skipFirstLine chars).length ≤ chars.length := by
  unfold skipFirstLine
  split
  · simp
  · simp only [List.length_cons]
    omega
  · exact Nat.le_refl _

/-- A text between threefold quotation marks uses characters up. -/
theorem length_of_multilineBasic? {chars : List Char} {found : List Char × List Char}
    (h : multilineBasic? chars = some found) : found.2.length < chars.length := by
  fun_induction multilineBasic? chars generalizing found with
  | case1 chars rest three =>
    cases h
    have := length_closeMultiline_le '"' rest
    have := length_of_afterThree? three
    omega
  | case2 => cases h
  | case3 rest _ _ ih =>
    have := ih h
    have := length_skipLines_le rest
    simp only [List.length_cons]
    omega
  | case4 => cases h
  | case5 rest _ _ char count _ ih =>
    obtain ⟨inner, isInner, rfl⟩ := Option.map_eq_some_iff.1 h
    have := ih isInner
    simp only [addFront, List.length_drop, List.length_cons] at this ⊢
    omega
  | case6 c rest _ _ _ ih =>
    obtain ⟨inner, isInner, rfl⟩ := Option.map_eq_some_iff.1 h
    have := ih isInner
    simp only [addFront, List.length_cons] at this ⊢
    omega
  | case7 => cases h

/-- A text between threefold apostrophes uses characters up. -/
theorem length_of_multilineLiteral? {chars : List Char} {found : List Char × List Char}
    (h : multilineLiteral? chars = some found) : found.2.length < chars.length := by
  fun_induction multilineLiteral? chars generalizing found with
  | case1 chars rest three =>
    cases h
    have := length_closeMultiline_le '\'' rest
    have := length_of_afterThree? three
    omega
  | case2 => cases h
  | case3 c rest _ _ ih =>
    obtain ⟨inner, isInner, rfl⟩ := Option.map_eq_some_iff.1 h
    have := ih isInner
    simp only [addFront, List.length_cons] at this ⊢
    omega
  | case4 => cases h

/-- A text in quotation marks uses characters up. -/
theorem length_of_text? {chars : List Char} {found : Token × List Char}
    (h : text? chars = some found) : found.2.length < chars.length := by
  unfold text? at h
  split at h
  · rename_i rest three
    obtain ⟨inner, isInner, rfl⟩ := Option.map_eq_some_iff.1 h
    have := length_of_multilineBasic? isInner
    have := length_skipFirstLine_le rest
    have := length_of_afterThree? three
    simp only
    omega
  · split at h
    · rename_i rest three
      obtain ⟨inner, isInner, rfl⟩ := Option.map_eq_some_iff.1 h
      have := length_of_multilineLiteral? isInner
      have := length_skipFirstLine_le rest
      have := length_of_afterThree? three
      simp only
      omega
    · split at h
      · obtain ⟨inner, isInner, rfl⟩ := Option.map_eq_some_iff.1 h
        have := length_of_basic? isInner
        simp only [List.length_cons]
        omega
      · obtain ⟨inner, isInner, rfl⟩ := Option.map_eq_some_iff.1 h
        have := length_of_literal? isInner
        simp only [List.length_cons]
        omega
      · cases h

end CursorThemes.Toml.Token
