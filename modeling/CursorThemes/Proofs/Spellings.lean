import CursorThemes.Proofs.Lines
import CursorThemes.Proofs.Numerals

/-! # Ways to write values

Texts, words and rows of texts are spelled so that they are read back at the end of a line, whatever
the texts are made of.

* **`Spelling.ofText`** puts a text between quotation marks, and **`Spelling.ofWord`** writes a word
  in decimal digits.
* **`Spelling.ofRow`** puts a row of texts between brackets, on one line or on several. -/

namespace CursorThemes.Toml

/-! ## Texts and numbers -/

namespace Spelling

/-- A text between quotation marks. -/
def ofText (text : String) : Spelling where
  chars := quoted text
  tokens := [Token.ofText text]
  value := .string text
  starts rest _ := Token.isSpace_head?_quoted text ('\n' :: rest)
  scans _ := Token.scansTo_quoted text (by simp) (by simp)
  reads _ := rfl

/-- A digit can stand in a bare word. -/
theorem isBare_of_isDigit {c : Char} (digit : Scalar.isDigit c = true) : Token.isBare c = true := by
  refine isBare_of_isKeyChar ?_
  rw [Scalar.isDigit] at digit
  simp [Statement.isKeyChar, digit]

/-- A numeral does not start with a space. -/
theorem isSpace_head?_toDigits (n : Nat) (rest : List Char) {c : Char}
    (head : (Nat.toDigits 10 n ++ rest).head? = some c) : Token.isSpace c = false := by
  cases digits : Nat.toDigits 10 n with
  | nil => exact absurd digits Nat.toDigits_ne_nil
  | cons first later =>
    rw [digits] at head
    cases head
    have digit := Scalar.isDigit_of_mem_toDigits (n := n) (c := c) (digits ▸ List.mem_cons_self)
    exact Token.not_isSpace_of_isBare (isBare_of_isDigit digit)

/-- A numeral at the end of a line is read as its number, if this fits into 128 bits. -/
theorem value?_bare_toDigits {n : Nat} (readable : Scalar.isReadable n = true) (rest : List Token) :
    Statement.value? (.bare (Nat.toDigits 10 n) :: .newline :: rest)
      = some (.integer n, .newline :: rest) := by
  have word : Statement.dateWord (.bare (Nat.toDigits 10 n) :: .newline :: rest)
      = (Nat.toDigits 10 n, .newline :: rest) := by
    simp [Statement.dateWord, Statement.word]
  simp only [Statement.value?, Statement.valueFrom?, word, Scalar.value?_toDigits readable,
    Option.map_some]

/-- A word in decimal digits. -/
def ofWord (n : UInt32) : Spelling where
  chars := Nat.toDigits 10 n.toNat
  tokens := [.bare (Nat.toDigits 10 n.toNat)]
  value := .integer n.toNat
  starts rest _ := isSpace_head?_toDigits n.toNat ('\n' :: rest)
  scans _ := Token.scansTo_bare Nat.toDigits_ne_nil
    (fun _ member => isBare_of_isDigit (Scalar.isDigit_of_mem_toDigits member))
    (by rintro c ⟨⟩; rfl)
  reads := value?_bare_toDigits (by
    have := n.toNat_lt
    simp only [Scalar.isReadable, Bool.and_eq_true, decide_eq_true_eq]
    omega)

end Spelling

/-! ## Rows of texts -/

/-- A text of a row on a line of its own, with a comma. -/
def item (text : String) : List Char := [' ', ' ', ' ', ' '] ++ quoted text ++ [',', '\n']

/-- The tokens of a text on a line of its own. -/
def itemTokens (text : String) : List Token :=
  [.blank [' ', ' ', ' ', ' '], Token.ofText text, .comma, .newline]

/-- A line of a row comes to its tokens. -/
theorem scansTo_item (text : String) (rest : List Char) :
    Token.ScansTo (item text) (itemTokens text) rest := by
  have margin : Token.ScansTo [' ', ' ', ' ', ' '] [.blank [' ', ' ', ' ', ' ']]
      (quoted text ++ (',' :: '\n' :: rest)) :=
    Token.scansTo_blank (by decide) (List.all_eq_true.mp rfl) fun _ =>
      Token.isSpace_head?_quoted text _
  have inner : Token.ScansTo (quoted text) [Token.ofText text] (',' :: '\n' :: rest) :=
    Token.scansTo_quoted text (by simp) (by simp)
  have ends : Token.ScansTo [',', '\n'] [.comma, .newline] rest :=
    (Token.scansTo_mark rfl _).append (Token.scansTo_newline rest)
  exact Token.ScansTo.append (margin.append inner) ends

/-- The lines of a row come to their tokens. -/
theorem scansTo_items (texts : List String) (rest : List Char) :
    Token.ScansTo (texts.flatMap item) (texts.flatMap itemTokens) rest := by
  induction texts with
  | nil => exact Token.scansTo_nil rest
  | cons text later ih => exact (scansTo_item text _).append ih

/-- A text with a comma is the next one of a row. -/
theorem itemsFrom?_comma (fuel depth : Nat) (text : String) (rest : List Token) :
    Statement.itemsFrom? (fuel + 2) depth (Token.ofText text :: .comma :: rest)
      = (Statement.itemsFrom? (fuel + 1) depth (Statement.skipSpace rest)).map
          fun (items, rest) => (.string text :: items, rest) := by
  rw [Token.ofText, Statement.itemsFrom?]
  · rfl
  · rintro _ ⟨⟩

/-- The lines of a row are read as their texts, if there is fuel for all of them. -/
theorem itemsFrom?_items (texts : List String) {fuel : Nat} (enough : texts.length < fuel)
    (depth : Nat) (rest : List Token) :
    Statement.itemsFrom? fuel depth
        (Statement.skipSpace (texts.flatMap itemTokens ++ .closeBracket :: rest))
      = some (texts.map .string, rest) := by
  -- each text takes one step of the row, and its own value takes one below it
  induction texts generalizing fuel with
  | nil =>
    obtain ⟨more, rfl⟩ : ∃ more, fuel = more + 1 := ⟨fuel - 1, by omega⟩
    simp [Statement.skipSpace, Statement.itemsFrom?]
  | cons text later ih =>
    rw [List.length_cons] at enough
    obtain ⟨more, rfl⟩ : ∃ more, fuel = more + 2 := ⟨fuel - 2, by omega⟩
    rw [List.flatMap_cons, List.append_assoc]
    show Statement.itemsFrom? (more + 2) depth
      (Token.ofText text :: .comma :: .newline :: (later.flatMap itemTokens ++ .closeBracket :: rest)) = _
    rw [itemsFrom?_comma, Statement.skipSpace, ih (by omega)]
    rfl

/-- The tokens of a row of texts. -/
def rowTokens : List String → List Token
  | [] => [.openBracket, .closeBracket]
  | [text] => [.openBracket, Token.ofText text, .closeBracket]
  | texts => [.openBracket, .newline] ++ texts.flatMap itemTokens ++ [.closeBracket]

/-- **A row of texts comes to its tokens.** -/
theorem scansTo_rowText (texts : List String) (rest : List Char) :
    Token.ScansTo (Config.rowText texts) (rowTokens texts) rest := by
  have opens (rest : List Char) : Token.ScansTo ['['] [.openBracket] rest :=
    Token.scansTo_mark rfl rest
  have closes : Token.ScansTo [']'] [.closeBracket] rest := Token.scansTo_mark rfl rest
  match texts with
  | [] => exact (opens _).append closes
  | [text] =>
    have inner : Token.ScansTo (quoted text) [Token.ofText text] (']' :: rest) :=
      Token.scansTo_quoted text (by simp) (by simp)
    exact (opens _).append (inner.append closes)
  | first :: second :: later =>
    -- the bracket stands on a line of its own here
    have start (rest : List Char) : Token.ScansTo ['[', '\n'] [.openBracket, .newline] rest :=
      (opens _).append (Token.scansTo_newline rest)
    have items := scansTo_items (first :: second :: later) ([']'] ++ rest)
    exact Token.ScansTo.append ((start _).append items) closes

/-- A row is opened with the fuel that is left for its items. -/
theorem value?_openBracket (tokens : List Token) :
    Statement.value? (.openBracket :: tokens)
      = (Statement.itemsFrom? (2 * tokens.length + 3) (Statement.maxDepth - 1)
          (Statement.skipSpace tokens)).map fun (items, rest) => (.array items, rest) := by
  rw [Statement.value?, Statement.maxDepth]
  show Statement.valueFrom? (2 * tokens.length + 3 + 1) (79 + 1) _ = _
  rw [Statement.valueFrom?]

/-- **A row of texts is read back.** -/
theorem value?_rowTokens (texts : List String) (rest : List Token) :
    Statement.value? (rowTokens texts ++ rest) = some (.array (texts.map .string), rest) := by
  match texts with
  | [] =>
    show Statement.value? (.openBracket :: .closeBracket :: rest) = _
    rw [value?_openBracket]
    rfl
  | [text] =>
    show Statement.value? (.openBracket :: Token.ofText text :: .closeBracket :: rest) = _
    rw [value?_openBracket, Token.ofText]
    rfl
  | first :: second :: later =>
    have shape : rowTokens (first :: second :: later) ++ rest
        = .openBracket :: .newline ::
          ((first :: second :: later).flatMap itemTokens ++ .closeBracket :: rest) := by
      simp [rowTokens]
    rw [shape, value?_openBracket, Statement.skipSpace, itemsFrom?_items]
    · rfl
    · -- there is fuel for all texts, for each of them has tokens of its own
      have few : (first :: second :: later).length
          ≤ ((first :: second :: later).flatMap itemTokens).length :=
        length_le_length_flatMap (fun _ => List.cons_ne_nil _ _) _
      simp only [List.length_cons, List.length_append] at few ⊢
      omega

/-- A row of texts. -/
def Spelling.ofRow (texts : List String) : Spelling where
  chars := Config.rowText texts
  tokens := rowTokens texts
  value := .array (texts.map .string)
  starts rest c head := by
    unfold Config.rowText at head
    split at head
    all_goals
      cases head
      rfl
  scans _ := scansTo_rowText texts _
  reads _ := value?_rowTokens texts _

end CursorThemes.Toml
