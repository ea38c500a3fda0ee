import CursorThemes.Config.Document
import CursorThemes.Proofs.Quotations
import Mathlib.Data.List.Nodup

/-! # Documents of plain lines

A document in which every line has a key without dots is read line by line: into tokens, into
statements, and into a table with these keys and values.

* **`Token.ScansTo`** says which tokens characters come to, in front of what follows.
* **`Spelling`** is a way to write a value so that it can be read back at the end of a line, and
  **`Line`** adds a key to it.
* **`Document.parse?_lines`** is the result for whole documents. -/

namespace CursorThemes.Toml

/-! ## From characters to tokens -/

namespace Token

/-- **The tokens of characters** in front of what follows them. -/
def ScansTo (chars : List Char) (tokens : List Token) (rest : List Char) : Prop :=
  scan? (chars ++ rest) = (scan? rest).map (tokens ++ ·)

/-- No characters come to no tokens. -/
theorem scansTo_nil (rest : List Char) : ScansTo [] [] rest := by
  show scan? rest = (scan? rest).map fun tokens => tokens
  exact Option.map_id'.symm

/-- Characters come to tokens one after the other. -/
theorem ScansTo.append {first second rest : List Char} {early late : List Token}
    (start : ScansTo first early (second ++ rest)) (finish : ScansTo second late rest) :
    ScansTo (first ++ second) (early ++ late) rest := by
  unfold ScansTo at start finish ⊢
  rw [List.append_assoc, start, finish, Option.map_map]
  congr 1
  funext tokens
  exact (List.append_assoc early late tokens).symm

/-- The first token decides how characters start. -/
theorem scansTo_of_first? {c : Char} {chars rest : List Char} {token : Token}
    (first : first? c (chars ++ rest) = some (some token, rest)) :
    ScansTo (c :: chars) [token] rest := by
  unfold ScansTo
  rw [List.cons_append, scan?_cons first]
  rfl

/-- The end of a line is one token. -/
theorem scansTo_newline (rest : List Char) : ScansTo ['\n'] [newline] rest :=
  scansTo_of_first? rfl

/-- A mark is one token. -/
theorem scansTo_mark {c : Char} {token : Token} (isMark : mark? c = some token) (rest : List Char) :
    ScansTo [c] [token] rest := by
  refine scansTo_of_first? ?_
  unfold mark? at isMark
  split at isMark
  case h_8 => cases isMark
  all_goals
    cases isMark
    rfl

/-- Where characters of a kind end, and what follows. -/
theorem takeWhile_dropWhile_append {p : Char → Bool} {chars rest : List Char}
    (all : ∀ c ∈ chars, p c = true) (ends : ∀ c, rest.head? = some c → p c = false) :
    (chars ++ rest).takeWhile p = chars ∧ (chars ++ rest).dropWhile p = rest := by
  rw [List.takeWhile_append_of_pos all, List.dropWhile_append_of_pos all]
  cases rest with
  | nil => simp
  | cons c later => simp [ends c rfl]

/-- Spaces are one token, up to what is none. -/
theorem scansTo_blank {chars rest : List Char} (filled : chars ≠ [])
    (spaces : ∀ c ∈ chars, isSpace c = true)
    (ends : ∀ c, rest.head? = some c → isSpace c = false) : ScansTo chars [blank chars] rest := by
  cases chars with
  | nil => exact absurd rfl filled
  | cons c later =>
    obtain ⟨taken, left⟩ :=
      takeWhile_dropWhile_append (fun d member => spaces d (List.mem_cons_of_mem c member)) ends
    refine scansTo_of_first? ?_
    rw [first?.eq_def, if_pos (spaces c List.mem_cons_self), taken, left]

/-- A bare word has no spaces. -/
theorem not_isSpace_of_isBare {c : Char} (bareChar : isBare c = true) : isSpace c = false := by
  cases space : isSpace c with
  | false => rfl
  | true => simp [isBare, space] at bareChar

/-- A bare word is one token, up to what does not belong to it. -/
theorem scansTo_bare {chars rest : List Char} (filled : chars ≠ [])
    (bareWord : ∀ c ∈ chars, isBare c = true)
    (ends : ∀ c, rest.head? = some c → isBare c = false) : ScansTo chars [bare chars] rest := by
  cases chars with
  | nil => exact absurd rfl filled
  | cons c later =>
    obtain ⟨taken, left⟩ :=
      takeWhile_dropWhile_append (fun d member => bareWord d (List.mem_cons_of_mem c member)) ends
    -- a bare word starts with none of the characters that are looked for before it
    have first := bareWord c List.mem_cons_self
    simp only [isBare, Bool.and_eq_true, Bool.not_eq_true', bne_iff_ne, Option.isNone_iff_eq_none]
      at first
    obtain ⟨⟨⟨⟨⟨⟨space, line⟩, ret⟩, quote⟩, apostrophe⟩, comment⟩, mark⟩ := first
    refine scansTo_of_first? ?_
    rw [first?.eq_def, if_neg (Bool.eq_false_iff.mp space), if_neg comment, if_neg line, if_neg ret,
      if_neg (not_or.mpr ⟨quote, apostrophe⟩), mark, taken, left]

/-- The token of a text that was quoted. -/
def ofText (text : String) : Token := quoted text (Quoting.of text.toList).isMultiline

/-- A text starts with a quotation mark or an apostrophe. -/
theorem exists_cons_quoted (text : String) :
    ∃ mark rest, Toml.quoted text = mark :: rest ∧ (mark = '"' ∨ mark = '\'') := by
  rw [Toml.quoted]
  cases Quoting.of text.toList with
  | basic | multilineBasic => exact ⟨'"', _, rfl, Or.inl rfl⟩
  | literal | multilineLiteral => exact ⟨'\'', _, rfl, Or.inr rfl⟩

/-- A quoted text does not start with a space. -/
theorem isSpace_head?_quoted (text : String) (rest : List Char) {c : Char}
    (head : (Toml.quoted text ++ rest).head? = some c) : isSpace c = false := by
  obtain ⟨mark, later, written, rfl | rfl⟩ := exists_cons_quoted text
  · rw [written] at head
    cases head
    rfl
  · rw [written] at head
    cases head
    rfl

/-- A quoted text is one token when no further mark follows. -/
theorem scansTo_quoted (text : String) {rest : List Char} (unquoted : rest.head? ≠ some '"')
    (unmarked : rest.head? ≠ some '\'') : ScansTo (Toml.quoted text) [ofText text] rest := by
  have reads := text?_quoted text unquoted unmarked
  obtain ⟨mark, later, written, isMark⟩ := exists_cons_quoted text
  rw [written] at reads ⊢
  refine scansTo_of_first? ?_
  rw [List.cons_append] at reads
  rcases isMark with rfl | rfl
  · show ((text? ('"' :: (later ++ rest))).map fun found => (some found.1, found.2)) = _
    rw [reads]
    rfl
  · show ((text? ('\'' :: (later ++ rest))).map fun found => (some found.1, found.2)) = _
    rw [reads]
    rfl

end Token

/-! ## Values at the end of a line -/

/-- **A way to write a value** at the end of a line. -/
structure Spelling where
  /-- The characters of the value. -/
  chars : List Char
  /-- The tokens that the characters come to. -/
  tokens : List Token
  /-- The value. -/
  value : Value
  /-- The characters do not start with a space. -/
  starts : ∀ rest c, (chars ++ '\n' :: rest).head? = some c → Token.isSpace c = false
  /-- At the end of a line the characters come to the tokens. -/
  scans : ∀ rest, Token.ScansTo chars tokens ('\n' :: rest)
  /-- At the end of a line the tokens are read as the value. -/
  reads : ∀ rest, Statement.value? (tokens ++ .newline :: rest) = some (value, .newline :: rest)

/-- **A line of a document**: a key without dots, and a value. -/
structure Line extends Spelling where
  /-- The key. -/
  key : String
  /-- The key is not empty. -/
  filled : key.toList ≠ []
  /-- The key needs no quotation marks. -/
  keyChars : ∀ c ∈ key.toList, Statement.isKeyChar c = true

/-! ## From lines to statements -/

/-- A character of a key can stand in a bare word. -/
theorem isBare_of_isKeyChar {c : Char} (isKey : Statement.isKeyChar c = true) :
    Token.isBare c = true := by
  have small : c.toNat < 128 := by
    simp only [Statement.isKeyChar, Bool.or_eq_true, Bool.and_eq_true, decide_eq_true_eq,
      beq_iff_eq] at isKey
    rcases isKey with (((⟨-, low⟩ | ⟨-, low⟩) | ⟨-, low⟩) | rfl) | rfl
    · exact Nat.lt_of_le_of_lt (show c.toNat ≤ 'z'.toNat from low) (by decide)
    · exact Nat.lt_of_le_of_lt (show c.toNat ≤ 'Z'.toNat from low) (by decide)
    · exact Nat.lt_of_le_of_lt (show c.toNat ≤ '9'.toNat from low) (by decide)
    · decide
    · decide
  have all : ∀ n < 128, Statement.isKeyChar (.ofNat n) = true → Token.isBare (.ofNat n) = true := by
    decide
  have := all c.toNat small
  rw [Char.ofNat_toNat] at this
  exact this isKey

/-- Where each part comes to something, there is no less of it than there are parts. -/
theorem length_le_length_flatMap {α β : Type} {f : α → List β} (filled : ∀ part, f part ≠ [])
    (parts : List α) : parts.length ≤ (parts.flatMap f).length := by
  induction parts with
  | nil => exact Nat.zero_le _
  | cons part later ih =>
    rw [List.flatMap_cons, List.length_append, List.length_cons]
    have := List.length_pos_iff.mpr (filled part)
    omega

namespace Line

/-- The characters of a line. -/
def written (line : Line) : List Char := Config.line line.key line.chars

/-- The tokens of a line. -/
def pieces (line : Line) : List Token :=
  [.bare line.key.toList, .blank [' '], .equals, .blank [' ']] ++ line.tokens ++ [.newline]

/-- The statement of a line. -/
def statement (line : Line) : Statement := .assign [] line.key line.value

/-- The key of a line with its value. -/
def entry (line : Line) : String × Value := (line.key, line.value)

/-- **The characters of a line come to its tokens.** -/
theorem scansTo_pieces (line : Line) (rest : List Char) :
    Token.ScansTo line.written line.pieces rest := by
  have before : Token.ScansTo [' '] [.blank [' ']] ('=' :: ' ' :: (line.chars ++ '\n' :: rest)) :=
    Token.scansTo_blank (by decide) (List.all_eq_true.mp rfl) (by rintro c ⟨⟩; rfl)
  have behind : Token.ScansTo [' '] [.blank [' ']] (line.chars ++ '\n' :: rest) :=
    Token.scansTo_blank (by decide) (List.all_eq_true.mp rfl) (line.starts rest)
  have sign : Token.ScansTo [' ', '=', ' '] [.blank [' '], .equals, .blank [' ']]
      (line.chars ++ ['\n'] ++ rest) := by
    rw [List.append_assoc]
    exact before.append ((Token.scansTo_mark rfl _).append behind)
  have key : Token.ScansTo line.key.toList [.bare line.key.toList]
      ([' ', '=', ' '] ++ (line.chars ++ ['\n']) ++ rest) :=
    Token.scansTo_bare line.filled (fun c member => isBare_of_isKeyChar (line.keyChars c member))
      (by rintro c ⟨⟩; rfl)
  have whole := key.append (sign.append ((line.scans rest).append (Token.scansTo_newline rest)))
  simpa [written, Config.line, pieces] using whole

/-- A line starts with its key. -/
theorem pieces_append (line : Line) (rest : List Token) :
    line.pieces ++ rest
      = .bare line.key.toList :: .blank [' '] :: .equals :: .blank [' '] ::
        (line.tokens ++ .newline :: rest) := by
  simp [pieces]

/-- The key of a line is read up to the equals sign. -/
theorem key?_pieces (line : Line) (rest : List Token) :
    Statement.key? (line.pieces ++ rest)
      = some ([], line.key, .equals :: .blank [' '] :: (line.tokens ++ .newline :: rest)) := by
  have part : Statement.keyPart? (.bare line.key.toList) = some line.key := by
    rw [Statement.keyPart?, if_pos (List.all_eq_true.mpr line.keyChars), String.ofList_toList]
  rw [pieces_append, Statement.key?, Statement.maxDepth]
  simp only [Statement.keyOf?, part, Option.map_some]

/-- The tokens of a line are read as its statement. -/
theorem first?_pieces (line : Line) (rest : List Token) :
    Statement.first? (line.pieces ++ rest) = some (line.statement, .newline :: rest) := by
  have key := line.key?_pieces rest
  rw [pieces_append] at key ⊢
  simp only [Statement.first?, key, Statement.skipBlank, line.reads, Option.map_some, statement]

/-- **Lines come to the tokens of each of them.** -/
theorem scan?_flatMap (lines : List Line) :
    Token.scan? (lines.flatMap written) = some (lines.flatMap pieces) := by
  induction lines with
  | nil => exact Token.scan?_nil
  | cons line later ih =>
    rw [List.flatMap_cons, List.flatMap_cons, line.scansTo_pieces, ih, Option.map_some]

/-- The tokens of lines are read as their statements, if there is fuel for all lines. -/
theorem statementsFrom?_flatMap (lines : List Line) {fuel : Nat} (enough : lines.length < fuel) :
    Statement.statementsFrom? fuel (lines.flatMap pieces) = some (lines.map statement) := by
  induction lines generalizing fuel with
  | nil =>
    obtain ⟨more, rfl⟩ : ∃ more, fuel = more + 1 := ⟨fuel - 1, by omega⟩
    rfl
  | cons line later ih =>
    rw [List.length_cons] at enough
    obtain ⟨more, rfl⟩ : ∃ more, fuel = more + 1 := ⟨fuel - 1, by omega⟩
    rw [List.flatMap_cons, List.map_cons, Statement.statementsFrom?]
    have first := line.first?_pieces (later.flatMap pieces)
    rw [pieces_append] at first ⊢
    simp only [Statement.skipSpace, first, Statement.skipBlank, ih (Nat.lt_of_succ_lt_succ enough),
      Option.map_some]

/-- **The statements of lines.** -/
theorem statements?_flatMap (lines : List Line) :
    Statement.statements? (lines.flatMap pieces) = some (lines.map statement) :=
  statementsFrom?_flatMap lines
    (Nat.lt_succ_of_le (length_le_length_flatMap (fun _ => List.cons_ne_nil _ _) lines))

end Line

/-! ## From statements to a table -/

namespace Document

/-- Statements of keys without dots fill the table, if no key occurs twice. -/
theorem applyAll?_lines {lines : List Line} {table : Table}
    (distinct : (table.map Prod.fst ++ lines.map Line.key).Nodup) :
    State.applyAll? ⟨table, []⟩ (lines.map Line.statement)
      = some ⟨table ++ lines.map Line.entry, []⟩ := by
  -- the table is that of the lines before, none of which has a key of those to come
  induction lines generalizing table with
  | nil => rw [List.map_nil, List.map_nil, List.append_nil, State.applyAll?]
  | cons line later ih =>
    have fresh : table.find? line.key = none := by
      rw [Table.find?, List.lookup_eq_none_iff]
      intro entry member
      rw [bne_iff_ne]
      rintro same
      refine List.disjoint_of_nodup_append distinct (List.mem_map_of_mem member) ?_
      rw [← same]
      exact List.mem_cons_self
    have inserted : State.apply? ⟨table, []⟩ line.statement
        = some ⟨table ++ [line.entry], []⟩ := by
      show (table.insert? line.key line.value).map _ = _
      rw [Table.insert?, fresh]
      rfl
    have others : ((table ++ [line.entry]).map Prod.fst ++ later.map Line.key).Nodup := by
      simpa [Line.entry] using distinct
    rw [List.map_cons, List.map_cons, State.applyAll?, inserted]
    show State.applyAll? _ _ = _
    rw [ih others, List.append_assoc, List.singleton_append]

/-- No line starts with the mark that may tell an encoding. -/
theorem skipMark_lines (lines : List Line) :
    skipMark (lines.flatMap Line.written) = lines.flatMap Line.written := by
  unfold skipMark
  split
  · rename_i rest marked
    cases lines with
    | nil => cases marked
    | cons line later =>
      cases key : line.key.toList with
      | nil => exact absurd key line.filled
      | cons c others =>
        rw [List.flatMap_cons, Line.written, Config.line, key] at marked
        -- the text would start with a key, and the mark is no character of keys
        have isKey := line.keyChars c (key ▸ List.mem_cons_self)
        rw [(List.cons.inj marked).1] at isKey
        exact absurd isKey (by decide)
  · rfl

/-- **A document of lines is read as the table of their keys and values**, if no key occurs twice. -/
theorem parse?_lines {lines : List Line} (distinct : (lines.map Line.key).Nodup) :
    parse? (.ofList (lines.flatMap Line.written)) = some (lines.map Line.entry) := by
  have carried : State.applyAll? {} (lines.map Line.statement)
      = some ⟨lines.map Line.entry, []⟩ := applyAll?_lines distinct
  rw [parse?, String.toList_ofList, skipMark_lines, Line.scan?_flatMap]
  show (Statement.statements? (lines.flatMap Line.pieces)).bind build? = _
  rw [Line.statements?_flatMap, Option.bind_some, build?, carried]
  rfl

end Document

end CursorThemes.Toml
