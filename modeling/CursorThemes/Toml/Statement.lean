import CursorThemes.Toml.Scalar

/-! # Statements of a TOML document

A TOML document is a list of statements, each on lines of its own: a key with its value, or a header
that opens a table.

* **`Statement`** is one of them.
* **`Statement.value?`** reads the value that tokens start with, and **`Statement.statements?`** a
  whole document. -/

namespace CursorThemes.Toml

/-- **A statement of a TOML document.** A key may have several parts; all but the last are its
parents. -/
inductive Statement where
  /-- A key with its value. -/
  | assign (parents : List String) (key : String) (value : Value)
  /-- The header of a table. -/
  | header (parents : List String) (key : String)
  /-- The header of a further table of a row. -/
  | elementHeader (parents : List String) (key : String)
  deriving Repr

namespace Statement

/-- The tokens without a blank in front. -/
def skipBlank : List Token → List Token
  | .blank _ :: rest => rest
  | tokens => tokens

/-- The tokens without blanks and ends of lines in front. -/
def skipSpace : List Token → List Token
  | .blank _ :: rest => skipSpace rest
  | .newline :: rest => skipSpace rest
  | tokens => tokens

/-! ## Keys -/

/-- Whether a character may stand in a key without quotation marks. -/
def isKeyChar (c : Char) : Bool :=
  ('a' ≤ c && c ≤ 'z') || ('A' ≤ c && c ≤ 'Z') || ('0' ≤ c && c ≤ '9') || c == '-' || c == '_'

/-- One part of a key. -/
def keyPart? : Token → Option String
  | .bare chars => if chars.all isKeyChar then some (.ofList chars) else none
  | .quoted text false => some text
  | _ => none

/-- A key with a further part in front, if the token is one. -/
def addParent? (token : Token) (key : Option (List String × String × List Token)) :
    Option (List String × String × List Token) := do
  let part ← keyPart? token
  let (parents, last, rest) ← key
  return (part :: parents, last, rest)

/-- The key of at most `count` parts that tokens start with: its parts, the last one apart, and what
follows it. Blanks may stand around the dots and after the key. -/
def keyOf? : Nat → List Token → Option (List String × String × List Token)
  | 0, _ => none
  | _ + 1, [] => none
  | _ + 1, [token] => (keyPart? token).map fun part => ([], part, [])
  | count + 1, token :: .dot :: .blank _ :: rest => addParent? token (keyOf? count rest)
  | count + 1, token :: .dot :: rest => addParent? token (keyOf? count rest)
  | count + 1, token :: .blank _ :: .dot :: .blank _ :: rest => addParent? token (keyOf? count rest)
  | count + 1, token :: .blank _ :: .dot :: rest => addParent? token (keyOf? count rest)
  | _ + 1, token :: .blank _ :: rest => (keyPart? token).map fun part => ([], part, rest)
  | _ + 1, token :: rest => (keyPart? token).map fun part => ([], part, rest)

/-- How deep brackets and braces may be nested, and how many parts a key may have. -/
def maxDepth : Nat := 80

/-- **The key that tokens start with**: its parts, the last one apart, and what follows it. -/
def key? (tokens : List Token) : Option (List String × String × List Token) := keyOf? maxDepth tokens

/-! ## Values -/

/-- The characters of bare words and dots in a row, and what follows them. -/
def word : List Token → List Char × List Token
  | .bare chars :: rest => let found := word rest; (chars ++ found.1, found.2)
  | .dot :: rest => let found := word rest; ('.' :: found.1, found.2)
  | rest => ([], rest)

/-- The word that tokens start with, and what follows it. A date and a time with a single space
between them are one word. -/
def dateWord (tokens : List Token) : List Char × List Token :=
  match word tokens with
  | (front, .blank [' '] :: .bare (c :: chars) :: rest) =>
    -- only a whole date is continued, and only by what may be a time
    if Scalar.afterDate? front = some [] ∧ Scalar.isDigit c then
      let found := word (.bare (c :: chars) :: rest)
      (front ++ ' ' :: found.1, found.2)
    else (front, .blank [' '] :: .bare (c :: chars) :: rest)
  | found => found

mutual

/-- The value that tokens start with, and what follows it. At most `depth` levels of brackets and
braces are opened; `fuel` bounds the number of steps. -/
def valueFrom? : Nat → Nat → List Token → Option (Value × List Token)
  | 0, _, _ => none
  | fuel + 1, depth, tokens =>
    match tokens with
    | .quoted text _ :: rest => some (.string text, rest)
    | .openBracket :: rest =>
      match depth with
      | 0 => none
      | depth + 1 =>
        (itemsFrom? fuel depth (skipSpace rest)).map fun (items, rest) => (.array items, rest)
    | .openBrace :: rest =>
      match depth with
      | 0 => none
      | depth + 1 =>
        match entriesFrom? fuel depth (skipSpace rest) with
        | none => none
        | some (entries, rest) =>
          (Table.ofAssignments? entries []).map fun table => (.table .inline table, rest)
    | _ =>
      let (chars, rest) := dateWord tokens
      (Scalar.value? chars).map fun value => (value, rest)

/-- The values up to a closing bracket, and what follows it. A comma stands between two values, and
may stand after the last one. -/
def itemsFrom? : Nat → Nat → List Token → Option (List Value × List Token)
  | 0, _, _ => none
  | fuel + 1, depth, tokens =>
    match tokens with
    | .closeBracket :: rest => some ([], rest)
    | _ =>
      match valueFrom? fuel depth tokens with
      | none => none
      | some (value, rest) =>
        match skipSpace rest with
        | .closeBracket :: rest => some ([value], rest)
        | .comma :: rest =>
          (itemsFrom? fuel depth (skipSpace rest)).map fun (items, rest) => (value :: items, rest)
        | _ => none

/-- The keys and values up to a closing brace, and what follows it. Commas stand as in a row of
values, and lines may end anywhere but within a key. -/
def entriesFrom? : Nat → Nat → List Token →
    Option (List (List String × String × Value) × List Token)
  | 0, _, _ => none
  | fuel + 1, depth, tokens =>
    match tokens with
    | .closeBrace :: rest => some ([], rest)
    | _ =>
      match key? tokens with
      | none => none
      | some (parents, key, rest) =>
        match skipSpace rest with
        | .equals :: rest =>
          match valueFrom? fuel depth (skipSpace rest) with
          | none => none
          | some (value, rest) =>
            match skipSpace rest with
            | .closeBrace :: rest => some ([(parents, key, value)], rest)
            | .comma :: rest =>
              (entriesFrom? fuel depth (skipSpace rest)).map fun (entries, rest) =>
                ((parents, key, value) :: entries, rest)
            | _ => none
        | _ => none

end

/-- **The value that tokens start with**, and what follows it. Of two steps one after the other at
least one uses a token up, so that there is fuel for all of them. -/
def value? (tokens : List Token) : Option (Value × List Token) :=
  valueFrom? (2 * tokens.length + 2) maxDepth tokens

/-! ## Statements -/

/-- The statement that tokens start with, and what follows it. -/
def first? : List Token → Option (Statement × List Token)
  | .openBracket :: .openBracket :: rest =>
    match key? (skipBlank rest) with
    | some (parents, key, .closeBracket :: .closeBracket :: rest) =>
      some (.elementHeader parents key, rest)
    | _ => none
  | .openBracket :: rest =>
    match key? (skipBlank rest) with
    | some (parents, key, .closeBracket :: rest) => some (.header parents key, rest)
    | _ => none
  | tokens =>
    match key? tokens with
    | some (parents, key, .equals :: rest) =>
      (value? (skipBlank rest)).map fun (value, rest) => (.assign parents key value, rest)
    | _ => none

/-- The statements of the lines of a document, of which there are no more than `fuel`. After a
statement its line has to end. -/
def statementsFrom? : Nat → List Token → Option (List Statement)
  | 0, _ => none
  | fuel + 1, tokens =>
    match skipSpace tokens with
    | [] => some []
    | tokens =>
      match first? tokens with
      | none => none
      | some (statement, rest) =>
        match skipBlank rest with
        | [] => some [statement]
        | .newline :: rest => (statementsFrom? fuel rest).map (statement :: ·)
        | _ => none

/-- **The statements of a document.** -/
def statements? (tokens : List Token) : Option (List Statement) :=
  statementsFrom? (tokens.length + 1) tokens

end Statement

end CursorThemes.Toml
