import CursorThemes.Config.Basic
import CursorThemes.Decimal.Shortest
import CursorThemes.Text.Quoted
import CursorThemes.Toml.Document
import CursorThemes.Toml.Quoting

/-! # Configurations as TOML documents

* **`Config.ofTable`** reads the known keys of a table, in the order of their names, and leaves other
  keys alone. A missing key has its default value.
* **`Config.parse`** reads a text.
* **`Config.render?`** writes a configuration as a text, if its paths are texts. -/

namespace CursorThemes

open Toml (Table Value)

/-- What a key of a configuration has to hold. -/
inductive Expected where
  /-- A 32-bit word. -/
  | word
  /-- A text. -/
  | text
  /-- A row of values. -/
  | row
  /-- A path, as a text. -/
  | path
  deriving DecidableEq, Repr

/-- The wording of what is expected. -/
def Expected.message : Expected → String
  | word => "u32"
  | text => "a string"
  | row => "a sequence"
  | path => "path string"

/-- How a value is called in a message. -/
def Toml.Value.description : Value → String
  | string text => "string " ++ Text.quoted text
  | integer n => "integer \x60" ++ toString n ++ "\x60"
  | float number => "floating point \x60" ++ number.text ++ "\x60"
  | boolean truth => "boolean \x60" ++ (if truth then "true" else "false") ++ "\x60"
  | datetime _ => "map"
  | array _ => "sequence"
  | table _ _ => "map"
  | tables _ => "sequence"

/-- Why a table is no configuration. -/
inductive Mismatch where
  /-- A key holds another kind of value than it should. -/
  | wrongKind (found : Value) (expected : Expected)
  /-- A key holds a number that is too small or too large. -/
  | outOfRange (number : Int) (expected : Expected)
  deriving Repr

/-- The wording of a mismatch. -/
def Mismatch.message : Mismatch → String
  | wrongKind found expected =>
    "invalid type: " ++ found.description ++ ", expected " ++ expected.message
  | outOfRange number expected =>
    "invalid value: integer \x60" ++ toString number ++ "\x60, expected " ++ expected.message

/-- Why a text is no configuration. -/
inductive ParseError where
  /-- It is no TOML document. -/
  | syntactic
  /-- It is one, but its table is no configuration. -/
  | unsuitable (table : Table) (cause : Mismatch)
  deriving Repr

/-- The wording of an error. What is said of a text that is no document is the matter of whoever reads
documents, and is given as `wording`. -/
def ParseError.message (wording : String) : ParseError → String
  | syntactic => wording
  | unsuitable _ cause => cause.message

namespace Config

/-! ## Reading -/

/-- The word that a value holds. -/
def readWord : Value → Except Mismatch UInt32
  | .integer n =>
    if 0 ≤ n ∧ n < UInt32.size then .ok (.ofNat n.toNat) else .error (.outOfRange n .word)
  | value => .error (.wrongKind value .word)

/-- The text that a value holds. -/
def readText : Value → Except Mismatch String
  | .string text => .ok text
  | value => .error (.wrongKind value .text)

/-- The path that a value holds. -/
def readPath : Value → Except Mismatch Path
  | .string text => .ok (.ofString text)
  | value => .error (.wrongKind value .path)

/-- The paths that values hold. The first value that is none decides the error. -/
def readPaths : List Value → Except Mismatch (List Path)
  | [] => .ok []
  | value :: later =>
    match readPath value with
    | .error error => .error error
    | .ok path =>
      match readPaths later with
      | .error error => .error error
      | .ok paths => .ok (path :: paths)

/-- The paths that a row of values holds. -/
def readRow : Value → Except Mismatch (List Path)
  | .array items => readPaths items
  | .tables elements => readPaths (elements.map (.table .header))
  | value => .error (.wrongKind value .row)

/-- What a key holds, or the default if the table does not have the key. -/
def readKey {α : Type} (table : Table) (key : String) (read : Value → Except Mismatch α)
    (default : α) : Except Mismatch α :=
  match table.find? key with
  | none => .ok default
  | some value => read value

/-- The key of the scale. -/
def scaleKey : String := "scale"

/-- The key of the directories. -/
def searchPathsKey : String := "search_paths"

/-- The key of the size. -/
def sizeKey : String := "size"

/-- The key of the theme. -/
def themeKey : String := "theme"

/-- **The configuration that a table describes.** Of several wrong keys the one whose name sorts
first decides the error. -/
def ofTable (table : Table) : Except Mismatch Config := do
  let scale ← readKey table scaleKey readWord standardScale
  let searchPaths ← readKey table searchPathsKey readRow []
  let size ← readKey table sizeKey readWord standardSize
  let theme ← readKey table themeKey (fun value => (readText value).map some) none
  return { theme, size, scale, searchPaths }

/-- **The configuration that a text describes.** -/
def parse (text : String) : Except ParseError Config :=
  match Toml.Document.parse? text with
  | none => .error .syntactic
  | some table => (ofTable table).mapError (.unsuitable table)

/-! ## Writing -/

/-- The line of a key, whose value is written already. -/
def line (key : String) (value : List Char) : List Char :=
  key.toList ++ [' ', '=', ' '] ++ value ++ ['\n']

/-- A row of texts: on one line if there is at most one, and otherwise each on a line of its own. -/
def rowText : List String → List Char
  | [] => ['[', ']']
  | [text] => '[' :: Toml.quoted text ++ [']']
  | texts =>
    ['[', '\n'] ++ texts.flatMap (fun text => [' ', ' ', ' ', ' '] ++ Toml.quoted text ++ [',', '\n'])
      ++ [']']

/-- The lines of a configuration whose directories are the given texts. -/
def lines (config : Config) (paths : List String) : List Char :=
  (match config.theme with
    | some theme => line themeKey (Toml.quoted theme)
    | none => []) ++
  line sizeKey (toString config.size).toList ++
  line scaleKey (toString config.scale).toList ++
  line searchPathsKey (rowText paths)

/-- **A configuration as a text.** All its paths have to be texts. -/
def render? (config : Config) : Option String :=
  (config.searchPaths.mapM Path.text?).map fun paths => .ofList (config.lines paths)

/-- How it is said that a configuration cannot be written. -/
def unrenderableMessage : String := "path contains invalid UTF-8 characters"

/-- The empty table describes the default. -/
@[simp] theorem ofTable_nil : ofTable [] = .ok {} := rfl

end Config

end CursorThemes
