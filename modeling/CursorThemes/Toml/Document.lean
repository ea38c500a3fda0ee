import CursorThemes.Toml.Statement
import CursorThemes.Toml.Token.Scan

/-! # TOML documents

The table that a TOML document describes. `Document.parse?` reads a text; `Document.build?` carries
its statements out one after the other, each within the table of the last header. -/

namespace CursorThemes.Toml.Document

/-- A document as far as it is read: its table, and the path of the last header. -/
structure State where
  /-- What the statements so far say. -/
  table : Table := []
  /-- The path to the table that keys belong to now. -/
  current : List String := []
  deriving Repr

/-- The state after one more statement. -/
def State.apply? (state : State) : Statement → Option State
  | .assign parents key value =>
    (Table.update false (·.assign parents key value) state.current state.table).map fun table =>
      { state with table }
  | .header parents key =>
    (Table.update false (·.openTable key) parents state.table).map fun table =>
      ⟨table, parents ++ [key]⟩
  | .elementHeader parents key =>
    (Table.update false (·.openElement key) parents state.table).map fun table =>
      ⟨table, parents ++ [key]⟩

/-- The state after statements. -/
def State.applyAll? (state : State) : List Statement → Option State
  | [] => some state
  | statement :: later =>
    match state.apply? statement with
    | none => none
    | some state => state.applyAll? later

/-- The table that statements describe. -/
def build? (statements : List Statement) : Option Table :=
  (State.applyAll? {} statements).map State.table

/-- The characters of a text without the mark that may tell its encoding. -/
def skipMark : List Char → List Char
  | '\uFEFF' :: rest => rest
  | chars => chars

/-- **The table that a text describes**, if it is a TOML document. -/
def parse? (text : String) : Option Table := do
  let tokens ← Token.scan? (skipMark text.toList)
  let statements ← Statement.statements? tokens
  build? statements

end CursorThemes.Toml.Document
