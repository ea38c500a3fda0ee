import CursorThemes.Decimal.Binary64

/-! # Values of a TOML document

What a TOML document says, once it is read: a table of keys and values. A table remembers how it was
written, for that decides what later lines of the document may still add to it. -/

namespace CursorThemes.Toml

open Decimal (Binary64)

/-- How a table came to be. -/
inductive Origin where
  /-- Between braces, or the whole document. Nothing can be added to one between braces. -/
  | inline
  /-- Under a header of its own. -/
  | header
  /-- On the way to a table with a header. A header of its own may still follow. -/
  | implied
  /-- On the way of a dotted key. -/
  | dotted
  deriving DecidableEq, Repr

/-- **A value of a TOML document.** -/
inductive Value where
  /-- A text. -/
  | string (text : String)
  /-- A whole number. -/
  | integer (number : Int)
  /-- A binary fraction. -/
  | float (number : Binary64)
  /-- A truth value. -/
  | boolean (truth : Bool)
  /-- A date, a time, or both. -/
  | datetime (text : List Char)
  /-- A row of values between brackets. -/
  | array (items : List Value)
  /-- Keys and values. -/
  | table (origin : Origin) (entries : List (String × Value))
  /-- A row of tables, each with a header of its own. -/
  | tables (elements : List (List (String × Value)))
  deriving Repr

/-! ## Portable values

Whole numbers of up to 128 bits can be read, but a document can count on 64 bits with sign only. -/

/-- Whether a number has 64 bits with sign. -/
def isPortableInteger (n : Int) : Bool := -9223372036854775808 ≤ n && n ≤ 9223372036854775807

mutual

/-- Whether all whole numbers in a value have 64 bits with sign. -/
def Value.isPortable : Value → Bool
  | .integer n => isPortableInteger n
  | .array items => arePortable items
  | .table _ entries => areEntriesPortable entries
  | .tables elements => areTablesPortable elements
  | .string _ | .float _ | .boolean _ | .datetime _ => true

/-- Whether all values of a row are portable. -/
def arePortable : List Value → Bool
  | [] => true
  | item :: later => item.isPortable && arePortable later

/-- Whether the values of all keys are portable. -/
def areEntriesPortable : List (String × Value) → Bool
  | [] => true
  | (_, value) :: later => value.isPortable && areEntriesPortable later

/-- Whether all tables of a row are portable. -/
def areTablesPortable : List (List (String × Value)) → Bool
  | [] => true
  | table :: later => areEntriesPortable table && areTablesPortable later

end

/-- Keys and their values. No key occurs twice. -/
abbrev Table := List (String × Value)

namespace Table

/-- Whether all whole numbers in a table have 64 bits with sign. -/
def isPortable (table : Table) : Bool := areEntriesPortable table

/-- The value of a key. -/
def find? (table : Table) (key : String) : Option Value := table.lookup key

/-- The table with another value at a key that it has. -/
def replace (table : Table) (key : String) (value : Value) : Table :=
  table.map fun entry => if entry.1 = key then (key, value) else entry

/-- The table with a further key, which it must not have yet. -/
def insert? (table : Table) (key : String) (value : Value) : Option Table :=
  if (table.find? key).isSome then none else some (table ++ [(key, value)])

/-- Whether what stands under a key of a path may be entered on the way of a dotted key: a table from
a dotted key, and before the end of the path also one that is merely implied. -/
def mayEnterDotted (origin : Origin) (atEnd : Bool) : Bool :=
  match origin with
  | .dotted => true
  | .implied => !atEnd
  | .header | .inline => false

/-- Changes the table at the end of a path. Tables that are missing on the way are made. With
`dotted` the path is that of a dotted key, and otherwise that of a header, which may also enter
tables with headers; in a row of tables it enters the last one. -/
def update (dotted : Bool) (change : Table → Option Table) : List String → Table → Option Table
  | [], table => change table
  | key :: path, table =>
    match table.find? key with
    | none => do
      let inner ← update dotted change path []
      return table ++ [(key, .table (if dotted then .dotted else .implied) inner)]
    | some (.table origin inner) =>
      if origin = .inline || (dotted && !mayEnterDotted origin path.isEmpty) then none
      else do
        let inner ← update dotted change path inner
        return table.replace key (.table origin inner)
    | some (.tables elements) =>
      if dotted && path.isEmpty then none
      else do
        -- lines below the header of an element belong to that element, the last one so far
        let inner ← update dotted change path (elements.getLast?.getD [])
        return table.replace key (.tables (elements.dropLast ++ [inner]))
    | some _ => none

/-- The table with a value under a dotted key, whose last part is `key`. -/
def assign (table : Table) (parents : List String) (key : String) (value : Value) : Option Table :=
  update true (·.insert? key value) parents table

/-- Opens the table of a header. Nothing may stand under the key, or a table that is merely
implied. -/
def openTable (table : Table) (key : String) : Option Table :=
  match table.find? key with
  | none => some (table ++ [(key, .table .header [])])
  | some (.table .implied inner) => some (table.replace key (.table .header inner))
  | some _ => none

/-- Opens a further table of a row of tables. -/
def openElement (table : Table) (key : String) : Option Table :=
  match table.find? key with
  | none => some (table ++ [(key, .tables [[]])])
  | some (.tables elements) => some (table.replace key (.tables (elements ++ [[]])))
  | some _ => none

/-- A table of assignments, in order: the parts of a dotted key before the last, the last part, and
the value. -/
def ofAssignments? : List (List String × String × Value) → Table → Option Table
  | [], table => some table
  | (parents, key, value) :: later, table =>
    match table.assign parents key value with
    | none => none
    | some table => ofAssignments? later table

/-- Nothing stands in an empty table. -/
@[simp] theorem find?_nil (key : String) : find? [] key = none := rfl

/-- A key that is not dotted is inserted right here. -/
@[simp] theorem assign_nil (table : Table) (key : String) (value : Value) :
    table.assign [] key value = table.insert? key value := rfl

end Table

end CursorThemes.Toml
