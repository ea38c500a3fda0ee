import CursorThemes.Notice

/-! # Search paths

A search path is a list of directories in one text, with colons between them. An entry that starts
with `~` names a directory below the home directory: `SearchPath.expand` replaces the mark by the
home directory, and passes such an entry over when no home is known. -/

namespace CursorThemes.SearchPath

/-- Where themes are looked for when nothing else is said. -/
def standard : String := "~/.icons:~/.local/share/icons:/usr/share/icons:/usr/share/pixmaps"

/-- The pieces of a list between colons, empty ones included. -/
def pieces : List Char → List (List Char)
  | [] => [[]]
  | c :: rest =>
    if c = ':' then [] :: pieces rest
    else
      match pieces rest with
      | [] => [[c]]
      | piece :: more => (c :: piece) :: more

/-- The entries of a list: its pieces, without the empty ones. -/
def entries (list : List Char) : List (List Char) := (pieces list).filter (!·.isEmpty)

/-- What one entry comes to. -/
inductive Entry where
  /-- A directory to look into. -/
  | directory (path : Path)
  /-- An entry that needs the home directory while none is known. -/
  | homeless (entry : String)
  deriving DecidableEq, Repr

/-- **One entry with its home mark replaced.** Slashes right after the mark are dropped, so that what
follows is relative and stays below `home`. -/
def resolve (home : Option Path) : List Char → Entry
  | '~' :: rest =>
    match home with
    | some base => .directory (base.join (.ofString (.ofList (rest.dropWhile (· == '/')))))
    | none => .homeless (.ofList ('~' :: rest))
  | entry => .directory (.ofString (.ofList entry))

/-- The directory of an entry, if it has one. -/
def Entry.directory? : Entry → Option Path
  | directory path => some path
  | homeless _ => none

/-- The notice about an entry, if there is one. -/
def Entry.notice? : Entry → Option Notice
  | directory _ => none
  | homeless entry => some (.homeUnknown entry)

/-- The directories of a list, and the notices about entries passed over. -/
structure Expansion where
  /-- The directories, in the order of the list. -/
  paths : List Path
  /-- One notice for each entry that was passed over, in the order of the list. -/
  notices : List Notice
  deriving DecidableEq, Repr

/-- **The directories that a list names.** -/
def expand (list : String) (home : Option Path) : Expansion :=
  let resolved := (entries list.toList).map (resolve home)
  ⟨resolved.filterMap Entry.directory?, resolved.filterMap Entry.notice?⟩

/-- The directories of the list that a variable holds, or of the standard list if it is unset. -/
def ofVariable (list : Option String) (home : Option Path) : Expansion :=
  expand (list.getD standard) home

/-- The empty list has no entries. -/
@[simp] theorem entries_nil : entries [] = [] := rfl

/-- A leading colon adds nothing. -/
@[simp] theorem entries_colon_cons (list : List Char) : entries (':' :: list) = entries list := by
  simp [entries, pieces]

end CursorThemes.SearchPath
