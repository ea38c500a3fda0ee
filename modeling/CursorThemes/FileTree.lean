import CursorThemes.Path
import CursorThemes.SystemError

/-! # File trees

The files, directories and symbolic links that a search for cursors may meet.

* A **`Location`** is the row of names that leads from the root to a place. The tree keeps what is
  at each location, and the location from which relative paths start.
* **`FileTree.resolve`** follows a path to a location, through links and `..`, as the operating
  system does.
* **`FileTree.isDirectory`**, **`FileTree.read`** and **`FileTree.children`** look at the tree.
* **`FileTree.makeDirectory`**, **`FileTree.write`**, **`FileTree.link`** and **`FileTree.remove`**
  change it. -/

namespace CursorThemes

/-- A name in a directory. -/
abbrev FileName := List UInt8

/-- The names that lead from the root to a place. -/
abbrev Location := List FileName

/-- What is at a location. -/
inductive FileNode where
  /-- A file with its bytes. -/
  | file (content : List UInt8)
  /-- A directory. -/
  | directory
  /-- A symbolic link. -/
  | link (target : Path)
  deriving DecidableEq, Repr

/-- **A tree of files.** -/
structure FileTree where
  /-- What is at each location other than the root, which is a directory. -/
  nodes : List (Location × FileNode) := []
  /-- Where relative paths start. -/
  start : Location := []
  /-- Nothing is at two places of the list. -/
  nodup : (nodes.map Prod.fst).Nodup := by simp

namespace FileTree

/-- What is at a location. -/
def node? (tree : FileTree) (location : Location) : Option FileNode :=
  if location.isEmpty then some .directory else tree.nodes.lookup location

/-- The tree with nothing at a location. -/
def erase (tree : FileTree) (location : Location) : FileTree where
  nodes := tree.nodes.filter (·.1 != location)
  start := tree.start
  nodup := tree.nodup.sublist (List.filter_sublist.map Prod.fst)

/-- The tree with a node at a location, in place of what was there. -/
def put (tree : FileTree) (location : Location) (node : FileNode) : FileTree where
  nodes := (tree.erase location).nodes ++ [(location, node)]
  start := tree.start
  nodup := by
    rw [List.map_append, List.nodup_append]
    refine ⟨(tree.erase location).nodup, by simp, ?_⟩
    intro other inOthers same isSame
    simp only [List.map_cons, List.map_nil, List.mem_singleton] at isSame
    subst isSame
    rintro rfl
    simp [erase] at inOthers

/-! ## Following a path -/

/-- The number of symbolic links that may be met on one path. -/
def maxLinks : Nat := 40

/-- The number of bytes that a name may have. -/
def maxNameLength : Nat := 255

/-- The number of bytes that a path may have. -/
def maxPathLength : Nat := 4095

/-- The component that stands for the directory itself. -/
def hereName : FileName := [0x2e]

/-- The component that stands for the directory above. -/
def aboveName : FileName := [0x2e, 0x2e]

/-- The location from which a path starts, when relative paths start from `base`. -/
def startOf (base : Location) (path : Path) : Location := if path.isAbsolute then [] else base

/-- Follows components from the location `base`, through at most `links` links. The empty component
that a trailing separator leaves, like every component, asks for a directory to stand in. -/
def walk (tree : FileTree) (links : Nat) (base : Location) :
    List FileName → Except SystemError Location
  | [] => .ok base
  | name :: rest =>
    if tree.node? base ≠ some .directory then .error .notDirectory
    else if name = [] ∨ name = hereName then tree.walk links base rest
    else if name = aboveName then tree.walk links base.dropLast rest
    else if name.length > maxNameLength then .error .nameTooLong
    else
      match tree.node? (base ++ [name]) with
      | none => .error .noEntry
      | some (.link target) =>
        match links with
        | 0 => .error .tooManyLinks
        -- the path goes on from where the link leads, which is relative to its own directory
        | links + 1 => tree.walk links (startOf base target) (target.components ++ rest)
      | some _ => tree.walk links (base ++ [name]) rest
termination_by components => (links, components.length)

/-- **The location that a path leads to**, all links followed. -/
def resolve (tree : FileTree) (path : Path) : Except SystemError Location :=
  if path.bytes = [] then .error .noEntry
  else if path.bytes.length > maxPathLength then .error .nameTooLong
  else tree.walk maxLinks (startOf tree.start path) path.components

/-! ## Looking at a tree -/

/-- Whether a path leads to a directory. -/
def isDirectory (tree : FileTree) (path : Path) : Bool :=
  match tree.resolve path with
  | .error _ => false
  | .ok location => tree.node? location == some .directory

/-- The bytes of the file that a path leads to. -/
def read (tree : FileTree) (path : Path) : Except SystemError (List UInt8) :=
  match tree.resolve path with
  | .error error => .error error
  | .ok location =>
    match tree.node? location with
    | some (.file content) => .ok content
    | some .directory => .error .isDirectory
    | some (.link _) => .error .tooManyLinks
    | none => .error .noEntry

/-- The order of names by their bytes. -/
def nameLe (a b : FileName × FileNode) : Bool := !decide (b.1 < a.1)

/-- What is in the directory at a location, by the order of names. -/
def children (tree : FileTree) (location : Location) : List (FileName × FileNode) :=
  (tree.nodes.filterMap fun (place, node) =>
    match place.getLast? with
    | some name => if place.dropLast = location then some (name, node) else none
    | none => none).mergeSort nameLe

/-! ## Changing a tree -/

/-- Follows components as `walk` does, and makes the directories that are missing. -/
def reach (tree : FileTree) (links : Nat) (base : Location) :
    List FileName → Except SystemError (FileTree × Location)
  | [] => .ok (tree, base)
  | name :: rest =>
    if name = [] ∨ name = hereName then tree.reach links base rest
    else if name = aboveName then tree.reach links base.dropLast rest
    else if name.length > maxNameLength then .error .nameTooLong
    else
      match tree.node? (base ++ [name]) with
      | none => (tree.put (base ++ [name]) .directory).reach links (base ++ [name]) rest
      | some (.file _) => .error .notDirectory
      | some .directory => tree.reach links (base ++ [name]) rest
      | some (.link target) =>
        match links with
        | 0 => .error .tooManyLinks
        | links + 1 => tree.reach links (startOf base target) (target.components ++ rest)
termination_by components => (links, components.length)

/-- The tree with the directory of a path, and all directories on the way to it. -/
def makeDirectory (tree : FileTree) (path : Path) : Except SystemError FileTree :=
  (tree.reach maxLinks (startOf tree.start path) path.components).map Prod.fst

/-- Puts a node where components lead from the location `base`. Missing directories are made on the
way. A link at the end is followed if `follow` says so. -/
def place (tree : FileTree) (follow : Bool) (node : FileNode) :
    Nat → Location → List FileName → Except SystemError FileTree
  | 0, _, _ => .error .tooManyLinks
  | links + 1, base, components =>
    match components.getLast? with
    | none => .error .noEntry
    | some name =>
      match tree.reach maxLinks base components.dropLast with
      | .error error => .error error
      | .ok (tree, directory) =>
        match tree.node? (directory ++ [name]), follow with
        | some (.link target), true =>
          tree.place follow node links (startOf directory target) target.components
        | some .directory, _ => .error .isDirectory
        | _, _ => .ok (tree.put (directory ++ [name]) node)

/-- The tree with the bytes in the file of a path. -/
def write (tree : FileTree) (path : Path) (content : List UInt8) : Except SystemError FileTree :=
  tree.place true (.file content) (maxLinks + 1) (startOf tree.start path) path.components

/-- The tree with a symbolic link at a path. -/
def link (tree : FileTree) (path target : Path) : Except SystemError FileTree :=
  tree.place false (.link target) 1 (startOf tree.start path) path.components

/-- The tree without the file or link at a path. -/
def remove (tree : FileTree) (path : Path) : Except SystemError FileTree :=
  match path.components.getLast? with
  | none => .error .noEntry
  | some name =>
    match tree.walk maxLinks (startOf tree.start path) path.components.dropLast with
    | .error error => .error error
    | .ok directory =>
      match tree.node? (directory ++ [name]) with
      | none => .error .noEntry
      | some .directory => .error .isDirectory
      | some _ => .ok (tree.erase (directory ++ [name]))

/-- The root is a directory. -/
@[simp] theorem node?_root (tree : FileTree) : tree.node? [] = some .directory := rfl

/-- No components lead nowhere else. -/
@[simp] theorem walk_nil (tree : FileTree) (links : Nat) (base : Location) :
    tree.walk links base [] = .ok base := by
  rw [walk]

end FileTree

end CursorThemes
