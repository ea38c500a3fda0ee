import CursorThemes.FileTree
import CursorThemes.Theme.Load
import CursorThemes.Xcursor.Nearest

/-! # Cursor files of a theme

The cursors of a theme lie in the directories `<search path>/<theme>/cursors`, one file for each,
named after the cursor.

* **`Xcursor.list`** lists the files when the theme is asked for.
* **`Xcursor.next`** reads on through the listed files, up to the first that yields a sprite.
* **`Xcursor.loader`** delivers all of them from a tree that does not change meanwhile. -/

namespace CursorThemes.Xcursor

/-- A listed file: the name of the cursor, and where it is. -/
structure CursorFile where
  /-- The name of the cursor. -/
  name : String
  /-- The path of the file. -/
  path : Path
  deriving DecidableEq, Repr

/-- Listed files, and the notices about entries that could not be listed. -/
structure Listing where
  /-- The notices. -/
  notices : List Notice := []
  /-- The files. -/
  files : List CursorFile := []
  deriving DecidableEq, Repr

/-- Listings one after the other. -/
def Listing.concat (listings : List Listing) : Listing :=
  ⟨listings.flatMap Listing.notices, listings.flatMap Listing.files⟩

/-- Whether a name can be looked up below a search path: it is not empty and has no separator. -/
def isThemeName (theme : String) : Bool := theme != "" && !theme.toList.contains '/'

/-- A name can be looked up if it is not empty and has no separator. -/
theorem isThemeName_eq_true_iff {theme : String} :
    isThemeName theme = true ↔ theme ≠ "" ∧ '/' ∉ theme.toList := by
  simp [isThemeName]

/-- The directory with the cursors of a theme below a search path. -/
def cursorDirectory (searchPath : Path) (theme : String) : Path :=
  (searchPath.join (.ofString theme)).join (.ofString "cursors")

/-- The listing of a regular file, whose name has to be a text. -/
def listFile (directory : Path) (name : FileName) : Listing :=
  match Text.ofBytes? name with
  | some text => { files := [⟨text, directory.join ⟨name⟩⟩] }
  | none => {}

/-- The listing of one entry of a directory, which is at location `place`. A link counts as what it
leads to; one that leads back to the directory, or nowhere, is a fault. -/
def listEntry (tree : FileTree) (directory : Path) (place : Location) :
    FileName × FileNode → Listing
  | (name, .file _) => listFile directory name
  | (_, .directory) => {}
  | (name, .link _) =>
    let path := directory.join ⟨name⟩
    match tree.resolve path with
    | .error error => { notices := [.entryUnreadable directory path error] }
    | .ok target =>
      if target = place then { notices := [.entryLoops directory path] }
      else
        match tree.node? target with
        | some (.file _) => listFile directory name
        | _ => {}

/-- The listing of a directory, by the order of names. A path that leads to no directory has none. -/
def listDirectory (tree : FileTree) (directory : Path) : Listing :=
  match tree.resolve directory with
  | .error _ => {}
  | .ok place =>
    if tree.node? place = some .directory then
      .concat ((tree.children place).map (listEntry tree directory place))
    else {}

/-- **The files of a theme**, in the order of the search paths. -/
def list (tree : FileTree) (searchPaths : List Path) (theme : String) : Listing :=
  if isThemeName theme then
    let found := Listing.concat (searchPaths.map fun searchPath =>
      listDirectory tree (cursorDirectory searchPath theme))
    ⟨found.notices ++ [.filesFound found.files.length theme], found.files⟩
  else {}

/-- The sprite in the bytes of a file: the frames nearest in size. -/
def spriteOf (name : String) (size : UInt32) (content : List UInt8) : Except FileFailure Sprite :=
  match decode? content with
  | none => .error .malformed
  | some pictures =>
    match nearest size pictures with
    | [] => .error .noImages
    | frames => .ok ⟨name, frames⟩

/-- The sprite of a listed file, as the file is now. -/
def loadFile (tree : FileTree) (size : UInt32) (file : CursorFile) : Except FileFailure Sprite :=
  match tree.read file.path with
  | .error error => .error (.unreadable error)
  | .ok content => spriteOf file.name size content

/-- What one step through listed files comes to. -/
structure Step where
  /-- The sprite, unless the files are used up. -/
  sprite? : Option Sprite
  /-- A notice for each file that was passed over. -/
  notices : List Notice
  /-- The files that were not looked at. -/
  rest : List CursorFile
  deriving DecidableEq, Repr

/-- **The next sprite of the listed files.** Files are read one by one, until one is usable. -/
def next (tree : FileTree) (size : UInt32) : List CursorFile → Step
  | [] => ⟨none, [], []⟩
  | file :: later =>
    match loadFile tree size file with
    | .ok sprite => ⟨some sprite, [], later⟩
    | .error failure =>
      let step := next tree size later
      { step with notices := .fileSkipped file.path failure :: step.notices }

/-- All deliveries from listed files, and the notices on the way to the end. `pending` notices stand in
front of those of the first delivery, or of the end. -/
def deliveries (tree : FileTree) (size : UInt32) (pending : List Notice) :
    List CursorFile → List Delivery × List Notice
  | [] => ([], pending)
  | file :: later =>
    match loadFile tree size file with
    | .ok sprite =>
      let found := deliveries tree size [] later
      (⟨pending, sprite⟩ :: found.1, found.2)
    | .error failure =>
      deliveries tree size (pending ++ [.fileSkipped file.path failure]) later

/-- Deliveries are what one step after the other finds. -/
theorem deliveries_eq_next (tree : FileTree) (size : UInt32) (pending : List Notice)
    (files : List CursorFile) :
    deliveries tree size pending files
      = let step := next tree size files
        match step.sprite? with
        | none => ([], pending ++ step.notices)
        | some sprite =>
          let found := deliveries tree size [] step.rest
          (⟨pending ++ step.notices, sprite⟩ :: found.1, found.2) := by
  induction files generalizing pending with
  | nil => simp [deliveries, next]
  | cons file later ih =>
    cases loaded : loadFile tree size file with
    | ok sprite => simp [deliveries, next, loaded]
    | error failure => simp [deliveries, next, loaded, ih]

/-- **The loader of cursor files** below search paths. -/
def loader (tree : FileTree) (searchPaths : List Path) : Loader := fun theme size =>
  let listing := list tree searchPaths theme
  let found := deliveries tree size [] listing.files
  { opening := listing.notices, deliveries := found.1, closing := found.2 }

end CursorThemes.Xcursor
