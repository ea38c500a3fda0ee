import CursorThemes.Xcursor.Loader
import CursorThemes.Proofs.KeyedLists
import Mathlib.Data.List.Nodup

/-! # The files in a directory

What a listing of cursor files has to do with the tree that it was made of.

* **`FileTree.HoldsFile`** says that a directory has a regular file under a name, links followed.
* **`FileTree.follow`** follows a path in a tree without links, by **`FileTree.walk_eq_follow`**: the
  number of links that may be met does not matter there.
* **`FileTree.mem_children_iff`** and **`FileTree.pairwise_children`** say that the children of a
  directory are its nodes, by their names.
* **`Xcursor.mem_files_listDirectory_iff`** and **`Xcursor.pairwise_files_listDirectory`** say the
  same of the files listed for a directory.
* **`Xcursor.IsUsable`** is a file that yields a sprite, which **`Xcursor.mem_spritesIn_iff`**
  relates to the listing. Such a file has a name. -/

namespace CursorThemes

/-- Where a node leads, if it is a link. -/
def FileNode.target? : FileNode → Option Path
  | link target => some target
  | file _ | directory => none

namespace FileTree

variable {tree : FileTree}

/-! ## The children of a directory -/

/-- Below the root, what is at a location is in the list of nodes. -/
theorem node?_eq_some_iff {location : Location} (below : location ≠ []) {node : FileNode} :
    tree.node? location = some node ↔ (location, node) ∈ tree.nodes := by
  rw [node?, if_neg (by simpa using below)]
  exact KeyedList.lookup_eq_some_iff_mem tree.nodup

/-- The child of a location that a node is, if it is one. -/
def childAt? (location : Location) : Location × FileNode → Option (FileName × FileNode)
  | (place, node) =>
    match place.getLast? with
    | some name => if place.dropLast = location then some (name, node) else none
    | none => none

/-- A node is a child of the location one name above it. -/
theorem childAt?_eq_some_iff {location : Location} {entry : Location × FileNode}
    {child : FileName × FileNode} :
    childAt? location entry = some child ↔ entry = (location ++ [child.1], child.2) := by
  obtain ⟨place, node⟩ := entry
  obtain ⟨name, found⟩ := child
  rw [childAt?]
  constructor
  · intro some
    split at some
    · rename_i final last
      split at some
      · rename_i above
        cases some
        rw [← above, List.dropLast_append_getLast? _ last]
      · cases some
    · cases some
  · intro same
    cases same
    simp

/-- **The children of a location** are the nodes one name below it. -/
theorem mem_children_iff {location : Location} {name : FileName} {node : FileNode} :
    (name, node) ∈ tree.children location ↔ tree.node? (location ++ [name]) = some node := by
  -- sorting leaves the children the same
  have listed : (name, node) ∈ tree.children location
      ↔ (name, node) ∈ tree.nodes.filterMap (childAt? location) := List.mem_mergeSort
  rw [listed, List.mem_filterMap, node?_eq_some_iff (by simp)]
  simp only [childAt?_eq_some_iff, exists_eq_right]

/-- No two children of a location have one name. -/
theorem pairwise_ne_children (tree : FileTree) (location : Location) :
    (tree.children location).Pairwise fun a b => a.1 ≠ b.1 := by
  have unsorted : (tree.nodes.filterMap (childAt? location)).Pairwise fun a b => a.1 ≠ b.1 := by
    refine (List.pairwise_map.mp tree.nodup).filterMap _ ?_
    intro first second different a isFirst b isSecond same
    rw [childAt?_eq_some_iff.mp isFirst, childAt?_eq_some_iff.mp isSecond, same] at different
    exact different rfl
  exact ((List.mergeSort_perm _ nameLe).pairwise_iff fun different => different.symm).mpr unsorted

/-- The order of names is that of their bytes. -/
theorem nameLe_iff {a b : FileName × FileNode} : nameLe a b = true ↔ a.1 ≤ b.1 := by
  rw [nameLe, Bool.not_eq_true', decide_eq_false_iff_not, List.not_lt]

/-- **The children of a location are listed by their names.** -/
theorem pairwise_children (tree : FileTree) (location : Location) :
    (tree.children location).Pairwise fun a b => a.1 < b.1 := by
  have sorted : (tree.children location).Pairwise fun a b => nameLe a b = true := by
    refine List.pairwise_mergeSort ?_ ?_ _
    · intro a b c first second
      rw [nameLe_iff] at first second ⊢
      exact List.le_trans first second
    · intro a b
      rw [Bool.or_eq_true, nameLe_iff, nameLe_iff]
      exact List.le_total a.1 b.1
  refine (sorted.and (tree.pairwise_ne_children location)).imp ?_
  rintro a b ⟨ordered, different⟩
  exact Std.lt_of_le_of_ne (nameLe_iff.mp ordered) different

/-! ## Regular files -/

/-- **A directory holds a regular file** under a name. A link counts as the file that it
leads to. -/
def HoldsFile (tree : FileTree) (directory : Path) (name : FileName) : Prop :=
  ∃ place, tree.resolve directory = .ok place ∧ tree.node? place = some .directory ∧
    ((∃ content, tree.node? (place ++ [name]) = some (.file content)) ∨
      ∃ target leads content, tree.node? (place ++ [name]) = some (.link target) ∧
        tree.resolve (directory.join ⟨name⟩) = .ok leads ∧
        tree.node? leads = some (.file content))

/-- The last of several components is one of the later ones, unless there is only one. -/
theorem getLast?_cons_eq_some_iff {name last : FileName} {rest : List FileName} :
    (name :: rest).getLast? = some last ↔ rest = [] ∧ name = last ∨ rest.getLast? = some last := by
  cases rest with
  | nil => simp
  | cons next later => simp [List.getLast?_cons_cons]

/-- Components that end in an empty one lead to a directory, if they lead anywhere. -/
theorem node?_of_walk {links : Nat} {base place : Location} {components : List FileName}
    (leads : tree.walk links base components = .ok place)
    (last : components.getLast? = some []) : tree.node? place = some .directory := by
  -- the last component is handed on until only it is left, and links only put others before it
  fun_induction walk tree links base components with
  | case1 => cases last
  | case2 | case5 | case6 | case7 => cases leads
  | case3 links base name rest directory here ih =>
    rcases getLast?_cons_eq_some_iff.mp last with ⟨rfl, -⟩ | later
    · -- this is where the empty component is met
      rw [walk_nil] at leads
      cases leads
      exact not_not.mp directory
    · exact ih leads later
  | case4 links base rest directory named ih =>
    rcases getLast?_cons_eq_some_iff.mp last with ⟨-, none⟩ | later
    · exact absurd (Or.inl none) named
    · exact ih leads later
  | case8 base name rest directory named above short target link links ih =>
    rcases getLast?_cons_eq_some_iff.mp last with ⟨-, none⟩ | later
    · exact absurd (Or.inl none) named
    · exact ih leads (by rw [List.getLast?_append, later, Option.some_or])
  | case9 links base name rest directory named above short node nolink found ih =>
    rcases getLast?_cons_eq_some_iff.mp last with ⟨-, none⟩ | later
    · exact absurd (Or.inl none) named
    · exact ih leads later

/-- A path that ends in a separator leads to a directory, if it leads anywhere. -/
theorem node?_of_resolve {path : Path} {place : Location} (leads : tree.resolve path = .ok place)
    (ends : path.bytes.getLast? = some Path.separator) : tree.node? place = some .directory := by
  have last : path.components.getLast? = some [] := by
    obtain ⟨front, split⟩ := List.getLast?_eq_some_iff.mp ends
    rw [Path.components, split, List.splitOnP_append_cons _ _ (by decide), List.splitOnP_nil,
      List.getLast?_concat]
  rw [resolve] at leads
  split at leads
  · cases leads
  · split at leads
    · cases leads
    · exact node?_of_walk leads last

/-- What is read is the content of a file. -/
theorem read_eq_ok_iff {path : Path} {content : List UInt8} :
    tree.read path = .ok content ↔
      ∃ place, tree.resolve path = .ok place ∧ tree.node? place = some (.file content) := by
  rw [read]
  cases tree.resolve path with
  | error error => simp
  | ok place =>
    simp only [Except.ok.injEq, exists_eq_left']
    split <;> simp_all

/-! ## Trees without links -/

/-- **A tree without links.** -/
def Unlinked (tree : FileTree) : Prop := ∀ location target, tree.node? location ≠ some (.link target)

/-- A tree has no links if there is none among its nodes. -/
theorem unlinked_of_nodes (nodes : ∀ entry ∈ tree.nodes, entry.2.target? = none) :
    tree.Unlinked := by
  intro location target found
  cases location with
  | nil => cases found
  | cons first rest => cases nodes _ ((node?_eq_some_iff (List.cons_ne_nil _ _)).mp found)

/-- **Following components where no link is met**, so that there is nothing to count. -/
def follow (tree : FileTree) (base : Location) : List FileName → Except SystemError Location
  | [] => .ok base
  | name :: rest =>
    if tree.node? base ≠ some .directory then .error .notDirectory
    else if name = [] ∨ name = hereName then tree.follow base rest
    else if name = aboveName then tree.follow base.dropLast rest
    else if name.length > maxNameLength then .error .nameTooLong
    else if tree.node? (base ++ [name]) = none then .error .noEntry
    else tree.follow (base ++ [name]) rest

/-- **Without links the budget for them does not matter.** -/
theorem walk_eq_follow (unlinked : tree.Unlinked) (links : Nat) (base : Location)
    (components : List FileName) :
    tree.walk links base components = tree.follow base components := by
  fun_induction walk tree links base components with
  | case1 => rfl
  | case2 links base name rest elsewhere => rw [follow, if_pos elsewhere]
  | case3 links base name rest directory here ih => rw [follow, if_neg directory, if_pos here, ih]
  | case4 links base rest directory named ih =>
    rw [follow, if_neg directory, if_neg named, if_pos rfl, ih]
  | case5 links base name rest directory named below long =>
    rw [follow, if_neg directory, if_neg named, if_neg below, if_pos long]
  | case6 links base name rest directory named below short none =>
    rw [follow, if_neg directory, if_neg named, if_neg below, if_neg short, if_pos none]
  | case7 base name rest directory named below short target link => exact absurd link (unlinked _ _)
  | case8 base name rest directory named below short target link links ih =>
    exact absurd link (unlinked _ _)
  | case9 links base name rest directory named below short node nolink found ih =>
    have there : ¬ tree.node? (base ++ [name]) = none := by
      rw [found]
      exact Option.some_ne_none node
    rw [follow, if_neg directory, if_neg named, if_neg below, if_neg short, if_neg there, ih]

/-- **A path is followed part by part.** -/
theorem follow_append (tree : FileTree) (base : Location) (first second : List FileName) :
    tree.follow base (first ++ second)
      = (tree.follow base first).bind fun place => tree.follow place second := by
  induction first generalizing base with
  | nil => rfl
  | cons name rest ih =>
    simp only [List.cons_append, follow, ih]
    -- each guard decides alike, whether the rest of the path is there or not
    repeat' split
    all_goals rfl

/-- Where a path leads in a tree without links. -/
theorem resolve_of_unlinked (unlinked : tree.Unlinked) (path : Path) :
    tree.resolve path =
      if path.bytes = [] then .error .noEntry
      else if path.bytes.length > maxPathLength then .error .nameTooLong
      else tree.follow (startOf tree.start path) path.components := by
  rw [resolve, walk_eq_follow unlinked]

end FileTree

/-! ## The listing of a directory -/

namespace Xcursor

variable {tree : FileTree}

/-- A regular file is listed under the text of its name, if this is one. -/
theorem mem_files_listFile_iff {directory : Path} {name : FileName} {file : CursorFile} :
    file ∈ (listFile directory name).files ↔
      Text.toBytes file.name = name ∧ file.path = directory.join ⟨name⟩ := by
  obtain ⟨text, path⟩ := file
  rw [listFile]
  cases read : Text.ofBytes? name with
  | none =>
    simp only [List.not_mem_nil, false_iff, not_and]
    rintro rfl
    rw [Text.ofBytes?_toBytes] at read
    cases read
  | some found =>
    have spelt := Text.toBytes_of_ofBytes? read
    simp only [List.mem_singleton, CursorFile.mk.injEq]
    constructor
    · rintro ⟨rfl, rfl⟩
      exact ⟨spelt, rfl⟩
    · rintro ⟨rfl, rfl⟩
      rw [Text.ofBytes?_toBytes] at read
      cases read
      exact ⟨rfl, rfl⟩

/-- An entry of a directory is listed if it is a regular file, or a link to one. -/
theorem mem_files_listEntry_iff {directory : Path} {place : Location} {name : FileName}
    {node : FileNode} (standing : tree.node? place = some .directory) {file : CursorFile} :
    file ∈ (listEntry tree directory place (name, node)).files ↔
      (Text.toBytes file.name = name ∧ file.path = directory.join ⟨name⟩) ∧
        ((∃ content, node = .file content) ∨
          ∃ target leads content, node = .link target ∧
            tree.resolve (directory.join ⟨name⟩) = .ok leads ∧
            tree.node? leads = some (.file content)) := by
  cases node with
  | file content => simp [listEntry, mem_files_listFile_iff]
  | directory => simp [listEntry]
  | link target =>
    rw [listEntry]
    cases leads : tree.resolve (directory.join ⟨name⟩) with
    | error error => simp
    | ok found =>
      by_cases loop : found = place
      · -- a link back to the directory does not lead to a file
        simp [loop, standing]
      · cases node : tree.node? found with
        | none => simp [loop, node]
        | some final => cases final <;> simp [loop, node, mem_files_listFile_iff]

/-- There is at most one file for an entry. -/
theorem pairwise_files_listEntry (apart : CursorFile → CursorFile → Prop) (tree : FileTree)
    (directory : Path) (place : Location) (entry : FileName × FileNode) :
    (listEntry tree directory place entry).files.Pairwise apart := by
  have single : ∀ name, (listFile directory name).files.Pairwise apart := by
    intro name
    rw [listFile]
    split
    · exact List.pairwise_singleton _ _
    · exact List.Pairwise.nil
  obtain ⟨name, node⟩ := entry
  cases node with
  | file content => exact single name
  | directory => exact List.Pairwise.nil
  | link target =>
    simp only [listEntry]
    split
    · exact List.Pairwise.nil
    · split
      · exact List.Pairwise.nil
      · split
        · exact single name
        · exact List.Pairwise.nil

/-- The files of a directory are those of its entries. -/
theorem files_listDirectory {directory : Path} {place : Location}
    (leads : tree.resolve directory = .ok place) (standing : tree.node? place = some .directory) :
    (listDirectory tree directory).files
      = (tree.children place).flatMap fun entry => (listEntry tree directory place entry).files := by
  simp only [listDirectory, leads, if_pos standing, Listing.concat, List.flatMap_map]

/-- A path that leads to no directory has no files. -/
theorem files_listDirectory_of_not {directory : Path}
    (none : ∀ place, tree.resolve directory = .ok place → tree.node? place ≠ some .directory) :
    (listDirectory tree directory).files = [] := by
  rw [listDirectory]
  cases leads : tree.resolve directory with
  | error error => rfl
  | ok place => simp only [if_neg (none place leads)]

/-- **The files listed for a directory** are the regular files that it holds. -/
theorem mem_files_listDirectory_iff {directory : Path} {file : CursorFile} :
    file ∈ (listDirectory tree directory).files ↔
      tree.HoldsFile directory (Text.toBytes file.name) ∧
        file.path = directory.join (.ofString file.name) := by
  by_cases stands : ∃ place, tree.resolve directory = .ok place ∧
      tree.node? place = some .directory
  · obtain ⟨place, leads, standing⟩ := stands
    rw [files_listDirectory leads standing, List.mem_flatMap]
    constructor
    · rintro ⟨⟨name, node⟩, child, listed⟩
      obtain ⟨⟨rfl, path⟩, regular⟩ := (mem_files_listEntry_iff standing).mp listed
      rw [FileTree.mem_children_iff] at child
      refine ⟨⟨place, leads, standing, ?_⟩, path⟩
      rcases regular with ⟨content, rfl⟩ | ⟨target, found, content, rfl, through, final⟩
      · exact Or.inl ⟨content, child⟩
      · exact Or.inr ⟨target, found, content, child, through, final⟩
    · rintro ⟨⟨other, leadsToo, -, regular⟩, path⟩
      obtain rfl : place = other := Except.ok.inj (leads.symm.trans leadsToo)
      rcases regular with ⟨content, child⟩ | ⟨target, found, content, child, through, final⟩
      · exact ⟨_, FileTree.mem_children_iff.mpr child,
          (mem_files_listEntry_iff standing).mpr ⟨⟨rfl, path⟩, Or.inl ⟨content, rfl⟩⟩⟩
      · exact ⟨_, FileTree.mem_children_iff.mpr child, (mem_files_listEntry_iff standing).mpr
          ⟨⟨rfl, path⟩, Or.inr ⟨target, found, content, rfl, through, final⟩⟩⟩
  · rw [files_listDirectory_of_not fun place leads standing => stands ⟨place, leads, standing⟩]
    constructor
    · intro listed
      cases listed
    · rintro ⟨⟨place, leads, standing, -⟩, -⟩
      exact absurd ⟨place, leads, standing⟩ stands

/-- **The files of a directory are listed by their names.** -/
theorem pairwise_files_listDirectory (tree : FileTree) (directory : Path) :
    (listDirectory tree directory).files.Pairwise fun a b =>
      Text.toBytes a.name < Text.toBytes b.name := by
  by_cases stands : ∃ place, tree.resolve directory = .ok place ∧
      tree.node? place = some .directory
  · obtain ⟨place, leads, standing⟩ := stands
    have named : ∀ {entry file}, file ∈ (listEntry tree directory place entry).files →
        Text.toBytes file.name = entry.1 :=
      fun listed => ((mem_files_listEntry_iff standing).mp listed).1.1
    rw [files_listDirectory leads standing, List.pairwise_flatMap]
    refine ⟨fun entry _ => pairwise_files_listEntry _ tree directory place entry, ?_⟩
    refine (tree.pairwise_children place).imp ?_
    intro first second ordered a isFirst b isSecond
    rw [named isFirst, named isSecond]
    exact ordered
  · rw [files_listDirectory_of_not fun place leads standing => stands ⟨place, leads, standing⟩]
    exact List.Pairwise.nil

/-! ## Files that yield a sprite -/

/-- **A file that yields a sprite**: it is held by the directory, and it can be read, is a cursor file
and has an image. -/
structure IsUsable (tree : FileTree) (directory : Path) (size : UInt32) (sprite : Sprite) : Prop where
  /-- The directory holds the file. -/
  held : tree.HoldsFile directory (Text.toBytes sprite.name)
  /-- The sprite is in the bytes of the file. -/
  content : ∃ content, tree.read (directory.join (.ofString sprite.name)) = .ok content ∧
    spriteOf sprite.name size content = .ok sprite

/-- The sprites of a directory, in the order of its listing. -/
def spritesIn (tree : FileTree) (directory : Path) (size : UInt32) : List Sprite :=
  (listDirectory tree directory).files.filterMap fun file => (loadFile tree size file).toOption

/-- The sprite in the bytes of a file has the frames nearest in size, if there are pictures. -/
theorem spriteOf_eq_ok_iff {name : String} {size : UInt32} {content : List UInt8} {sprite : Sprite} :
    spriteOf name size content = .ok sprite ↔
      ∃ pictures, decode? content = some pictures ∧ pictures ≠ [] ∧
        sprite = ⟨name, nearest size pictures⟩ := by
  rw [spriteOf]
  cases decode? content with
  | none => simp
  | some pictures =>
    simp only [Option.some.injEq, exists_eq_left']
    split
    · rename_i empty
      simp [nearest_eq_nil_iff.mp empty]
    · rename_i frames
      have pictured : pictures ≠ [] := fun none => frames (nearest_eq_nil_iff.mpr none)
      rw [Except.ok.injEq, and_iff_right pictured]
      exact eq_comm

/-- What is in the bytes of a file has the name that it is given, and a frame. -/
theorem spriteOf_eq_ok {name : String} {size : UInt32} {content : List UInt8} {sprite : Sprite}
    (found : spriteOf name size content = .ok sprite) :
    sprite.name = name ∧ sprite.frames ≠ [] := by
  obtain ⟨pictures, -, pictured, rfl⟩ := spriteOf_eq_ok_iff.mp found
  exact ⟨rfl, fun none => pictured (nearest_eq_nil_iff.mp none)⟩

/-- A listed file yields a sprite if it can be read and the sprite is in its bytes. -/
theorem loadFile_eq_ok_iff {size : UInt32} {file : CursorFile} {sprite : Sprite} :
    loadFile tree size file = .ok sprite ↔
      ∃ content, tree.read file.path = .ok content ∧
        spriteOf file.name size content = .ok sprite := by
  rw [loadFile]
  cases tree.read file.path with
  | error error => simp
  | ok content => simp

/-- What a listed file yields, if it yields a sprite. -/
theorem toOption_loadFile_eq_some_iff {size : UInt32} {file : CursorFile} {sprite : Sprite} :
    (loadFile tree size file).toOption = some sprite ↔ loadFile tree size file = .ok sprite := by
  cases loadFile tree size file with
  | error failure => simp [Except.toOption]
  | ok found => simp [Except.toOption]

/-- The sprite in a listed file is named after the file. -/
theorem name_of_loadFile {size : UInt32} {file : CursorFile} {sprite : Sprite}
    (loaded : loadFile tree size file = .ok sprite) : sprite.name = file.name := by
  obtain ⟨content, -, found⟩ := loadFile_eq_ok_iff.mp loaded
  exact (spriteOf_eq_ok found).1

/-- A sprite of a directory is the one in a listed file. -/
theorem mem_spritesIn {directory : Path} {size : UInt32} {sprite : Sprite} :
    sprite ∈ spritesIn tree directory size ↔
      ∃ file ∈ (listDirectory tree directory).files, loadFile tree size file = .ok sprite := by
  rw [spritesIn, List.mem_filterMap]
  simp only [toOption_loadFile_eq_some_iff]

/-- **The sprites of a directory** are those of its usable files. -/
theorem mem_spritesIn_iff {directory : Path} {size : UInt32} {sprite : Sprite} :
    sprite ∈ spritesIn tree directory size ↔ IsUsable tree directory size sprite := by
  rw [mem_spritesIn]
  constructor
  · rintro ⟨file, listed, loaded⟩
    obtain ⟨held, path⟩ := mem_files_listDirectory_iff.mp listed
    have named := name_of_loadFile loaded
    rw [← named] at held path
    rw [loadFile_eq_ok_iff, ← named, path] at loaded
    exact ⟨held, loaded⟩
  · rintro ⟨held, content⟩
    exact ⟨⟨sprite.name, directory.join (.ofString sprite.name)⟩,
      mem_files_listDirectory_iff.mpr ⟨held, rfl⟩, loadFile_eq_ok_iff.mpr content⟩

/-- **The sprites of a directory come by their names.** -/
theorem pairwise_spritesIn (tree : FileTree) (directory : Path) (size : UInt32) :
    (spritesIn tree directory size).Pairwise fun a b =>
      Text.toBytes a.name < Text.toBytes b.name := by
  refine (pairwise_files_listDirectory tree directory).filterMap _ ?_
  intro first second ordered a isFirst b isSecond
  rw [name_of_loadFile (toOption_loadFile_eq_some_iff.mp isFirst),
    name_of_loadFile (toOption_loadFile_eq_some_iff.mp isSecond)]
  exact ordered

/-- A path that is continued by an empty name ends in a separator, unless it is empty itself. -/
theorem getLast?_join_empty (path : Path) :
    (path.join (.ofString "")).bytes = [] ∨
      (path.join (.ofString "")).bytes.getLast? = some Path.separator := by
  obtain ⟨bytes⟩ := path
  have relative : (Path.ofString "").isAbsolute = false := by decide
  rw [Path.join, if_neg (by simp [relative])]
  by_cases ends : (bytes.isEmpty || bytes.getLast? == some Path.separator) = true
  · rw [if_pos ends]
    simpa [Path.ofString, Text.toBytes] using ends
  · rw [if_neg ends]
    exact Or.inr (by simp [Path.ofString, Text.toBytes])

/-- **What can be read in a directory has a name.** The path of a file without a name would end in a
separator. -/
theorem name_ne_of_read {directory : Path} {name : String} {content : List UInt8}
    (readable : tree.read (directory.join (.ofString name)) = .ok content) : name ≠ "" := by
  rintro rfl
  obtain ⟨place, leads, file⟩ := FileTree.read_eq_ok_iff.mp readable
  rcases getLast?_join_empty directory with empty | ends
  · rw [FileTree.resolve, if_pos empty] at leads
    cases leads
  · rw [FileTree.node?_of_resolve leads ends] at file
    cases file

/-- A sprite from a usable file has a name. -/
theorem IsUsable.name_ne {directory : Path} {size : UInt32} {sprite : Sprite}
    (usable : IsUsable tree directory size sprite) : sprite.name ≠ "" := by
  obtain ⟨content, readable, -⟩ := usable.content
  exact name_ne_of_read readable

/-- A sprite from a usable file has a frame. -/
theorem IsUsable.frames_ne {directory : Path} {size : UInt32} {sprite : Sprite}
    (usable : IsUsable tree directory size sprite) : sprite.frames ≠ [] := by
  obtain ⟨content, -, found⟩ := usable.content
  exact (spriteOf_eq_ok found).2

end Xcursor

end CursorThemes
