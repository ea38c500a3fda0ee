import CursorThemes.Proofs.CursorFiles
import CursorThemes.Proofs.PathNames
import Mathlib.Data.List.Sort

/-! # Staying below the search paths

What a loader finds is decided by what lies at its search paths and below them, as long as the name of the
theme does not lead up.

* **`FileTree.lead`** is where a path leads when it is continued. Without links,
  **`FileTree.lead_join`** follows the path and then the name that continues it.
* **`FileTree.AgreeBelow`** relates two trees that are the same at a path and below it, and
  **`FileTree.AgreeBelow.join`** goes down from there, by any name but `..`.
* **`Xcursor.loader_stays_below`** is the result for all names of themes but this one, which
  **`Xcursor.loader_leaves_search_path`** is about. -/

namespace CursorThemes

namespace FileTree

variable {tree : FileTree}

/-- The directory itself is asked for by an empty component, and then by the next one. -/
theorem walk_nil_cons (links : Nat) (base : Location) (name : FileName) (rest : List FileName) :
    tree.walk links base ([] :: name :: rest) = tree.walk links base (name :: rest) := by
  rw [walk]
  by_cases directory : tree.node? base = some .directory
  · rw [if_neg (not_not.mpr directory), if_pos (Or.inl rfl)]
  · rw [if_pos directory, walk, if_pos directory]

/-- **Without links a path is followed part by part.** -/
theorem walk_append (unlinked : tree.Unlinked) (links : Nat) (base : Location)
    (first second : List FileName) :
    tree.walk links base (first ++ second)
      = (tree.walk links base first).bind fun place => tree.walk links place second := by
  simp only [walk_eq_follow unlinked, follow_append]

/-- **Where a path leads** when it is continued by a name. The empty path stands for the place from
which relative paths start. -/
def lead (tree : FileTree) (path : Path) : Except SystemError Location :=
  tree.walk maxLinks (startOf tree.start path) path.components

/-- **A path is resolved to where it leads**, or it is refused as it stands. -/
theorem resolve_cases (path : Path) :
    (∀ tree : FileTree, tree.resolve path = tree.lead path) ∨
      ∃ error, ∀ tree : FileTree, tree.resolve path = .error error := by
  by_cases unnamed : path.bytes = []
  · exact Or.inr ⟨.noEntry, fun tree => if_pos unnamed⟩
  · by_cases long : path.bytes.length > maxPathLength
    · refine Or.inr ⟨.nameTooLong, fun tree => ?_⟩
      rw [resolve, if_neg unnamed, if_pos long]
    · refine Or.inl fun tree => ?_
      rw [resolve, if_neg unnamed, if_neg long, lead]

end FileTree

/-! ## A path continued by a name -/

namespace FileTree

variable {tree : FileTree}

/-- **A path that is continued by a name** leads on from where it leads. -/
theorem lead_join (unlinked : tree.Unlinked) (base : Path) {name : FileName}
    (plain : Path.separator ∉ name) :
    tree.lead (base.join ⟨name⟩)
      = (tree.lead base).bind fun place => tree.walk maxLinks place [name] := by
  have relative := Path.not_isAbsolute_of_not_mem plain
  have start : startOf tree.start (base.join ⟨name⟩) = startOf tree.start base := by
    rw [startOf, startOf, base.isAbsolute_join relative]
  have components := base.components_join relative
  rw [Path.components_of_not_mem plain] at components
  rw [lead, lead, start, ← walk_append unlinked]
  rcases components with same | ⟨front, split, joined⟩
  · rw [same]
  · rw [split, joined, List.append_assoc, List.singleton_append, walk_append unlinked,
      walk_append unlinked]
    exact congrArg _ (funext fun place => (walk_nil_cons maxLinks place name []).symm)

/-- Following one name, where there are no links. -/
theorem walk_singleton (unlinked : tree.Unlinked) (links : Nat) (place : Location) (name : FileName) :
    tree.walk links place [name]
      = if tree.node? place ≠ some .directory then .error .notDirectory
        else if name = [] ∨ name = hereName then .ok place
        else if name = aboveName then .ok place.dropLast
        else if name.length > maxNameLength then .error .nameTooLong
        else if tree.node? (place ++ [name]) = none then .error .noEntry
        else .ok (place ++ [name]) := by
  rw [walk_eq_follow unlinked]
  rfl

end FileTree

/-! ## Trees that agree below a path -/

namespace FileTree

/-- A name that something in a directory can have. -/
def IsName (name : FileName) : Prop :=
  name ≠ [] ∧ name ≠ hereName ∧ name ≠ aboveName ∧ Path.separator ∉ name

instance (name : FileName) : Decidable (IsName name) := inferInstanceAs (Decidable (_ ∧ _))

/-- **A plain tree**: it has no links, and everything has a name that a directory can hold. -/
structure Plain (tree : FileTree) : Prop where
  /-- There are no links. -/
  unlinked : tree.Unlinked
  /-- Names are proper. -/
  named : ∀ {location name node}, tree.node? (location ++ [name]) = some node → IsName name

/-- A tree is plain if there is no link among its nodes, and their names are proper. -/
theorem plain_of_nodes {tree : FileTree}
    (nodes : ∀ entry ∈ tree.nodes, entry.2.target? = none ∧ ∀ name ∈ entry.1, IsName name) :
    tree.Plain := by
  refine ⟨unlinked_of_nodes fun entry member => (nodes entry member).1, ?_⟩
  intro location name node found
  have entry := (node?_eq_some_iff (by simp)).mp found
  exact (nodes _ entry).2 name (List.mem_append_right _ (List.mem_singleton_self name))

/-- Nodes that are added elsewhere do not change what is at a location. -/
theorem node?_of_append {tree larger : FileTree} {more : List (Location × FileNode)}
    (added : larger.nodes = tree.nodes ++ more) {location : Location}
    (elsewhere : ∀ entry ∈ more, entry.1 ≠ location) : larger.node? location = tree.node? location := by
  have none : more.lookup location = none := by
    refine List.lookup_eq_none_iff.mpr fun entry member => ?_
    exact bne_iff_ne.mpr (elsewhere entry member).symm
  rw [node?, node?, added, List.lookup_append, none, Option.or_none]

/-- **Two trees agree below a path**: it leads to the same place in both, or nowhere, and at that place
and below it they are the same. -/
structure AgreeBelow (path : Path) (first second : FileTree) : Prop where
  /-- The path leads to the same place. -/
  leads : (first.lead path).toOption = (second.lead path).toOption
  /-- At that place and below it is the same. -/
  nodes : ∀ {place}, first.lead path = .ok place →
    ∀ further, second.node? (place ++ further) = first.node? (place ++ further)

variable {first second : FileTree} {path : Path} {place : Location} {name : FileName}

/-- A path that leads somewhere leads there in both trees. -/
theorem AgreeBelow.lead_eq (agree : AgreeBelow path first second)
    (leads : first.lead path = .ok place) : second.lead path = .ok place := by
  have same := agree.leads
  rw [leads] at same
  cases found : second.lead path with
  | ok other =>
    rw [found] at same
    exact congrArg Except.ok (Option.some.inj same).symm
  | error error =>
    rw [found] at same
    cases same

/-- A path that leads nowhere leads nowhere in both trees. -/
theorem AgreeBelow.exists_error (agree : AgreeBelow path first second) {error : SystemError}
    (stops : first.lead path = .error error) : ∃ other, second.lead path = .error other := by
  have same := agree.leads
  rw [stops] at same
  cases found : second.lead path with
  | ok other =>
    rw [found] at same
    cases same
  | error other => exact ⟨other, rfl⟩

/-- **A name that does not lead up leads to the same place**, which is not above. -/
theorem walk_singleton_eq (unlinked : first.Unlinked) (otherUnlinked : second.Unlinked)
    (same : ∀ further, second.node? (place ++ further) = first.node? (place ++ further))
    (inner : name ≠ aboveName) :
    second.walk maxLinks place [name] = first.walk maxLinks place [name] ∧
      ∀ {result}, first.walk maxLinks place [name] = .ok result →
        ∃ further, result = place ++ further := by
  have here := same []
  rw [List.append_nil] at here
  rw [walk_singleton unlinked, walk_singleton otherUnlinked, here, same [name], if_neg inner]
  refine ⟨rfl, ?_⟩
  intro result leads
  split at leads
  · cases leads
  · split at leads
    · cases leads
      exact ⟨[], (List.append_nil _).symm⟩
    · split at leads
      · cases leads
      · split at leads
        · cases leads
        · cases leads
          exact ⟨[name], rfl⟩

/-- A path that is continued by a name leads to the same place, with the same error if there is none,
where the path itself leads to a place. -/
theorem AgreeBelow.lead_join_eq (agree : AgreeBelow path first second) (unlinked : first.Unlinked)
    (otherUnlinked : second.Unlinked) (leads : first.lead path = .ok place)
    (plain : Path.separator ∉ name) (inner : name ≠ aboveName) :
    second.lead (path.join ⟨name⟩) = first.lead (path.join ⟨name⟩) := by
  rw [lead_join unlinked path plain, lead_join otherUnlinked path plain, leads, agree.lead_eq leads]
  exact (walk_singleton_eq unlinked otherUnlinked (agree.nodes leads) inner).1

/-- **Trees that agree below a path** agree below what is reached by a name that does not
lead up. -/
theorem AgreeBelow.join (agree : AgreeBelow path first second) (unlinked : first.Unlinked)
    (otherUnlinked : second.Unlinked) (plain : Path.separator ∉ name) (inner : name ≠ aboveName) :
    AgreeBelow (path.join ⟨name⟩) first second := by
  cases leads : first.lead path with
  | error error =>
    obtain ⟨other, stops⟩ := agree.exists_error leads
    have nowhere : first.lead (path.join ⟨name⟩) = .error error := by
      rw [lead_join unlinked path plain, leads]
      rfl
    have otherNowhere : second.lead (path.join ⟨name⟩) = .error other := by
      rw [lead_join otherUnlinked path plain, stops]
      rfl
    refine ⟨?_, ?_⟩
    · rw [nowhere, otherNowhere]
      rfl
    · intro place reached
      rw [nowhere] at reached
      cases reached
  | ok place =>
    refine ⟨?_, ?_⟩
    · rw [agree.lead_join_eq unlinked otherUnlinked leads plain inner]
    · intro result reached further
      rw [lead_join unlinked path plain, leads] at reached
      obtain ⟨between, rfl⟩ :=
        (walk_singleton_eq unlinked otherUnlinked (agree.nodes leads) inner).2 reached
      rw [List.append_assoc]
      exact agree.nodes leads (between ++ further)

/-- Directories with the same nodes have the same children, in the same order. -/
theorem children_eq
    (same : ∀ name, second.node? (place ++ [name]) = first.node? (place ++ [name])) :
    second.children place = first.children place := by
  have antisymm : Std.Antisymm fun a b : FileName × FileNode => a.1 < b.1 :=
    ⟨fun a b before after => absurd after (List.lt_asymm before)⟩
  have irrefl : Std.Irrefl fun a b : FileName × FileNode => a.1 < b.1 :=
    ⟨fun a => List.lt_irrefl a.1⟩
  refine (second.pairwise_children place).eq_of_mem_iff (first.pairwise_children place) ?_
  rintro ⟨name, node⟩
  rw [mem_children_iff, mem_children_iff, same]

/-- The same is read where a path leads to the same place, or to the same error. -/
theorem AgreeBelow.read_eq (agree : AgreeBelow path first second)
    (same : second.lead path = first.lead path) : second.read path = first.read path := by
  rcases resolve_cases path with followed | ⟨error, refused⟩
  · rw [read, read, followed, followed, same]
    cases leads : first.lead path with
    | error error => rfl
    | ok place =>
      have here := agree.nodes leads []
      rw [List.append_nil] at here
      simp only [here]
  · rw [read, read, refused, refused]

end FileTree

/-! ## The loader -/

namespace Xcursor

variable {first second : FileTree} {directory : Path}

/-- **The listing of a directory** is the same in trees that agree below it. -/
theorem listDirectory_eq (agree : FileTree.AgreeBelow directory first second)
    (unlinked : first.Unlinked) :
    listDirectory second directory = listDirectory first directory := by
  rcases FileTree.resolve_cases directory with followed | ⟨error, refused⟩
  · rw [listDirectory, listDirectory, followed, followed]
    cases leads : first.lead directory with
    | error error =>
      obtain ⟨other, stops⟩ := agree.exists_error leads
      rw [stops]
    | ok place =>
      have here := agree.nodes leads []
      rw [List.append_nil] at here
      rw [agree.lead_eq leads]
      simp only [here, FileTree.children_eq fun name => agree.nodes leads [name]]
      congr 2
      -- without links no entry is followed further
      refine List.map_congr_left fun entry member => ?_
      obtain ⟨name, node⟩ := entry
      cases node with
      | file content => rfl
      | directory => rfl
      | link target => exact absurd (FileTree.mem_children_iff.mp member) (unlinked _ _)
  · rw [listDirectory, listDirectory, refused, refused]

/-- **A listed file** is the same in trees that agree below its directory. -/
theorem loadFile_eq (agree : FileTree.AgreeBelow directory first second) (plain : first.Plain)
    (otherPlain : second.Plain) (size : UInt32) {file : CursorFile}
    (listed : file ∈ (listDirectory first directory).files) :
    loadFile second size file = loadFile first size file := by
  obtain ⟨⟨place, resolved, -, regular⟩, path⟩ := mem_files_listDirectory_iff.mp listed
  have leads : first.lead directory = .ok place := by
    rcases FileTree.resolve_cases directory with followed | ⟨error, refused⟩
    · rw [← followed]
      exact resolved
    · rw [refused] at resolved
      cases resolved
  have name : FileTree.IsName (Text.toBytes file.name) := by
    rcases regular with ⟨content, child⟩ | ⟨target, -, -, child, -, -⟩
    · exact plain.named child
    · exact absurd child (plain.unlinked _ _)
  obtain ⟨-, -, inner, unseparated⟩ := name
  have same := (agree.join plain.unlinked otherPlain.unlinked unseparated inner).read_eq
    (agree.lead_join_eq plain.unlinked otherPlain.unlinked leads unseparated inner)
  rw [loadFile, loadFile, path, Path.ofString, same]

/-- Listed files that are the same are delivered the same. -/
theorem deliveries_eq {size : UInt32} {files : List CursorFile} (pending : List Notice)
    (same : ∀ file ∈ files, loadFile second size file = loadFile first size file) :
    deliveries second size pending files = deliveries first size pending files := by
  induction files generalizing pending with
  | nil => rfl
  | cons file later ih =>
    have rest := fun pending => ih pending fun other member => same other (List.mem_cons_of_mem _ member)
    rw [deliveries, deliveries, same file List.mem_cons_self]
    cases loadFile first size file with
    | ok sprite => simp only [rest]
    | error failure => exact rest _

/-- The directory of a theme is below its search path, unless the name of the theme leads up. -/
theorem agreeBelow_cursorDirectory {searchPath : Path}
    (agree : FileTree.AgreeBelow searchPath first second) (plain : first.Plain)
    (otherPlain : second.Plain) {theme : String} (named : isThemeName theme = true)
    (inside : theme ≠ "..") :
    FileTree.AgreeBelow (cursorDirectory searchPath theme) first second := by
  have unseparated : '/' ∉ theme.toList := (isThemeName_eq_true_iff.mp named).2
  have inner : Text.toBytes theme ≠ FileTree.aboveName :=
    fun up => inside (Text.toBytes_injective (up.trans (by decide)))
  exact (agree.join plain.unlinked otherPlain.unlinked
    (Text.separator_not_mem_toBytes unseparated) inner).join plain.unlinked otherPlain.unlinked
      (by decide) (by decide)

/-- **The loader stays below its search paths**, for every name of a theme but one. Two plain trees that
agree below every search path give it the same sprites, and let it log the same. The name `..` alone
leads up, and passes for that of a theme. -/
theorem loader_stays_below (plain : first.Plain) (otherPlain : second.Plain)
    {searchPaths : List Path}
    (agree : ∀ searchPath ∈ searchPaths, FileTree.AgreeBelow searchPath first second)
    {theme : String} (inside : theme ≠ "..") (size : UInt32) :
    loader second searchPaths theme size = loader first searchPaths theme size := by
  by_cases named : isThemeName theme = true
  · have below : ∀ searchPath ∈ searchPaths,
        FileTree.AgreeBelow (cursorDirectory searchPath theme) first second :=
      fun searchPath member =>
        agreeBelow_cursorDirectory (agree searchPath member) plain otherPlain named inside
    have listings : (searchPaths.map fun searchPath =>
          listDirectory second (cursorDirectory searchPath theme))
        = searchPaths.map fun searchPath =>
          listDirectory first (cursorDirectory searchPath theme) :=
      List.map_congr_left fun searchPath member =>
        listDirectory_eq (below searchPath member) plain.unlinked
    have listed : list second searchPaths theme = list first searchPaths theme := by
      rw [list, list, if_pos named, if_pos named, listings]
    have loaded : ∀ file ∈ (list first searchPaths theme).files,
        loadFile second size file = loadFile first size file := by
      intro file member
      rw [list, if_pos named] at member
      obtain ⟨listing, found, inListing⟩ := List.mem_flatMap.mp member
      obtain ⟨searchPath, there, rfl⟩ := List.mem_map.mp found
      exact loadFile_eq (below searchPath there) plain otherPlain size inListing
    simp only [loader, listed, deliveries_eq [] loaded]
  · have unlisted : ∀ tree : FileTree, list tree searchPaths theme = {} :=
      fun tree => if_neg named
    simp only [loader, unlisted, deliveries]

/-! ### A file beside a search path -/

/-- A tree with the search path `icons` and a theme below it. -/
def themeOnly : FileTree where
  nodes :=
    [(["icons"].map Text.toBytes, .directory), (["icons", "t"].map Text.toBytes, .directory),
      (["icons", "t", "cursors"].map Text.toBytes, .directory),
      (["icons", "t", "cursors", "a"].map Text.toBytes, .file (encode [⟨1, .dot 1⟩]))]
  nodup := by decide

/-- The same tree with a further file, beside the search path. -/
def themeAndStranger : FileTree where
  nodes := themeOnly.nodes ++
    [(["cursors"].map Text.toBytes, .directory),
      (["cursors", "b"].map Text.toBytes, .file (encode [⟨1, .dot 2⟩]))]
  nodup := by decide

/-- Both trees are plain. -/
theorem plain_themeOnly_themeAndStranger : themeOnly.Plain ∧ themeAndStranger.Plain :=
  ⟨FileTree.plain_of_nodes (by decide), FileTree.plain_of_nodes (by decide)⟩

/-- The trees agree below the search path. -/
theorem agreeBelow_searchPaths : ∀ searchPath ∈ [Path.ofString "icons"],
    FileTree.AgreeBelow searchPath themeOnly themeAndStranger := by
  intro searchPath member
  rw [List.mem_singleton.mp member]
  obtain ⟨plain, otherPlain⟩ := plain_themeOnly_themeAndStranger
  have leads : themeOnly.lead (.ofString "icons") = .ok [Text.toBytes "icons"] := by
    rw [FileTree.lead, FileTree.walk_eq_follow plain.unlinked]
    decide
  have otherLeads : themeAndStranger.lead (.ofString "icons") = .ok [Text.toBytes "icons"] := by
    rw [FileTree.lead, FileTree.walk_eq_follow otherPlain.unlinked]
    decide
  refine ⟨by rw [leads, otherLeads], ?_⟩
  intro place reached further
  obtain rfl := Except.ok.inj (leads.symm.trans reached)
  refine FileTree.node?_of_append rfl ?_
  -- what was added starts with another name
  have elsewhere : Text.toBytes "cursors" ≠ Text.toBytes "icons" := by decide
  simp [elsewhere]

/-- The theme below the search path is found in both trees. -/
theorem loader_stays_below_beside_stranger :
    themeOnly.Plain ∧ themeAndStranger.Plain ∧
      (∀ searchPath ∈ [Path.ofString "icons"],
        FileTree.AgreeBelow searchPath themeOnly themeAndStranger) ∧ "t" ≠ ".." ∧
      (loader themeOnly [.ofString "icons"] "t" 1).deliveries = [⟨[], ⟨"a", [.dot 1]⟩⟩] ∧
      loader themeAndStranger [.ofString "icons"] "t" 1 = loader themeOnly [.ofString "icons"] "t" 1 := by
  obtain ⟨plain, otherPlain⟩ := plain_themeOnly_themeAndStranger
  have listed : (list themeOnly [.ofString "icons"] "t").files
      = [⟨"a", .ofString "icons/t/cursors/a"⟩] := by
    simp only [list, listDirectory, FileTree.resolve_of_unlinked plain.unlinked]
    decide +kernel
  have read : loadFile themeOnly 1 ⟨"a", .ofString "icons/t/cursors/a"⟩ = .ok ⟨"a", [.dot 1]⟩ := by
    rw [loadFile, FileTree.read, FileTree.resolve_of_unlinked plain.unlinked]
    decide
  refine ⟨plain, otherPlain, agreeBelow_searchPaths, by decide, ?_,
    loader_stays_below plain otherPlain agreeBelow_searchPaths (by decide) 1⟩
  simp only [loader, listed, deliveries, read]

/-- **The name `..` leads out of a search path.** The trees are the same at the search path and below it,
but in one of them a cursor is delivered, from the file beside it. -/
theorem loader_leaves_search_path :
    themeOnly.Plain ∧ themeAndStranger.Plain ∧
      (∀ searchPath ∈ [Path.ofString "icons"],
        FileTree.AgreeBelow searchPath themeOnly themeAndStranger) ∧
      (loader themeOnly [.ofString "icons"] ".." 1).deliveries = [] ∧
      (loader themeAndStranger [.ofString "icons"] ".." 1).deliveries = [⟨[], ⟨"b", [.dot 2]⟩⟩] ∧
      loader themeAndStranger [.ofString "icons"] ".." 1
        ≠ loader themeOnly [.ofString "icons"] ".." 1 := by
  obtain ⟨plain, otherPlain⟩ := plain_themeOnly_themeAndStranger
  have inside : (loader themeOnly [.ofString "icons"] ".." 1).deliveries = [] := by
    have listed : (list themeOnly [.ofString "icons"] "..").files = [] := by
      simp only [list, listDirectory, FileTree.resolve_of_unlinked plain.unlinked]
      decide
    simp only [loader, listed, deliveries]
  have outside : (loader themeAndStranger [.ofString "icons"] ".." 1).deliveries
      = [⟨[], ⟨"b", [.dot 2]⟩⟩] := by
    have listed : (list themeAndStranger [.ofString "icons"] "..").files
        = [⟨"b", .ofString "icons/../cursors/b"⟩] := by
      simp only [list, listDirectory, FileTree.resolve_of_unlinked otherPlain.unlinked]
      decide +kernel
    have read : loadFile themeAndStranger 1 ⟨"b", .ofString "icons/../cursors/b"⟩
        = .ok ⟨"b", [.dot 2]⟩ := by
      rw [loadFile, FileTree.read, FileTree.resolve_of_unlinked otherPlain.unlinked]
      decide
    simp only [loader, listed, deliveries, read]
  refine ⟨plain, otherPlain, agreeBelow_searchPaths, inside, outside, ?_⟩
  intro same
  rw [same, inside] at outside
  cases outside

end Xcursor

end CursorThemes
