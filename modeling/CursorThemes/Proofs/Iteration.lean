import CursorThemes.Proofs.CursorFiles

/-! # Reading on through listed files

The files of a theme are listed once, and read one after the other by later calls. The tree may be
another one at each of these calls.

* **`Xcursor.ListsTheme`** says which files are listed, and in what order.
* **`CursorFile.Yields`** and **`CursorFile.Fails`** say what becomes of a file that is read, and
  **`Xcursor.loadFile_eq_ok_iff_yields`** and **`Xcursor.loadFile_eq_error_iff_fails`** that this is
  what loading it comes to.
* **`Xcursor.readBy`** has the files that one call reads, **`Xcursor.remaining`** those that are left
  after some calls, and **`Xcursor.Reads`** says what a call does with the files that it reads.
* **`Xcursor.iteration_uses_each_file_once`** is the result for any number of calls. -/

namespace CursorThemes.Xcursor

variable {tree : FileTree} {size : UInt32}

/-! ## What is listed -/

/-- **The files of a directory**: its regular files with a text for a name, in the order of the bytes
of their names. -/
structure ListsDirectory (tree : FileTree) (directory : Path) (files : List CursorFile) : Prop where
  /-- A file is listed if the directory holds it under its name. -/
  mem_iff : ∀ file, file ∈ files ↔ tree.HoldsFile directory (Text.toBytes file.name) ∧
    file.path = directory.join (.ofString file.name)
  /-- Names come one after the other, each of them once. -/
  sorted : files.Pairwise fun a b => Text.toBytes a.name < Text.toBytes b.name

/-- **The files of a theme**: those of its directory below each search path. -/
structure ListsTheme (tree : FileTree) (searchPaths : List Path) (theme : String)
    (files : List CursorFile) : Prop where
  /-- Without a name, or with one that leads elsewhere, there are none. -/
  unnamed : theme = "" ∨ '/' ∈ theme.toList → files = []
  /-- Otherwise they come search path by search path. -/
  named : theme ≠ "" → '/' ∉ theme.toList → ∃ filesIn : Path → List CursorFile,
    (∀ directory, ListsDirectory tree directory (filesIn directory)) ∧
      files = searchPaths.flatMap fun searchPath => filesIn (cursorDirectory searchPath theme)

/-- The files of a theme are listed. -/
theorem listsTheme_list (tree : FileTree) (searchPaths : List Path) (theme : String) :
    ListsTheme tree searchPaths theme (list tree searchPaths theme).files where
  unnamed := by
    intro unnamed
    have refused : ¬ isThemeName theme = true := by
      rw [isThemeName_eq_true_iff]
      tauto
    rw [list, if_neg refused]
  named := by
    intro named single
    refine ⟨fun directory => (listDirectory tree directory).files, ?_, ?_⟩
    · intro directory
      exact ⟨fun file => mem_files_listDirectory_iff, pairwise_files_listDirectory tree directory⟩
    · rw [list, if_pos (isThemeName_eq_true_iff.mpr ⟨named, single⟩)]
      exact List.flatMap_map ..

/-! ## One file -/

/-- **A file yields a sprite**: it can be read, is a cursor file and has a picture. The sprite is named
after the file and has the frames nearest in size. -/
def CursorFile.Yields (tree : FileTree) (size : UInt32) (file : CursorFile) (sprite : Sprite) :
    Prop :=
  ∃ content pictures, tree.read file.path = .ok content ∧ decode? content = some pictures ∧
    pictures ≠ [] ∧ sprite = ⟨file.name, nearest size pictures⟩

/-- **A file fails**: it cannot be read, is no cursor file, or has no picture. -/
def CursorFile.Fails (tree : FileTree) (file : CursorFile) : FileFailure → Prop
  | .unreadable error => tree.read file.path = .error error
  | .malformed => ∃ content, tree.read file.path = .ok content ∧ decode? content = none
  | .noImages => ∃ content, tree.read file.path = .ok content ∧ decode? content = some []

/-- **A file is loaded exactly if it yields a sprite.** -/
theorem loadFile_eq_ok_iff_yields {file : CursorFile} {sprite : Sprite} :
    loadFile tree size file = .ok sprite ↔ file.Yields tree size sprite := by
  rw [loadFile_eq_ok_iff]
  simp only [spriteOf_eq_ok_iff, CursorFile.Yields, exists_and_left]

/-- **Loading a file comes to the failure that the file has.** -/
theorem loadFile_eq_error_iff_fails {file : CursorFile} {failure : FileFailure} :
    loadFile tree size file = .error failure ↔ file.Fails tree failure := by
  rw [loadFile]
  cases read : tree.read file.path with
  | error error => cases failure <;> simp [CursorFile.Fails, read]
  | ok content =>
    simp only [spriteOf]
    cases decoded : decode? content with
    | none => cases failure <;> simp [CursorFile.Fails, read, decoded]
    | some pictures =>
      simp only
      split
      · rename_i empty
        cases failure <;> simp [CursorFile.Fails, read, decoded, nearest_eq_nil_iff.mp empty]
      · rename_i frames
        have pictured : pictures ≠ [] := fun none => frames (nearest_eq_nil_iff.mpr none)
        cases failure <;> simp [CursorFile.Fails, read, decoded, pictured]

/-! ## One call -/

/-- **A file is passed over with a warning**, which names the file and the reason. -/
structure CursorFile.IsSkipped (tree : FileTree) (file : CursorFile) (notice : Notice) : Prop where
  /-- The notice is about the file and what is wrong with it. -/
  reported : ∃ failure, notice = .fileSkipped file.path failure ∧ file.Fails tree failure
  /-- The notice is a warning. -/
  warns : notice.level = .warn

/-- **What a call does with the files that it reads.** It passes over all but the last one, which
yields the sprite; or there is no sprite, and it passes over all files that were left. -/
inductive Reads (tree : FileTree) (size : UInt32) : List CursorFile → Step → Prop
  /-- The last file yields a sprite. -/
  | found {skipped : List CursorFile} {notices : List Notice} {file : CursorFile} {sprite : Sprite}
      {rest : List CursorFile} (passed : List.Forall₂ (CursorFile.IsSkipped tree) skipped notices)
      (yields : file.Yields tree size sprite) :
      Reads tree size (skipped ++ [file]) ⟨some sprite, notices, rest⟩
  /-- No file is left. -/
  | ended {skipped : List CursorFile} {notices : List Notice}
      (passed : List.Forall₂ (CursorFile.IsSkipped tree) skipped notices) :
      Reads tree size skipped ⟨none, notices, []⟩

/-- One more file may be passed over before the others. -/
theorem Reads.skip {file : CursorFile} {notice : Notice} {read : List CursorFile} {step : Step}
    (skipped : file.IsSkipped tree notice) (reads : Reads tree size read step) :
    Reads tree size (file :: read) { step with notices := notice :: step.notices } := by
  cases reads with
  | found passed yields => exact .found (.cons skipped passed) yields
  | ended passed => exact .ended (.cons skipped passed)

/-- **The files that a call reads**: it goes on until one can be loaded. -/
def readBy (tree : FileTree) (size : UInt32) : List CursorFile → List CursorFile
  | [] => []
  | file :: later =>
    match loadFile tree size file with
    | .ok _ => [file]
    | .error _ => file :: readBy tree size later

/-- A call leaves the files that it does not read. -/
theorem readBy_append_rest (tree : FileTree) (size : UInt32) (files : List CursorFile) :
    readBy tree size files ++ (next tree size files).rest = files := by
  induction files with
  | nil => rfl
  | cons file later ih =>
    cases loaded : loadFile tree size file with
    | ok sprite => simp [readBy, next, loaded]
    | error failure => simp [readBy, next, loaded, ih]

/-- **A call passes over the files that fail**, up to the first one that yields a sprite. -/
theorem reads_next (tree : FileTree) (size : UInt32) (files : List CursorFile) :
    Reads tree size (readBy tree size files) (next tree size files) := by
  induction files with
  | nil => exact .ended .nil
  | cons file later ih =>
    cases loaded : loadFile tree size file with
    | ok sprite =>
      simp only [readBy, next, loaded]
      exact .found .nil (loadFile_eq_ok_iff_yields.mp loaded)
    | error failure =>
      -- the call goes on, and its notice comes before those of the files behind
      simp only [readBy, next, loaded]
      exact ih.skip ⟨⟨failure, rfl, loadFile_eq_error_iff_fails.mp loaded⟩, rfl⟩

/-- **A call does not depend on what it does not read.** -/
theorem next_congr {other : FileTree} (files : List CursorFile)
    (agree : ∀ file ∈ readBy tree size files, other.read file.path = tree.read file.path) :
    next other size files = next tree size files := by
  induction files with
  | nil => rfl
  | cons file later ih =>
    have same : other.read file.path = tree.read file.path →
        loadFile other size file = loadFile tree size file := fun read => by
      rw [loadFile, loadFile, read]
    cases loaded : loadFile tree size file with
    | ok sprite =>
      -- the call stops here, so that the trees need not agree on any later file
      simp only [readBy, loaded] at agree
      simp only [next, same (agree file (List.mem_singleton_self file)), loaded]
    | error failure =>
      simp only [readBy, loaded] at agree
      have first := agree file List.mem_cons_self
      have others := ih fun file read => agree file (List.mem_cons_of_mem _ read)
      simp only [next, same first, loaded, others]

/-- A call leaves less of the files, if there are any. -/
theorem length_rest_le (tree : FileTree) (size : UInt32) (files : List CursorFile) :
    (next tree size files).rest.length ≤ files.length - 1 := by
  cases files with
  | nil => simp [next]
  | cons file later =>
    -- whether it can be loaded or not, the first file is read
    have parts := congrArg List.length (readBy_append_rest tree size (file :: later))
    have one : readBy tree size (file :: later) ≠ [] := by
      rw [readBy]
      split <;> simp
    rw [← List.length_pos_iff] at one
    rw [List.length_append] at parts
    omega

/-! ## Call after call -/

section Calls

variable (trees : Nat → FileTree) (size : UInt32) (files : List CursorFile)

/-- **The files that are left** after some calls, each of which meets a tree of its own. -/
def remaining : Nat → List CursorFile
  | 0 => files
  | call + 1 => (next (trees call) size (remaining call)).rest

/-- The files that were read, followed by those that are left, are all files. -/
theorem flatMap_readBy_append_remaining (calls : Nat) :
    ((List.range calls).flatMap fun call =>
        readBy (trees call) size (remaining trees size files call))
      ++ remaining trees size files calls = files := by
  induction calls with
  | zero => rfl
  | succ calls ih =>
    rw [List.range_succ, List.flatMap_append, List.append_assoc, List.flatMap_singleton, remaining,
      readBy_append_rest, ih]

/-- Each call leaves at least one file less. -/
theorem length_remaining_le (calls : Nat) :
    (remaining trees size files calls).length ≤ files.length - calls := by
  induction calls with
  | zero => exact Nat.le_refl _
  | succ calls ih =>
    have less := length_rest_le (trees calls) size (remaining trees size files calls)
    rw [remaining]
    omega

variable {trees size files}

/-- Once no files are left, none are left later. -/
theorem remaining_eq_nil_of_le {call later : Nat} (before : call ≤ later)
    (used : remaining trees size files call = []) : remaining trees size files later = [] := by
  induction before with
  | refl => exact used
  | step before ih => rw [remaining, ih, next]

/-- No files are left after a call without a sprite. -/
theorem rest_eq_nil_of_none (ended : (next tree size files).sprite? = none) :
    (next tree size files).rest = [] := by
  have reads := reads_next tree size files
  generalize next tree size files = step at reads ended ⊢
  generalize readBy tree size files = read at reads
  cases reads with
  | found passed yields => cases ended
  | ended passed => rfl

/-- **After a call without a sprite nothing happens any more.** -/
theorem next_remaining_of_none {call later : Nat} (after : call < later)
    (ended : (next (trees call) size (remaining trees size files call)).sprite? = none) :
    next (trees later) size (remaining trees size files later) = ⟨none, [], []⟩ := by
  have used : remaining trees size files (call + 1) = [] := rest_eq_nil_of_none ended
  rw [remaining_eq_nil_of_le after used, next]

end Calls

/-- **Calls use each listed file once.** The files are those of the theme when it was asked for,
whatever happens to the tree later. Every call goes on where the one before it stopped. It warns
about each file that fails at that time, stops at the first file that yields a sprite then, and does
not depend on any other file. All files are used after as many calls as there are files; only then is
there no sprite, and from then on nothing happens. -/
theorem iteration_uses_each_file_once (tree : FileTree) (searchPaths : List Path) (theme : String)
    (size : UInt32) (trees : Nat → FileTree) :
    let files := (list tree searchPaths theme).files
    let left := remaining trees size files
    let reads := fun call => readBy (trees call) size (left call)
    let step := fun call => next (trees call) size (left call)
    ListsTheme tree searchPaths theme files ∧
      (∀ calls, files = (List.range calls).flatMap reads ++ left calls) ∧
      left files.length = [] ∧
      (∀ call, left (call + 1) = (step call).rest ∧
        Reads (trees call) size (reads call) (step call)) ∧
      (∀ call other, (∀ file ∈ reads call, other.read file.path = (trees call).read file.path) →
        next other size (left call) = step call) ∧
      ∀ call, (step call).sprite? = none → ∀ later > call, step later = ⟨none, [], []⟩ := by
  intro files left reads step
  refine ⟨listsTheme_list tree searchPaths theme, ?_, ?_, ?_, ?_, ?_⟩
  · intro calls
    exact (flatMap_readBy_append_remaining trees size files calls).symm
  · -- as many calls as there are files leave none of them
    have none := length_remaining_le trees size files files.length
    rw [Nat.sub_self, Nat.le_zero, List.length_eq_zero_iff] at none
    exact none
  · intro call
    exact ⟨rfl, reads_next (trees call) size (left call)⟩
  · intro call other agree
    exact next_congr (left call) agree
  · intro call ended later after
    exact next_remaining_of_none after ended

/-- A theme with a file `a` that is empty and a cursor file `b`, below the root directory. -/
def whenListed : FileTree where
  nodes :=
    [(["t"].map Text.toBytes, .directory), (["t", "cursors"].map Text.toBytes, .directory),
      (["t", "cursors", "a"].map Text.toBytes, .file []),
      (["t", "cursors", "b"].map Text.toBytes, .file (encode [⟨1, .dot 7⟩]))]
  nodup := by decide

/-- The same theme later, with another picture in `b` and with a further cursor `c`. -/
def whenRead : FileTree :=
  (whenListed.put (["t", "cursors", "b"].map Text.toBytes) (.file (encode [⟨1, .dot 9⟩]))).put
    (["t", "cursors", "c"].map Text.toBytes) (.file (encode [⟨1, .dot 5⟩]))

/-- The two files that were there are listed. -/
theorem files_whenListed :
    (list whenListed [.ofString "/"] "t").files
      = [⟨"a", .ofString "/t/cursors/a"⟩, ⟨"b", .ofString "/t/cursors/b"⟩] := by
  have unlinked : whenListed.Unlinked := FileTree.unlinked_of_nodes (by decide)
  have leads : whenListed.resolve (cursorDirectory (.ofString "/") "t")
      = .ok [Text.toBytes "t", Text.toBytes "cursors"] := by
    rw [FileTree.resolve_of_unlinked unlinked]
    decide
  have sorted : whenListed.children [Text.toBytes "t", Text.toBytes "cursors"]
      = [(Text.toBytes "a", .file []), (Text.toBytes "b", .file (encode [⟨1, .dot 7⟩]))] := by
    rw [FileTree.children, List.mergeSort_of_pairwise (by decide)]
    decide
  simp only [list, List.map_cons, List.map_nil, listDirectory, leads, sorted]
  decide +kernel

/-- The first call warns about `a` and finds the later picture of `b`, the second one finds nothing,
and so does the third one. -/
theorem iteration_uses_each_file_once_of_changed_tree :
    let files := (list whenListed [.ofString "/"] "t").files
    let left := remaining (fun _ => whenRead) 1 files
    next whenRead 1 (left 0)
        = ⟨some ⟨"b", [.dot 9]⟩, [.fileSkipped (.ofString "/t/cursors/a") .malformed], []⟩ ∧
      (next whenRead 1 (left 1)).sprite? = none ∧ 2 > 1 ∧
      next whenRead 1 (left 2) = ⟨none, [], []⟩ := by
  obtain ⟨-, -, -, -, -, ended⟩ :=
    iteration_uses_each_file_once whenListed [.ofString "/"] "t" 1 fun _ => whenRead
  rw [files_whenListed] at ended ⊢
  have unlinked : whenRead.Unlinked := FileTree.unlinked_of_nodes (by decide)
  have empty : loadFile whenRead 1 ⟨"a", .ofString "/t/cursors/a"⟩ = .error .malformed := by
    rw [loadFile, FileTree.read, FileTree.resolve_of_unlinked unlinked]
    decide
  have usable : loadFile whenRead 1 ⟨"b", .ofString "/t/cursors/b"⟩ = .ok ⟨"b", [.dot 9]⟩ := by
    rw [loadFile, FileTree.read, FileTree.resolve_of_unlinked unlinked]
    decide
  have first : next whenRead 1 [⟨"a", .ofString "/t/cursors/a"⟩, ⟨"b", .ofString "/t/cursors/b"⟩]
      = ⟨some ⟨"b", [.dot 9]⟩, [.fileSkipped (.ofString "/t/cursors/a") .malformed], []⟩ := by
    simp only [next, empty, usable]
  intro files left
  have second : (next whenRead 1 (left 1)).sprite? = none := by
    simp only [left, files, remaining, first]
    rfl
  exact ⟨first, second, by decide, ended 1 second 2 (by decide)⟩

end CursorThemes.Xcursor
