import CursorThemes.Proofs.Encoding
import CursorThemes.Proofs.Fates
import CursorThemes.Proofs.Iteration
import CursorThemes.Proofs.SearchOrder

/-! # What cursor files yield can be stored

The checks that a sprite meets on its way into a pool were met before, when its file was read, but
for one: a side of up to 32767 pixels is fine in a cursor file, and two of them make a frame that is
larger than any pool.

* **`Xcursor.Holdable`** says what is known of a sprite that a file yields, and
  **`Xcursor.holdable_of_next`** and **`Xcursor.holdable_of_offered`** that it is known of all of
  them.
* **`Xcursor.Encodable.fails_cases`** goes through the checks of the pool for such a frame.
* **`Theme.fails_of_mem_fates`** finds the frame for which a sprite was dropped, in any load.
* **`Xcursor.load_drops_only_for_size`** is the result. -/

namespace CursorThemes

/-! ## Why sprites are dropped in the course of a load -/

/-- **Why a sprite is dropped**: it has no name, or no frame, or one of its frames fails. -/
def Sprite.Fails (sprite : Sprite) (error : CursorError) : Prop :=
  (sprite.name = "" ∧ error = .malformed sprite.name .emptyName) ∨
    (sprite.frames = [] ∧ error = .malformed sprite.name .noFrames) ∨
    ∃ frame ∈ sprite.frames, frame.Fails sprite.name error

namespace Theme

/-- A sprite that is dropped fails. -/
theorem fails_of_fate {theme : Theme} (sized : theme.pool.Sized) {sprite : Sprite}
    {faults : Nat → Option SystemCall} {host : Host} {error : CursorError}
    (dropped : theme.fate sprite faults host = .dropped error) : sprite.Fails error := by
  unfold fate at dropped
  split at dropped
  · cases dropped
  · rcases stored : Cursor.store theme.pool sprite faults host with ⟨failure | cursor, left, after⟩
    · rw [stored] at dropped
      cases dropped
      exact Cursor.store_error_cases sized stored
    · rw [stored] at dropped
      cases dropped

/-- **Sprites that are dropped fail**, whatever was delivered before them. -/
theorem fails_of_mem_fates (deliveries : List Delivery) {theme : Theme} {account : Account}
    (follows : theme.Follows account) (faults : Nat → Nat → Option SystemCall) (host : Host)
    {sprite : Sprite} {error : CursorError}
    (member : (sprite, .dropped error) ∈ fates faults theme host deliveries) :
    sprite.Fails error := by
  induction deliveries generalizing theme account host faults with
  | nil => cases member
  | cons delivery later ih =>
    rw [fates_cons, List.mem_cons, Prod.mk.injEq] at member
    rcases member with ⟨rfl, dropped⟩ | rest
    · exact fails_of_fate follows.meets.sized dropped.symm
    · exact ih (add_follows follows (faults 0) delivery.sprite _) _ _ rest

end Theme

namespace Xcursor

variable {tree : FileTree} {size : UInt32}

/-! ## What is known of a sprite from a file -/

/-- **A sprite that a cursor file can hold**: it has a name and frames, and each frame can be held. -/
structure Holdable (sprite : Sprite) : Prop where
  /-- There is a name. -/
  name_ne : sprite.name ≠ ""
  /-- There is a frame. -/
  frames_ne : sprite.frames ≠ []
  /-- Every frame can be held. -/
  encodable : ∀ frame ∈ sprite.frames, Encodable frame

/-- A frame that is nearest in size is the frame of a picture. -/
theorem exists_picture_of_mem_nearest {pictures : List Picture} {frame : Frame}
    (member : frame ∈ nearest size pictures) : ∃ picture ∈ pictures, picture.frame = frame := by
  rw [nearest] at member
  split at member
  · cases member
  · obtain ⟨picture, kept, same⟩ := List.mem_map.mp member
    exact ⟨picture, (List.mem_filter.mp kept).1, same⟩

/-- **A sprite in the bytes of a file has frames that can be held.** -/
theorem encodable_of_spriteOf {name : String} {content : List UInt8} {sprite : Sprite}
    (found : spriteOf name size content = .ok sprite) : ∀ frame ∈ sprite.frames, Encodable frame := by
  obtain ⟨pictures, decoded, -, rfl⟩ := spriteOf_eq_ok_iff.mp found
  intro frame member
  obtain ⟨picture, listed, rfl⟩ := exists_picture_of_mem_nearest member
  exact encodable_of_decode? decoded picture listed

/-- A file that is listed for a theme is in a directory. -/
theorem exists_directory_of_mem_list {searchPaths : List Path} {theme : String} {file : CursorFile}
    (listed : file ∈ (list tree searchPaths theme).files) :
    ∃ directory : Path, file.path = directory.join (.ofString file.name) := by
  rw [list] at listed
  split at listed
  · simp only [Listing.concat, List.mem_flatMap, List.mem_map, exists_exists_and_eq_and] at listed
    obtain ⟨searchPath, -, inside⟩ := listed
    exact ⟨_, (mem_files_listDirectory_iff.mp inside).2⟩
  · cases listed

/-- **A sprite from a listed file can be held**, whatever became of the tree since the file was
listed. -/
theorem holdable_of_loadFile {later : FileTree} {searchPaths : List Path} {theme : String}
    {file : CursorFile} (listed : file ∈ (list tree searchPaths theme).files) {sprite : Sprite}
    (loaded : loadFile later size file = .ok sprite) : Holdable sprite := by
  obtain ⟨content, readable, found⟩ := loadFile_eq_ok_iff.mp loaded
  obtain ⟨directory, place⟩ := exists_directory_of_mem_list listed
  obtain ⟨named, framed⟩ := spriteOf_eq_ok found
  rw [place] at readable
  exact ⟨named ▸ name_ne_of_read readable, framed, encodable_of_spriteOf found⟩

/-- The sprite of a step is loaded from one of the files. -/
theorem exists_loadFile_of_next {files : List CursorFile} {sprite : Sprite}
    (found : (next tree size files).sprite? = some sprite) :
    ∃ file ∈ files, loadFile tree size file = .ok sprite := by
  have inside : ∀ file ∈ readBy tree size files, file ∈ files := by
    intro file read
    rw [← readBy_append_rest tree size files]
    exact List.mem_append_left _ read
  have reads := reads_next tree size files
  generalize next tree size files = step at reads found
  generalize readBy tree size files = read at reads inside
  cases reads with
  | found passed yields =>
    cases found
    exact ⟨_, inside _ (List.mem_append_right _ (List.mem_singleton_self _)),
      loadFile_eq_ok_iff_yields.mpr yields⟩
  | ended passed => cases found

/-- **Every sprite that is yielded can be held**, at whatever call and from whatever tree. -/
theorem holdable_of_next {searchPaths : List Path} {theme : String} {trees : Nat → FileTree}
    {call : Nat} {sprite : Sprite}
    (found : (next (trees call) size
      (remaining trees size (list tree searchPaths theme).files call)).sprite? = some sprite) :
    Holdable sprite := by
  obtain ⟨file, left, loaded⟩ := exists_loadFile_of_next found
  -- what is left was listed
  have listed : file ∈ (list tree searchPaths theme).files := by
    rw [← flatMap_readBy_append_remaining trees size (list tree searchPaths theme).files call]
    exact List.mem_append_right _ left
  exact holdable_of_loadFile listed loaded

/-- **Every sprite that a load is offered can be held.** -/
theorem holdable_of_offered {searchPaths : List Path} {name : Option String} {sprite : Sprite}
    (member : sprite ∈ Theme.offered (loader tree searchPaths) name size) : Holdable sprite := by
  rw [Theme.offered, loader, map_sprite_deliveries, List.mem_filterMap] at member
  obtain ⟨file, listed, loaded⟩ := member
  exact holdable_of_loadFile listed (toOption_loadFile_eq_some_iff.mp loaded)

/-! ## What the pool makes of such a sprite -/

/-- **A frame that can be held has no other defect than its size.** -/
theorem Encodable.storedLength_eq {frame : Frame} (held : Encodable frame) :
    frame.storedLength = if frame.pixelLength ≤ maxPoolSize then .ok frame.pixelLength
      else .error (.oversizedFrame frame.width frame.height) := by
  have wide : frame.width ≠ 0 := Frame.pos_toNat_iff.mp held.width_pos
  have tall : frame.height ≠ 0 := Frame.pos_toNat_iff.mp held.height_pos
  -- a side that a cursor file allows is far from the longest row
  have short : frame.width.toNat ≤ maxPoolSize / bytesPerPixel :=
    le_trans held.width_le (by decide)
  have announceable : frame.isAnnounceable = decide (frame.pixelLength ≤ maxPoolSize) := by
    rw [Frame.isAnnounceable, decide_eq_true short, Bool.true_and]
  rw [Frame.storedLength, if_neg (not_or.mpr ⟨wide, tall⟩), announceable]
  by_cases fits : frame.pixelLength ≤ maxPoolSize
  · rw [if_neg (by simp [fits]), if_neg (by simp [held.length_pixels]), if_pos fits]
  · rw [if_pos (by simp [fits]), if_neg fits]

/-- **Why a frame that can be held is not stored**: it is too large for any pool, or the pool refuses
it. -/
theorem Encodable.fails_cases {frame : Frame} (held : Encodable frame) {name : String}
    {error : CursorError} (fails : frame.Fails name error) :
    (maxPoolSize < frame.pixelLength ∧
      error = .malformed name (.oversizedFrame frame.width frame.height)) ∨
    ∃ capacity cause, error = .allocation frame.pixelLength capacity cause := by
  cases fails with
  | malformed ill =>
    rw [held.storedLength_eq] at ill
    split at ill
    · cases ill
    · rename_i large
      cases ill
      exact Or.inl ⟨Nat.lt_of_not_le large, rfl⟩
  | refused formed => exact Or.inr ⟨_, _, rfl⟩

/-- **Why a sprite that can be held is not stored.** -/
theorem Holdable.fails_cases {sprite : Sprite} (held : Holdable sprite) {error : CursorError}
    (fails : sprite.Fails error) :
    ∃ frame ∈ sprite.frames,
      (maxPoolSize < frame.pixelLength ∧
        error = .malformed sprite.name (.oversizedFrame frame.width frame.height)) ∨
      ∃ capacity cause, error = .allocation frame.pixelLength capacity cause := by
  rcases fails with ⟨unnamed, -⟩ | ⟨bare, -⟩ | ⟨frame, member, fails⟩
  · exact absurd unnamed held.name_ne
  · exact absurd bare held.frames_ne
  · exact ⟨frame, member, (held.encodable frame member).fails_cases fails⟩

/-! ## What the loader says -/

/-- What is said while a directory is listed tells of no sprite. -/
theorem outcome?_of_mem_listEntry {directory : Path} {place : Location}
    {entry : FileName × FileNode} {notice : Notice}
    (member : notice ∈ (listEntry tree directory place entry).notices) : notice.outcome? = none := by
  have silent : ∀ name, (listFile directory name).notices = [] := by
    intro name
    rw [listFile]
    split <;> rfl
  obtain ⟨name, node⟩ := entry
  cases node with
  | file content => rw [listEntry, silent] at member; cases member
  | directory => cases member
  | link target =>
    simp only [listEntry] at member
    split at member
    · rw [List.mem_singleton.mp member]
      rfl
    · split at member
      · rw [List.mem_singleton.mp member]
        rfl
      · split at member
        · rw [silent] at member
          cases member
        · cases member

/-- What is said while files are listed tells of no sprite. -/
theorem outcome?_of_mem_list {searchPaths : List Path} {theme : String} {notice : Notice}
    (member : notice ∈ (list tree searchPaths theme).notices) : notice.outcome? = none := by
  rw [list] at member
  split at member
  · rcases List.mem_append.mp member with listing | count
    · simp only [Listing.concat, List.mem_flatMap, List.mem_map, exists_exists_and_eq_and]
        at listing
      obtain ⟨searchPath, -, inside⟩ := listing
      rw [listDirectory] at inside
      split at inside
      · cases inside
      · split at inside
        · simp only [Listing.concat, List.mem_flatMap, List.mem_map, exists_exists_and_eq_and]
            at inside
          obtain ⟨entry, -, said⟩ := inside
          exact outcome?_of_mem_listEntry said
        · cases inside
    · rw [List.mem_singleton.mp count]
      rfl
  · cases member

/-- What is said while files are read tells of no sprite. -/
theorem outcome?_of_mem_deliveries (files : List CursorFile) {pending : List Notice}
    (silent : ∀ notice ∈ pending, notice.outcome? = none) {notice : Notice}
    (member : notice ∈ (deliveries tree size pending files).1.flatMap Delivery.notices ++
      (deliveries tree size pending files).2) : notice.outcome? = none := by
  induction files generalizing pending with
  | nil => exact silent notice member
  | cons file later ih =>
    rw [deliveries] at member
    split at member
    · rw [List.flatMap_cons, List.append_assoc, List.mem_append] at member
      rcases member with before | after
      · exact silent notice before
      · exact ih (fun _ none => absurd none List.not_mem_nil) after
    · refine ih ?_ member
      intro other inside
      rcases List.mem_append.mp inside with before | skipped
      · exact silent other before
      · rw [List.mem_singleton.mp skipped]
        rfl

/-- **The loader of cursor files tells of no sprite.** -/
theorem outcome?_of_mem_loader {searchPaths : List Path} {theme : String} {notice : Notice}
    (member : notice ∈ (loader tree searchPaths theme size).notices) : notice.outcome? = none := by
  rw [Catalogue.notices, List.append_assoc, List.mem_append] at member
  rcases member with opening | reading
  · exact outcome?_of_mem_list opening
  · exact outcome?_of_mem_deliveries _ (fun _ none => absurd none List.not_mem_nil) reading

/-! ## A load from cursor files -/

/-- **What a load drops of cursor files.** Whatever a file is made of, a sprite that it yields has a
name and frames, with sides from 1 to 32767 pixels, a hotspot within them and four bytes for every
pixel; this holds at any call and from any tree. In every load from files, a sprite is dropped only
for a frame with more bytes than any pool can have, which is reported as too large, or for a frame
that the pool refused. The log tells of these sprites and of those whose names were taken. -/
theorem load_drops_only_for_size (tree : FileTree) (searchPaths : List Path) (size : UInt32) :
    (∀ (theme : String) (trees : Nat → FileTree) (call : Nat) (sprite : Sprite),
      (next (trees call) size
        (remaining trees size (list tree searchPaths theme).files call)).sprite? = some sprite →
      Holdable sprite) ∧
    ∀ (name : Option String) (trouble : Trouble) (host : Host),
      let offered := Theme.offeredFates name size (loader tree searchPaths) trouble host
      let builtin := Theme.builtinFates name size (loader tree searchPaths) trouble host
      let loading := Theme.load name size (loader tree searchPaths) trouble host
      (∀ sprite error, (sprite, .dropped error) ∈ offered →
        ∃ frame ∈ sprite.frames,
          (maxPoolSize < frame.pixelLength ∧
            error = .malformed sprite.name (.oversizedFrame frame.width frame.height)) ∨
          ∃ capacity cause, error = .allocation frame.pixelLength capacity cause) ∧
      ∀ theme, loading.outcome = .ok theme →
        loading.host.outcomes
          = host.outcomes ++ (offered ++ builtin).filterMap Fate.report? := by
  refine ⟨fun theme trees call sprite found => holdable_of_next found, ?_⟩
  intro name trouble host offered builtin loading
  refine ⟨?_, fun theme loaded =>
    Theme.outcomes_load loaded fun notice member => outcome?_of_mem_loader member⟩
  intro sprite error dropped
  have fails := Theme.fails_of_mem_fates _
    (Theme.opened_follows (name.getD Theme.standardName) size host) _ _ dropped
  have listed : sprite ∈ Theme.offered (loader tree searchPaths) name size := by
    rw [← Theme.map_fst_offeredFates name size (loader tree searchPaths) trouble host]
    exact List.mem_map_of_mem dropped
  exact (holdable_of_offered listed).fails_cases fails

end Xcursor

end CursorThemes
