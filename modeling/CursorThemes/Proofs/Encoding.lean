import CursorThemes.Proofs.CursorFiles

/-! # Cursor files that were written

A cursor file leads to its chunks by positions that count from its start, so that each of them depends
on the length of the table and of all chunks before it. This file says what a chunk is, and that a
file is read back as it was written.

* **`Xcursor.Encodable`** is a frame that a chunk can hold, and **`Xcursor.picture?_eq_some_iff`** says
  that the bytes at a position are read as a picture exactly if they start with the chunk of one.
* **`Xcursor.decode?_encodeItems`** is the round trip of a file, and **`Xcursor.encodable_of_decode?`**
  what is known of the pictures of any file.
* **`Xcursor.loadFile_encodeItems`** is the result for a file that was listed: the pictures of the
  selected size come back, in their order. -/

namespace CursorThemes.Xcursor

/-! ## Words -/

/-- **A word is read exactly if its bytes are in front.** -/
theorem word?_eq_some_iff {bytes rest : List UInt8} {word : UInt32} :
    word? bytes = some (word, rest) ↔ bytes = wordBytes word ++ rest := by
  constructor
  · intro found
    match bytes, found with
    | a :: b :: c :: d :: later, found =>
      simp only [word?, Option.some.injEq, Prod.mk.injEq] at found
      obtain ⟨rfl, rfl⟩ := found
      -- the four bytes are the digits of the word to the base of 256
      have bounds : a.toNat < 256 ∧ b.toNat < 256 ∧ c.toNat < 256 ∧ d.toNat < 256 :=
        ⟨a.toNat_lt, b.toNat_lt, c.toNat_lt, d.toNat_lt⟩
      simp only [wordBytes, List.cons_append, List.nil_append, List.cons.injEq, and_true,
        ← UInt8.toNat_inj, UInt32.toNat_ofNat', UInt8.toNat_ofNat']
      omega
  · rintro rfl
    exact word?_wordBytes word rest

/-- A word is expected and found exactly if its bytes are in front. -/
theorem expect?_eq_some_iff {expected : UInt32} {bytes rest : List UInt8} :
    expect? expected bytes = some rest ↔ bytes = wordBytes expected ++ rest := by
  rw [← word?_eq_some_iff, expect?]
  cases found : word? bytes with
  | none => simp
  | some pair =>
    obtain ⟨word, later⟩ := pair
    by_cases same : word = expected
    · simp [same]
    · simp [same]

/-! ## Chunks -/

/-- **A frame that a cursor file can hold**: each side is from 1 to 32767 pixels long, the hotspot lies
in the frame or right after its last column or row, and there are four bytes for every pixel. -/
structure Encodable (frame : Frame) : Prop where
  /-- There is a column. -/
  width_pos : 1 ≤ frame.width.toNat
  /-- There are not too many columns. -/
  width_le : frame.width.toNat ≤ 0x7fff
  /-- There is a row. -/
  height_pos : 1 ≤ frame.height.toNat
  /-- There are not too many rows. -/
  height_le : frame.height.toNat ≤ 0x7fff
  /-- The hotspot is not far right of the frame. -/
  hotspotX_le : frame.hotspotX.toNat ≤ frame.width.toNat
  /-- The hotspot is not far below the frame. -/
  hotspotY_le : frame.hotspotY.toNat ≤ frame.height.toNat
  /-- The pixels are all there. -/
  length_pixels : frame.pixels.length = frame.pixelLength

/-- Dimensions and a hotspot are those of a picture if they are within the bounds. -/
theorem isPlausible_iff {width height hotspotX hotspotY : UInt32} :
    isPlausible width height hotspotX hotspotY = true ↔
      (1 ≤ width.toNat ∧ width.toNat ≤ 0x7fff) ∧ (1 ≤ height.toNat ∧ height.toNat ≤ 0x7fff) ∧
        hotspotX.toNat ≤ width.toNat ∧ hotspotY.toNat ≤ height.toNat := by
  have side : maxSide.toNat = 0x7fff := rfl
  have pos : ∀ word : UInt32, (word != 0) = true ↔ 1 ≤ word.toNat := by
    intro word
    rw [bne_iff_ne, Ne, ← UInt32.toNat_inj, UInt32.toNat_zero]
    omega
  simp only [isPlausible, Bool.and_eq_true, decide_eq_true_eq, UInt32.le_iff_toNat_le, side, pos]
  constructor
  · rintro ⟨⟨⟨⟨⟨widthLe, heightLe⟩, widthPos⟩, heightPos⟩, hotspotX⟩, hotspotY⟩
    exact ⟨⟨widthPos, widthLe⟩, ⟨heightPos, heightLe⟩, hotspotX, hotspotY⟩
  · rintro ⟨⟨widthPos, widthLe⟩, ⟨heightPos, heightLe⟩, hotspotX, hotspotY⟩
    exact ⟨⟨⟨⟨⟨widthLe, heightLe⟩, widthPos⟩, heightPos⟩, hotspotX⟩, hotspotY⟩

/-- A frame can be held if its numbers are plausible and its pixels are all there. -/
theorem encodable_iff {frame : Frame} :
    Encodable frame ↔
      isPlausible frame.width frame.height frame.hotspotX frame.hotspotY = true ∧
        frame.pixels.length = frame.pixelLength := by
  rw [isPlausible_iff]
  constructor
  · intro held
    exact ⟨⟨⟨held.width_pos, held.width_le⟩, ⟨held.height_pos, held.height_le⟩, held.hotspotX_le,
      held.hotspotY_le⟩, held.length_pixels⟩
  · rintro ⟨⟨⟨widthPos, widthLe⟩, ⟨heightPos, heightLe⟩, hotspotX, hotspotY⟩, pixels⟩
    exact ⟨widthPos, widthLe, heightPos, heightLe, hotspotX, hotspotY, pixels⟩

instance (frame : Frame) : Decidable (Encodable frame) := decidable_of_iff _ encodable_iff.symm

/-- **Bytes are read as a picture exactly if they start with its chunk**, and the frame can be held. -/
theorem picture?_eq_some_iff {bytes : List UInt8} {picture : Picture} :
    picture? bytes = some picture ↔
      Encodable picture.frame ∧ pictureBytes picture <+: bytes := by
  constructor
  · intro found
    simp only [picture?, Option.bind_eq_bind, Option.bind_eq_some_iff, expect?_eq_some_iff,
      Prod.exists, word?_eq_some_iff] at found
    obtain ⟨_, rfl, _, rfl, nominal, _, rfl, _, rfl, width, _, rfl, height, _, rfl, hotspotX, _, rfl,
      hotspotY, _, rfl, delay, rest, rfl, found⟩ := found
    split at found
    · rename_i bounded
      split at found
      · rename_i enough
        cases found
        refine ⟨encodable_iff.mpr ⟨bounded, List.length_take_of_le enough⟩,
          rest.drop (width.toNat * height.toNat * bytesPerPixel), ?_⟩
        simp [pictureBytes, wordsBytes]
      · cases found
    · cases found
  · rintro ⟨held, rest, rfl⟩
    obtain ⟨bounded, pixels⟩ := encodable_iff.mp held
    have enough : picture.frame.width.toNat * picture.frame.height.toNat * bytesPerPixel
        ≤ picture.frame.pixels.length + rest.length :=
      pixels ▸ Nat.le_add_right _ _
    have front : (picture.frame.pixels ++ rest).take
        (picture.frame.width.toNat * picture.frame.height.toNat * bytesPerPixel)
        = picture.frame.pixels := List.take_left' pixels
    simp [picture?, pictureBytes, wordsBytes, expect?, bounded, enough, front]

/-- What an entry leads to is read exactly if it is there, and nothing else of the file counts. -/
theorem picture?_pictureBytes {picture : Picture} (held : Encodable picture.frame)
    (rest : List UInt8) : picture? (pictureBytes picture ++ rest) = some picture :=
  picture?_eq_some_iff.mpr ⟨held, List.prefix_append _ _⟩

/-- **All pictures of a file can be held.** -/
theorem encodable_of_pictures? {file : List UInt8} {entries : List Entry} {pictures : List Picture}
    (found : pictures? file entries = some pictures) :
    ∀ picture ∈ pictures, Encodable picture.frame := by
  induction entries generalizing pictures with
  | nil =>
    cases found
    exact fun _ member => absurd member List.not_mem_nil
  | cons entry later ih =>
    rw [pictures?] at found
    split at found
    · simp only [Option.bind_eq_bind, Option.bind_eq_some_iff] at found
      obtain ⟨first, read, others, rest, ⟨⟩⟩ := found
      exact List.forall_mem_cons.mpr ⟨(picture?_eq_some_iff.mp read).1, ih rest⟩
    · exact ih found

/-- All pictures that are decoded can be held. -/
theorem encodable_of_decode? {file : List UInt8} {pictures : List Picture}
    (found : decode? file = some pictures) : ∀ picture ∈ pictures, Encodable picture.frame := by
  rw [decode?] at found
  split at found
  · simp only [Option.bind_eq_bind, Option.bind_eq_some_iff, Prod.exists] at found
    obtain ⟨_, _, -, _, _, -, _, _, -, entries, -, read⟩ := found
    exact encodable_of_pictures? read
  · cases found

/-! ## Files -/

/-- **An item that can be laid out**: its frame can be held, or its entry is really one of another
type. -/
def Item.IsProper : Item → Prop
  | .picture content => Encodable content.frame
  | .other entry => entry.kind ≠ imageKind

instance (item : Item) : Decidable item.IsProper :=
  match item with
  | .picture content => inferInstanceAs (Decidable (Encodable content.frame))
  | .other entry => inferInstanceAs (Decidable (entry.kind ≠ imageKind))

/-- **A table is read back**, with whatever comes after it. -/
theorem table?_entries (entries : List Entry) (rest : List UInt8) :
    table? entries.length (entries.flatMap entryBytes ++ rest) = some entries := by
  induction entries with
  | nil => rfl
  | cons entry later ih =>
    simp [table?, entryBytes, wordsBytes, ih]

/-- **The pictures of a table are read back** from where it says they are. `position` is where the
chunks of the items start, and the file has nothing but these from there on. -/
theorem pictures?_tableFrom {file : List UInt8} {items : List Item} {position : Nat}
    (short : file.length < UInt32.size) (proper : ∀ item ∈ items, item.IsProper)
    (chunks : file.drop position = (items.filterMap Item.picture?).flatMap pictureBytes) :
    pictures? file (tableFrom position items) = some (items.filterMap Item.picture?) := by
  induction items generalizing position with
  | nil => rfl
  | cons item later ih =>
    obtain ⟨here, rest⟩ := List.forall_mem_cons.mp proper
    cases item with
    | picture content =>
      -- the chunk is not empty, so that its position is one in the file
      have inside : position < file.length := by
        by_contra past
        rw [List.drop_eq_nil_of_le (Nat.le_of_not_lt past)] at chunks
        cases chunks
      have exact : (UInt32.ofNat position).toNat = position :=
        UInt32.toNat_ofNat_of_lt' (Nat.lt_trans inside short)
      change file.drop position
        = pictureBytes content ++ (later.filterMap Item.picture?).flatMap pictureBytes at chunks
      have behind : file.drop (position + (pictureBytes content).length)
          = (later.filterMap Item.picture?).flatMap pictureBytes := by
        rw [← List.drop_drop, chunks, List.drop_left]
      simp only [tableFrom, pictures?, if_true, exact, chunks,
        picture?_pictureBytes here, ih rest behind]
      rfl
    | other entry =>
      -- an entry of another type is not followed, and has no chunk
      rw [tableFrom, pictures?, if_neg here]
      exact ih rest chunks

/-- A header has sixteen bytes. -/
@[simp] theorem length_headerBytes (count : Nat) : (headerBytes count).length = headerSize := rfl

/-- A table has twelve bytes for every entry. -/
theorem length_flatMap_entryBytes (entries : List Entry) :
    (entries.flatMap entryBytes).length = entrySize * entries.length := by
  induction entries with
  | nil => rfl
  | cons entry later ih =>
    have one : (entryBytes entry).length = entrySize := rfl
    rw [List.flatMap_cons, List.length_append, ih, one, List.length_cons, Nat.mul_succ,
      Nat.add_comm]

/-- The length of a file: that of its header, its table and its chunks. -/
theorem length_encodeItems (items : List Item) :
    (encodeItems items).length = headerSize + entrySize * items.length +
      ((items.filterMap Item.picture?).flatMap pictureBytes).length := by
  rw [encodeItems, List.length_append, List.length_append, length_headerBytes,
    length_flatMap_entryBytes, length_tableFrom]

/-- **A file is read back as it was written.** -/
theorem decode?_encodeItems {items : List Item} (short : (encodeItems items).length < UInt32.size)
    (proper : ∀ item ∈ items, item.IsProper) :
    decode? (encodeItems items) = some (items.filterMap Item.picture?) := by
  -- the file is a header, a table and chunks, and each begins where the one before ends
  obtain ⟨table, isTable⟩ :
      ∃ table, table = tableFrom (headerSize + entrySize * items.length) items := ⟨_, rfl⟩
  obtain ⟨chunks, isChunks⟩ :
      ∃ chunks, chunks = (items.filterMap Item.picture?).flatMap pictureBytes := ⟨_, rfl⟩
  have parts : encodeItems items
      = headerBytes items.length ++ (table.flatMap entryBytes ++ chunks) := by
    rw [encodeItems, List.append_assoc, isTable, isChunks]
  have entries : table.length = items.length := by rw [isTable, length_tableFrom]
  have afterHeader : (encodeItems items).drop headerSize = table.flatMap entryBytes ++ chunks := by
    rw [parts, List.drop_left' (length_headerBytes _)]
  have afterTable : (encodeItems items).drop (headerSize + entrySize * items.length) = chunks := by
    rw [← List.drop_drop, afterHeader,
      List.drop_left' (by rw [length_flatMap_entryBytes, entries])]
  -- neither the number of entries nor any position is cut to 32 bits
  have count : (UInt32.ofNat items.length).toNat = items.length := by
    refine UInt32.toNat_ofNat_of_lt' (Nat.lt_of_le_of_lt ?_ short)
    rw [length_encodeItems, entrySize]
    omega
  have tableRead : table? items.length ((encodeItems items).drop headerSize) = some table := by
    rw [afterHeader, ← entries, table?_entries]
  have picturesRead : pictures? (encodeItems items) table
      = some (items.filterMap Item.picture?) := by
    rw [isTable]
    exact pictures?_tableFrom short proper (afterTable.trans isChunks)
  have front : (encodeItems items).take magic.length = magic := by
    rw [parts, headerBytes, List.append_assoc, List.take_left]
  have words : (encodeItems items).drop magic.length
      = wordBytes (.ofNat headerSize) ++ (wordBytes 0x00010000 ++
          (wordBytes (.ofNat items.length) ++ (table.flatMap entryBytes ++ chunks))) := by
    rw [parts, headerBytes, List.append_assoc, List.drop_left]
    simp [wordsBytes]
  have header : (UInt32.ofNat headerSize).toNat = headerSize := rfl
  simp [decode?, front, words, header, count, tableRead, picturesRead]

/-- The pictures of items for nothing but pictures. -/
@[simp] theorem filterMap_picture?_map (pictures : List Picture) :
    (pictures.map Item.picture).filterMap Item.picture? = pictures := by
  induction pictures with
  | nil => rfl
  | cons picture later ih => exact congrArg (picture :: ·) ih

/-- Leaving entries of other types out makes a file shorter. -/
theorem length_encode_le (items : List Item) :
    (encode (items.filterMap Item.picture?)).length ≤ (encodeItems items).length := by
  have fewer := List.length_filterMap_le Item.picture? items
  rw [encode, length_encodeItems, length_encodeItems, filterMap_picture?_map, List.length_map,
    entrySize]
  omega

/-- The pictures of a file are read back without the entries of other types between them as well. -/
theorem decode?_encode {items : List Item} (short : (encodeItems items).length < UInt32.size)
    (proper : ∀ item ∈ items, item.IsProper) :
    decode? (encode (items.filterMap Item.picture?)) = some (items.filterMap Item.picture?) := by
  rw [encode, decode?_encodeItems, filterMap_picture?_map]
  · exact Nat.lt_of_le_of_lt (length_encode_le items) short
  · intro bare member
    obtain ⟨content, listed, rfl⟩ := List.mem_map.mp member
    obtain ⟨item, isItem, isPicture⟩ := List.mem_filterMap.mp listed
    cases item with
    | picture other =>
      cases isPicture
      exact proper _ isItem
    | other entry => cases isPicture

/-! ## Files that were listed -/

/-- **What is loaded from a file that was written**, as long as it is shorter than four gigabytes: the
frames of all pictures of the selected size, in their order and with all that they have. A file
without pictures is refused. Entries of other types make no difference. -/
theorem loadFile_encodeItems {items : List Item} (short : (encodeItems items).length < UInt32.size)
    (proper : ∀ item ∈ items, item.IsProper) {tree : FileTree} {file : CursorFile}
    (stored : tree.read file.path = .ok (encodeItems items)) (size : UInt32) :
    let pictures := items.filterMap Item.picture?
    (pictures ≠ [] → ∃ nominal, Selects size (pictures.map Picture.nominal) nominal ∧
        loadFile tree size file
          = .ok ⟨file.name, (pictures.filter (·.nominal == nominal)).map Picture.frame⟩) ∧
      (pictures = [] → loadFile tree size file = .error .noImages ∧
        FileFailure.noImages.message = "no images in cursor file") ∧
      ∀ other : FileTree, other.read file.path = .ok (encode pictures) →
        loadFile other size file = loadFile tree size file := by
  intro pictures
  have decoded : decode? (encodeItems items) = some pictures := decode?_encodeItems short proper
  refine ⟨?_, ?_, ?_⟩
  · intro some
    obtain ⟨nominal, selected, frames⟩ := exists_selects_of_ne_nil size some
    refine ⟨nominal, selected, loadFile_eq_ok_iff.mpr ⟨_, stored, ?_⟩⟩
    exact spriteOf_eq_ok_iff.mpr ⟨pictures, decoded, some, by rw [frames]⟩
  · intro none
    rw [none] at decoded
    refine ⟨?_, rfl⟩
    simp [loadFile, stored, spriteOf, decoded]
  · -- both files have the same pictures, and only these count
    intro other bare
    simp only [loadFile, stored, bare, spriteOf, decoded, pictures, decode?_encode short proper]

/-- Three pictures of two sizes, with an entry for a comment between them. -/
def pictured : List Item :=
  [.picture ⟨1, .dot 7⟩, .other ⟨0xfffe0001, 1, 0⟩, .picture ⟨2, .dot 8⟩, .picture ⟨1, .dot 9⟩]

/-- The root directory with a single file. -/
def singleFile (content : List UInt8) : FileTree where
  nodes := [([Text.toBytes "c"], .file content)]

/-- The single file can be read. -/
theorem read_singleFile (content : List UInt8) :
    (singleFile content).read (.ofString "/c") = .ok content := by
  have unlinked : (singleFile content).Unlinked := by
    refine FileTree.unlinked_of_nodes fun entry member => ?_
    rw [List.mem_singleton.mp member]
    rfl
  refine FileTree.read_eq_ok_iff.mpr ⟨[Text.toBytes "c"], ?_, rfl⟩
  rw [FileTree.resolve_of_unlinked unlinked]
  rfl

/-- Two of the pictures have the size asked for. -/
theorem loadFile_encodeItems_beside_comment :
    (encodeItems pictured).length < UInt32.size ∧ (∀ item ∈ pictured, item.IsProper) ∧
      (singleFile (encodeItems pictured)).read (.ofString "/c") = .ok (encodeItems pictured) ∧
      loadFile (singleFile (encodeItems pictured)) 1 ⟨"c", .ofString "/c"⟩ = .ok ⟨"c", [.dot 7, .dot 9]⟩ := by
  have short : (encodeItems pictured).length < UInt32.size := by decide +kernel
  have proper : ∀ item ∈ pictured, item.IsProper := by decide
  have stored := read_singleFile (encodeItems pictured)
  obtain ⟨found, -, -⟩ :=
    @loadFile_encodeItems pictured short proper _ ⟨"c", .ofString "/c"⟩ stored 1
  obtain ⟨nominal, selected, loaded⟩ := found (by decide)
  -- the size that is selected is not farther from the size asked for than this size itself
  have near : distance nominal 1 ≤ 0 := selected.least 1 (by decide)
  have same : nominal = 1 := by
    rw [← UInt32.toNat_inj]
    simp only [distance] at near
    omega
  refine ⟨short, proper, stored, loaded.trans ?_⟩
  rw [same]
  decide

end CursorThemes.Xcursor
