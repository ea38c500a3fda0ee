import CursorThemes.Sprite

/-! # Cursor files

The layout of an Xcursor file. All numbers are 32-bit words, the lowest byte first. A file starts
with a header; a table of contents follows where the header says, and leads to chunks, each at a
position counted from the start of the file. A chunk of the image type holds one picture.

* **`Xcursor.decode?`** reads the pictures of a file, in the order of its table.
* **`Xcursor.encode`** lays pictures out as a file, and **`Xcursor.encodeItems`** does so with entries
  of other types between them. -/

namespace CursorThemes.Xcursor

/-- A picture of a cursor file. -/
structure Picture where
  /-- The size under which the picture is listed, which need not be one of its dimensions. -/
  nominal : UInt32
  /-- The picture. -/
  frame : Frame
  deriving DecidableEq, Repr

/-- An entry of a table of contents. -/
structure Entry where
  /-- The type of the chunk. -/
  kind : UInt32
  /-- The nominal size of a picture; other types give it other meanings. -/
  subtype : UInt32
  /-- The position of the chunk in the file. -/
  position : UInt32
  deriving DecidableEq, Repr

/-- The bytes `Xcur` that a file starts with. -/
def magic : List UInt8 := [0x58, 0x63, 0x75, 0x72]

/-- The type of a chunk with a picture. -/
def imageKind : UInt32 := 0xfffd0002

/-- The number of bytes of the fixed part of an image chunk. -/
def imageHeaderSize : UInt32 := 36

/-- The version of the layout of image chunks. -/
def imageVersion : UInt32 := 1

/-- The largest width and height of a picture. -/
def maxSide : UInt32 := 0x7fff

/-! ## Reading -/

/-- A word at the front of the bytes, and what follows it. -/
def word? : List UInt8 → Option (UInt32 × List UInt8)
  | a :: b :: c :: d :: rest =>
    some (.ofNat (a.toNat + 0x100 * b.toNat + 0x10000 * c.toNat + 0x1000000 * d.toNat), rest)
  | _ => none

/-- What follows the word `expected`, if the bytes start with it. -/
def expect? (expected : UInt32) (bytes : List UInt8) : Option (List UInt8) :=
  match word? bytes with
  | some (word, rest) => if word = expected then some rest else none
  | none => none

/-- The first `count` entries of a table of contents. -/
def table? : Nat → List UInt8 → Option (List Entry)
  | 0, _ => some []
  | count + 1, bytes => do
    let (kind, bytes) ← word? bytes
    let (subtype, bytes) ← word? bytes
    let (position, bytes) ← word? bytes
    let later ← table? count bytes
    return ⟨kind, subtype, position⟩ :: later

/-- Whether dimensions and a hotspot can be those of a picture. The hotspot may lie right after the
last column and row. -/
def isPlausible (width height hotspotX hotspotY : UInt32) : Bool :=
  width ≤ maxSide && height ≤ maxSide && width != 0 && height != 0 &&
    hotspotX ≤ width && hotspotY ≤ height

/-- The picture in a chunk. -/
def picture? (bytes : List UInt8) : Option Picture := do
  let bytes ← expect? imageHeaderSize bytes
  let bytes ← expect? imageKind bytes
  let (nominal, bytes) ← word? bytes
  let bytes ← expect? imageVersion bytes
  let (width, bytes) ← word? bytes
  let (height, bytes) ← word? bytes
  let (hotspotX, bytes) ← word? bytes
  let (hotspotY, bytes) ← word? bytes
  let (delay, bytes) ← word? bytes
  if isPlausible width height hotspotX hotspotY then
    let length := width.toNat * height.toNat * bytesPerPixel
    if length ≤ bytes.length then
      some ⟨nominal, width, height, hotspotX, hotspotY, delay, bytes.take length⟩
    else none
  else none

/-- The pictures that entries lead to in a file; entries of other types are passed over. -/
def pictures? (file : List UInt8) : List Entry → Option (List Picture)
  | [] => some []
  | entry :: later =>
    if entry.kind = imageKind then do
      let picture ← picture? (file.drop entry.position.toNat)
      let pictures ← pictures? file later
      return picture :: pictures
    else pictures? file later

/-- **The pictures of a file**, in the order of its table of contents. -/
def decode? (file : List UInt8) : Option (List Picture) :=
  if file.take magic.length = magic then do
    let (header, bytes) ← word? (file.drop magic.length)
    -- the version of the format makes no difference
    let (_, bytes) ← word? bytes
    let (count, _) ← word? bytes
    let entries ← table? count.toNat (file.drop header.toNat)
    pictures? file entries
  else none

/-! ## Writing -/

/-- The bytes of a word. -/
def wordBytes (word : UInt32) : List UInt8 :=
  [.ofNat word.toNat, .ofNat (word.toNat / 0x100), .ofNat (word.toNat / 0x10000),
    .ofNat (word.toNat / 0x1000000)]

/-- The bytes of words, one after the other. -/
def wordsBytes (words : List UInt32) : List UInt8 := words.flatMap wordBytes

/-- The chunk of a picture. -/
def pictureBytes (picture : Picture) : List UInt8 :=
  wordsBytes [imageHeaderSize, imageKind, picture.nominal, imageVersion, picture.frame.width,
    picture.frame.height, picture.frame.hotspotX, picture.frame.hotspotY, picture.frame.delay] ++
  picture.frame.pixels

/-- The bytes of an entry. -/
def entryBytes (entry : Entry) : List UInt8 :=
  wordsBytes [entry.kind, entry.subtype, entry.position]

/-- The number of bytes of the header of a file. -/
def headerSize : Nat := 16

/-- The number of bytes of one entry of a table of contents. -/
def entrySize : Nat := 12

/-- What a line of a table of contents is made for. -/
inductive Item where
  /-- A picture, whose chunk belongs to the file. -/
  | picture (content : Picture)
  /-- An entry of another type, as it stands. -/
  | other (entry : Entry)
  deriving DecidableEq, Repr

/-- The picture of an item, if it has one. -/
def Item.picture? : Item → Option Picture
  | .picture content => some content
  | .other _ => none

/-- The table of items whose chunks lie one after the other from `position` on. -/
def tableFrom (position : Nat) : List Item → List Entry
  | [] => []
  | .picture content :: later =>
    ⟨imageKind, content.nominal, .ofNat position⟩ ::
      tableFrom (position + (pictureBytes content).length) later
  | .other entry :: later => entry :: tableFrom position later

/-- The header of a file whose table has `count` entries. -/
def headerBytes (count : Nat) : List UInt8 :=
  magic ++ wordsBytes [.ofNat headerSize, 0x00010000, .ofNat count]

/-- **A file of items**: the header, the table right after it, and the chunks in order. -/
def encodeItems (items : List Item) : List UInt8 :=
  headerBytes items.length ++
    (tableFrom (headerSize + entrySize * items.length) items).flatMap entryBytes ++
    (items.filterMap Item.picture?).flatMap pictureBytes

/-- **A file of pictures** and nothing else. -/
def encode (pictures : List Picture) : List UInt8 := encodeItems (pictures.map .picture)

/-- A table has an entry for each item. -/
@[simp] theorem length_tableFrom (position : Nat) (items : List Item) :
    (tableFrom position items).length = items.length := by
  induction items generalizing position with
  | nil => rfl
  | cons item later ih => cases item <;> simp [tableFrom, ih]

/-- A word has four bytes. -/
@[simp] theorem length_wordBytes (word : UInt32) : (wordBytes word).length = 4 := rfl

/-- Reading the bytes of a word gives the word. -/
@[simp] theorem word?_wordBytes (word : UInt32) (rest : List UInt8) :
    word? (wordBytes word ++ rest) = some (word, rest) := by
  simp only [wordBytes, List.cons_append, List.nil_append, word?, Option.some.injEq,
    Prod.mk.injEq, and_true]
  apply UInt32.toNat_inj.1
  have bound := word.toNat_lt
  simp only [UInt32.toNat_ofNat', UInt8.toNat_ofNat']
  omega

end CursorThemes.Xcursor
