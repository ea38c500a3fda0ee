import CursorThemes.Sprite

/-! # Drawn bitmaps

Small pictures drawn with one character for each cell, and what becomes of them by turning and
mirroring.

* **`Transform.apply`** says where a cell lands.
* **`Bitmap.placements`** lists every cell with the place where it lands and its colour, and
  **`Bitmap.rasterize`** paints them on a clear canvas. -/

namespace CursorThemes.Builtin

/-- The colours of a drawn bitmap. -/
inductive Colour where
  /-- Nothing is painted. -/
  | clear
  /-- The outline. -/
  | black
  /-- The filling. -/
  | white
  deriving DecidableEq, Repr

namespace Colour

/-- The colour that a character stands for. -/
def ofChar : Char → Colour
  | '#' => black
  | 'o' => white
  | _ => clear

/-- The pixel of a colour: alpha, red, green and blue from the highest byte down. -/
def argb : Colour → UInt32
  | clear => 0x00000000
  | black => 0xff000000
  | white => 0xffffffff

/-- The bytes of a colour, the lowest first. -/
def bytes (colour : Colour) : List UInt8 :=
  [colour.argb.toUInt8, (colour.argb >>> 8).toUInt8, (colour.argb >>> 16).toUInt8,
    (colour.argb >>> 24).toUInt8]

/-- A colour has the bytes of one pixel. -/
@[simp] theorem length_bytes (colour : Colour) : colour.bytes.length = bytesPerPixel := rfl

end Colour

/-- Ways to turn and mirror a bitmap. -/
inductive Transform where
  /-- As drawn. -/
  | identity
  /-- Left and right change places. -/
  | flipX
  /-- Top and bottom change places. -/
  | flipY
  /-- Half a turn. -/
  | flipXY
  /-- Columns become rows. -/
  | transpose
  /-- Columns become rows, and then top and bottom change places. -/
  | transposeFlipY
  deriving DecidableEq, Repr

namespace Transform

/-- Whether width and height change places. -/
def swapsAxes : Transform → Bool
  | transpose | transposeFlipY => true
  | identity | flipX | flipY | flipXY => false

/-- The dimensions of a bitmap of `width` by `height` cells after the transform. -/
def dimensions (transform : Transform) (width height : Nat) : Nat × Nat :=
  if transform.swapsAxes then (height, width) else (width, height)

/-- Where cell `(x, y)` of a bitmap of `width` by `height` cells lands. -/
def apply (transform : Transform) (width height x y : Nat) : Nat × Nat :=
  match transform with
  | identity => (x, y)
  | flipX => (width - 1 - x, y)
  | flipY => (x, height - 1 - y)
  | flipXY => (width - 1 - x, height - 1 - y)
  | transpose => (y, x)
  | transposeFlipY => (y, width - 1 - x)

end Transform

/-- A bitmap drawn with one character for each cell. -/
structure Bitmap where
  /-- The rows, from the top. -/
  rows : List (List Char)
  /-- The column and the row of the point that the cursor points with. -/
  hotspot : Nat × Nat
  deriving DecidableEq, Repr

namespace Bitmap

/-- The number of rows. -/
def height (bitmap : Bitmap) : Nat := bitmap.rows.length

/-- The number of cells of the first row. -/
def width (bitmap : Bitmap) : Nat := (bitmap.rows.head?.getD []).length

/-- Every cell of the bitmap: its column, its row and its colour. -/
def cells (bitmap : Bitmap) : List ((Nat × Nat) × Colour) :=
  bitmap.rows.zipIdx.flatMap fun (row, y) => row.zipIdx.map fun (c, x) => ((x, y), Colour.ofChar c)

/-- Every cell of the transformed bitmap: where it lands, and its colour. -/
def placements (bitmap : Bitmap) (transform : Transform) : List ((Nat × Nat) × Colour) :=
  bitmap.cells.map fun ((x, y), colour) =>
    (transform.apply bitmap.width bitmap.height x y, colour)

/-- Paints cells on a canvas of the given width, which has its cells row by row. -/
def paint (width : Nat) (canvas : List Colour) (cells : List ((Nat × Nat) × Colour)) :
    List Colour :=
  cells.foldl (fun canvas ((x, y), colour) => canvas.set (y * width + x) colour) canvas

/-- The colours of the transformed bitmap, row by row. -/
def colours (bitmap : Bitmap) (transform : Transform) : List Colour :=
  let (width, height) := transform.dimensions bitmap.width bitmap.height
  paint width (List.replicate (width * height) .clear) (bitmap.placements transform)

/-- **The frame of a transformed bitmap.** It never changes. -/
def rasterize (bitmap : Bitmap) (transform : Transform) : Frame :=
  let (width, height) := transform.dimensions bitmap.width bitmap.height
  let (hotspotX, hotspotY) :=
    transform.apply bitmap.width bitmap.height bitmap.hotspot.1 bitmap.hotspot.2
  { width := .ofNat width, height := .ofNat height
    hotspotX := .ofNat hotspotX, hotspotY := .ofNat hotspotY
    delay := 0
    pixels := (bitmap.colours transform).flatMap Colour.bytes }

/-- Painting does not change the size of the canvas. -/
@[simp] theorem length_paint (width : Nat) (canvas : List Colour)
    (cells : List ((Nat × Nat) × Colour)) : (paint width canvas cells).length = canvas.length := by
  unfold paint
  induction cells generalizing canvas with
  | nil => rfl
  | cons cell later ih => rw [List.foldl_cons, ih, List.length_set]

/-- A transformed bitmap has a colour for every cell of its dimensions. -/
theorem length_colours (bitmap : Bitmap) (transform : Transform) :
    (bitmap.colours transform).length
      = (transform.dimensions bitmap.width bitmap.height).1 *
        (transform.dimensions bitmap.width bitmap.height).2 := by
  simp [colours]

end Bitmap

end CursorThemes.Builtin
