import CursorThemes.Builtin.Bitmap
import CursorThemes.Xcursor.File
import Mathlib.Data.List.Nodup
import Mathlib.Data.Set.Function
import Mathlib.Order.Interval.Set.Defs

/-! # Rasterising permutes the cells of a bitmap

A bitmap is turned by sending each of its cells to a cell of the canvas. No cell of the canvas is
missed, and none is painted twice; nothing is painted beside the canvas.

* **`Transform.bijOn_apply`** says that a transform maps the cells of a bitmap one to one onto those of
  the turned one, and **`Builtin.bijOn_index`** that these are the positions of the canvas.
* **`Bitmap.getElem?_paint_of_mem`** says that what was painted once is there in the end.
* **`Bitmap.rasterize_permutes`** is the result. -/

namespace CursorThemes

/-- The pixel of a frame at a column and a row, if the frame has it: the word in four of its bytes. -/
def Frame.pixel? (frame : Frame) (cell : Nat × Nat) : Option UInt32 :=
  if cell.1 < frame.width.toNat ∧ cell.2 < frame.height.toNat then
    (Xcursor.word? (frame.pixels.drop
      ((cell.2 * frame.width.toNat + cell.1) * bytesPerPixel))).map Prod.fst
  else none

namespace Builtin

/-! ## Cells of rectangles -/

/-- **The cells of a rectangle** with the given sides: column and row. -/
def rectangle (sides : Nat × Nat) : Set (Nat × Nat) := {cell | cell.1 < sides.1 ∧ cell.2 < sides.2}

/-- A cell of a rectangle is within both sides. -/
@[simp] theorem mem_rectangle {cell sides : Nat × Nat} :
    cell ∈ rectangle sides ↔ cell.1 < sides.1 ∧ cell.2 < sides.2 := Iff.rfl

/-- The position of a cell on a canvas with the given number of columns, which has its cells row by
row. -/
def index (columns : Nat) (cell : Nat × Nat) : Nat := cell.2 * columns + cell.1

/-- **The positions of a canvas** are those of its cells. -/
theorem bijOn_index (sides : Nat × Nat) :
    Set.BijOn (index sides.1) (rectangle sides) (Set.Iio (sides.1 * sides.2)) := by
  refine ⟨?_, ?_, ?_⟩
  · rintro ⟨x, y⟩ ⟨inRow, inColumn⟩
    calc
      y * sides.1 + x < (y + 1) * sides.1 := by rw [Nat.succ_mul]; exact Nat.add_lt_add_left inRow _
      _ ≤ sides.2 * sides.1 := Nat.mul_le_mul_right sides.1 inColumn
      _ = sides.1 * sides.2 := Nat.mul_comm _ _
  · rintro ⟨x, y⟩ ⟨inRow, -⟩ ⟨u, v⟩ ⟨inOther, -⟩ same
    -- the column is what is left over by the rows before it
    have column : x = u := by
      have left := congrArg (· % sides.1) same
      simpa only [index, Nat.mul_add_mod_of_lt inRow, Nat.mul_add_mod_of_lt inOther] using left
    have rows : y * sides.1 = v * sides.1 := by
      rw [index, index, column] at same
      exact Nat.add_right_cancel same
    rw [column, Nat.eq_of_mul_eq_mul_right (Nat.zero_lt_of_lt inRow) rows]
  · intro position inside
    have wide : 0 < sides.1 := Nat.pos_of_mul_pos_right (Nat.zero_lt_of_lt inside)
    exact ⟨(position % sides.1, position / sides.1),
      ⟨Nat.mod_lt position wide, Nat.div_lt_of_lt_mul inside⟩, Nat.div_add_mod' position sides.1⟩

namespace Transform

variable (transform : Transform) {width height x y : Nat}

/-- Turning a bitmap may exchange its sides, and keeps their product. -/
theorem mul_dimensions (width height : Nat) :
    (transform.dimensions width height).1 * (transform.dimensions width height).2
      = width * height := by
  unfold dimensions
  split
  · exact Nat.mul_comm height width
  · rfl

/-- A cell of a bitmap lands within the sides of the turned bitmap. -/
theorem apply_mem_rectangle (inRow : x < width) (inColumn : y < height) :
    transform.apply width height x y ∈ rectangle (transform.dimensions width height) := by
  cases transform <;>
    simp only [apply, dimensions, swapsAxes, mem_rectangle, Bool.false_eq_true, if_false, if_true] <;>
    omega

/-- Where a cell of the turned bitmap comes from. -/
def origin (transform : Transform) (width height : Nat) (cell : Nat × Nat) : Nat × Nat :=
  match transform with
  | identity => cell
  | flipX => (width - 1 - cell.1, cell.2)
  | flipY => (cell.1, height - 1 - cell.2)
  | flipXY => (width - 1 - cell.1, height - 1 - cell.2)
  | transpose => (cell.2, cell.1)
  | transposeFlipY => (width - 1 - cell.2, cell.1)

/-- A cell of the turned bitmap comes from one of the bitmap. -/
theorem origin_mem_rectangle {cell : Nat × Nat}
    (inside : cell ∈ rectangle (transform.dimensions width height)) :
    transform.origin width height cell ∈ rectangle (width, height) := by
  cases transform <;>
    simp only [origin, dimensions, swapsAxes, mem_rectangle, Bool.false_eq_true, if_false, if_true]
      at inside ⊢ <;>
    omega

/-- A cell comes from where it was before. -/
theorem origin_apply (inRow : x < width) (inColumn : y < height) :
    transform.origin width height (transform.apply width height x y) = (x, y) := by
  cases transform <;> simp only [origin, apply, Prod.mk.injEq, true_and, and_true] <;> omega

/-- A cell lands where it comes from. -/
theorem apply_origin {cell : Nat × Nat}
    (inside : cell ∈ rectangle (transform.dimensions width height)) :
    transform.apply width height (transform.origin width height cell).1
      (transform.origin width height cell).2 = cell := by
  obtain ⟨column, row⟩ := cell
  cases transform <;>
    simp only [origin, apply, dimensions, swapsAxes, mem_rectangle, Bool.false_eq_true, if_false,
      if_true, Prod.mk.injEq, true_and, and_true] at inside ⊢ <;>
    omega

/-- **A transform maps the cells of a bitmap one to one** onto those of the turned bitmap. -/
theorem bijOn_apply (width height : Nat) :
    Set.BijOn (Function.uncurry (transform.apply width height)) (rectangle (width, height))
      (rectangle (transform.dimensions width height)) := by
  have inverse : Set.InvOn (transform.origin width height)
      (Function.uncurry (transform.apply width height)) (rectangle (width, height))
      (rectangle (transform.dimensions width height)) :=
    ⟨fun _ inside => transform.origin_apply inside.1 inside.2,
      fun _ inside => transform.apply_origin inside⟩
  exact inverse.bijOn (fun _ inside => transform.apply_mem_rectangle inside.1 inside.2)
    fun _ inside => transform.origin_mem_rectangle inside

end Transform

/-! ## Bytes of colours -/

namespace Colour

/-- The bytes of colours are four times as many. -/
theorem length_flatMap_bytes (colours : List Colour) :
    (colours.flatMap bytes).length = colours.length * bytesPerPixel := by
  induction colours with
  | nil => rfl
  | cons colour later ih =>
    rw [List.flatMap_cons, List.length_append, ih, length_bytes, List.length_cons,
      Nat.succ_mul, Nat.add_comm]

/-- The bytes of a colour are those of its pixel, the lowest first. -/
theorem word?_bytes (colour : Colour) (rest : List UInt8) :
    Xcursor.word? (colour.bytes ++ rest) = some (colour.argb, rest) := by
  cases colour <;> rfl

/-- Four times as many bytes are left out with the colours they belong to. -/
theorem drop_flatMap_bytes (colours : List Colour) (position : Nat) :
    (colours.flatMap bytes).drop (position * bytesPerPixel)
      = (colours.drop position).flatMap bytes := by
  induction colours generalizing position with
  | nil => simp
  | cons colour later ih =>
    cases position with
    | zero => rw [Nat.zero_mul, List.drop_zero, List.drop_zero]
    | succ position =>
      rw [List.flatMap_cons, Nat.succ_mul, Nat.add_comm, ← List.drop_drop, List.drop_succ_cons, ← ih,
        ← colour.length_bytes, List.drop_left]

/-- The word at the bytes of a colour is its pixel. -/
theorem word?_drop_flatMap_bytes (colours : List Colour) (position : Nat) :
    (Xcursor.word? ((colours.flatMap bytes).drop (position * bytesPerPixel))).map Prod.fst
      = colours[position]?.map argb := by
  rw [drop_flatMap_bytes]
  cases rest : colours.drop position with
  | nil =>
    rw [List.getElem?_eq_none (List.drop_eq_nil_iff.mp rest)]
    rfl
  | cons colour later =>
    rw [List.flatMap_cons, word?_bytes, ← List.head?_drop, rest]
    rfl

end Colour

namespace Bitmap

variable {bitmap : Bitmap} {transform : Transform}

/-! ## Cells of a bitmap -/

/-- **A rectangular bitmap**: its rows are as long as the first one. -/
def IsRectangular (bitmap : Bitmap) : Prop := ∀ row ∈ bitmap.rows, row.length = bitmap.width

/-- The colour of a cell, if the bitmap has it. -/
def cell? (bitmap : Bitmap) (cell : Nat × Nat) : Option Colour :=
  (bitmap.rows[cell.2]?.bind (·[cell.1]?)).map Colour.ofChar

/-- The cells of a bitmap are listed with their colours. -/
theorem mem_cells_iff {cell : Nat × Nat} {colour : Colour} :
    (cell, colour) ∈ bitmap.cells ↔ bitmap.cell? cell = some colour := by
  obtain ⟨x, y⟩ := cell
  simp only [cells, cell?, List.mem_flatMap, List.mem_map, List.mem_zipIdx_iff_getElem?,
    Option.map_eq_some_iff, Option.bind_eq_some_iff]
  constructor
  · rintro ⟨⟨row, _⟩, here, ⟨c, _⟩, there, same⟩
    cases same
    exact ⟨c, ⟨row, here, there⟩, rfl⟩
  · rintro ⟨c, ⟨row, here, there⟩, rfl⟩
    exact ⟨(row, y), here, (c, x), there, rfl⟩

/-- A rectangular bitmap has the cells of a rectangle. -/
theorem exists_cell?_iff (rectangular : bitmap.IsRectangular) {cell : Nat × Nat} :
    (∃ colour, bitmap.cell? cell = some colour) ↔ cell ∈ rectangle (bitmap.width, bitmap.height) := by
  simp only [cell?, Option.map_eq_some_iff, Option.bind_eq_some_iff, mem_rectangle]
  constructor
  · rintro ⟨_, c, ⟨row, here, there⟩, rfl⟩
    obtain ⟨inColumn, -⟩ := List.getElem?_eq_some_iff.mp here
    obtain ⟨inRow, -⟩ := List.getElem?_eq_some_iff.mp there
    rw [rectangular row (List.mem_of_getElem? here)] at inRow
    exact ⟨inRow, inColumn⟩
  · rintro ⟨inRow, inColumn⟩
    have here : bitmap.rows[cell.2]? = some bitmap.rows[cell.2] := List.getElem?_eq_getElem inColumn
    rw [← rectangular _ (List.mem_of_getElem? here)] at inRow
    exact ⟨_, _, ⟨_, here, List.getElem?_eq_getElem inRow⟩, rfl⟩

/-- **No cell is listed twice.** -/
theorem nodup_map_fst_cells (bitmap : Bitmap) : (bitmap.cells.map Prod.fst).Nodup := by
  have numbered {α : Type} (items : List α) : (items.zipIdx.map Prod.snd).Nodup := by
    rw [List.zipIdx_map_snd]
    exact List.nodup_range' 1
  rw [cells, List.map_flatMap, List.nodup_flatMap]
  constructor
  · -- cells of one row differ in their columns
    rintro ⟨row, y⟩ -
    refine List.Nodup.of_map Prod.fst ?_
    rw [List.map_map, List.map_map]
    exact numbered row
  · -- cells of different rows differ in their rows
    refine (List.pairwise_map.mp (numbered bitmap.rows)).imp ?_
    rintro ⟨row, y⟩ ⟨other, v⟩ apart cell here there
    obtain ⟨_, first, rfl⟩ := List.mem_map.mp here
    obtain ⟨_, second, same⟩ := List.mem_map.mp there
    obtain ⟨_, -, rfl⟩ := List.mem_map.mp first
    obtain ⟨_, -, rfl⟩ := List.mem_map.mp second
    exact apart (congrArg Prod.snd same).symm

/-! ## Painting -/

/-- Painting one more cell first. -/
theorem paint_cons (columns : Nat) (canvas : List Colour) (placement : (Nat × Nat) × Colour)
    (later : List ((Nat × Nat) × Colour)) :
    paint columns canvas (placement :: later)
      = paint columns (canvas.set (index columns placement.1) placement.2) later := rfl

/-- What is not painted stays as it is. -/
theorem getElem?_paint_of_forall_ne {columns position : Nat} {canvas : List Colour}
    {cells : List ((Nat × Nat) × Colour)}
    (apart : ∀ placement ∈ cells, index columns placement.1 ≠ position) :
    (paint columns canvas cells)[position]? = canvas[position]? := by
  induction cells generalizing canvas with
  | nil => rfl
  | cons placement later ih =>
    obtain ⟨other, rest⟩ := List.forall_mem_cons.mp apart
    rw [paint_cons, ih rest, List.getElem?_set_ne other]

/-- **What is painted once is there in the end.** -/
theorem getElem?_paint_of_mem {columns : Nat} {canvas : List Colour}
    {cells : List ((Nat × Nat) × Colour)} {cell : Nat × Nat} {colour : Colour}
    (once : (cells.map fun placement => index columns placement.1).Nodup)
    (member : (cell, colour) ∈ cells) (inside : index columns cell < canvas.length) :
    (paint columns canvas cells)[index columns cell]? = some colour := by
  -- the induction is on what is still to be painted, over whatever was painted before
  induction cells generalizing canvas with
  | nil => cases member
  | cons placement later ih =>
    obtain ⟨apart, rest⟩ := List.nodup_cons.mp once
    rw [paint_cons]
    rcases List.mem_cons.mp member with rfl | late
    · -- what is painted later lies elsewhere
      have elsewhere : ∀ other ∈ later, index columns other.1 ≠ index columns cell :=
        fun other listed same => apart (List.mem_map.mpr ⟨other, listed, same⟩)
      rw [getElem?_paint_of_forall_ne elsewhere, List.getElem?_set_self inside]
    · exact ih rest late (by rw [List.length_set]; exact inside)

/-- **Every position of the canvas is painted once**, and nothing else is. -/
theorem perm_index_placements (rectangular : bitmap.IsRectangular) (transform : Transform) :
    let sides := transform.dimensions bitmap.width bitmap.height
    ((bitmap.placements transform).map fun placement => index sides.1 placement.1).Perm
      (List.range (sides.1 * sides.2)) := by
  intro sides
  have bijective := (bijOn_index sides).comp (transform.bijOn_apply bitmap.width bitmap.height)
  have listed (cell : Nat × Nat) : cell ∈ bitmap.cells.map Prod.fst ↔
      cell ∈ rectangle (bitmap.width, bitmap.height) := by
    rw [← exists_cell?_iff rectangular, List.mem_map]
    constructor
    · rintro ⟨⟨_, colour⟩, member, rfl⟩
      exact ⟨colour, mem_cells_iff.mp member⟩
    · rintro ⟨colour, found⟩
      exact ⟨(cell, colour), mem_cells_iff.mpr found, rfl⟩
  have positions : ((bitmap.placements transform).map fun placement => index sides.1 placement.1)
      = (bitmap.cells.map Prod.fst).map
          (index sides.1 ∘ Function.uncurry (transform.apply bitmap.width bitmap.height)) := by
    rw [placements, List.map_map, List.map_map]
    rfl
  rw [positions]
  -- no position is in either list twice, so that they only have to have the same members
  refine (List.perm_ext_iff_of_nodup (List.Nodup.map_on ?_ bitmap.nodup_map_fst_cells)
    List.nodup_range).mpr fun position => ?_
  · intro cell member other also same
    exact bijective.injOn ((listed cell).mp member) ((listed other).mp also) same
  · rw [List.mem_map, List.mem_range]
    constructor
    · rintro ⟨cell, member, rfl⟩
      exact bijective.mapsTo ((listed cell).mp member)
    · intro inside
      obtain ⟨cell, member, lands⟩ := bijective.surjOn inside
      exact ⟨cell, (listed cell).mpr member, lands⟩

/-! ## Pixels of the frame -/

/-- **The sides of the frame** are those of the turned bitmap: they are not cut to 32 bits. -/
theorem sides_rasterize (wide : 0 < bitmap.width) (tall : 0 < bitmap.height)
    (small : bitmap.width * bitmap.height * bytesPerPixel < UInt32.size) (transform : Transform) :
    ((bitmap.rasterize transform).width.toNat, (bitmap.rasterize transform).height.toNat)
      = transform.dimensions bitmap.width bitmap.height := by
  have widthLe : bitmap.width ≤ bitmap.width * bitmap.height := Nat.le_mul_of_pos_right _ tall
  have heightLe : bitmap.height ≤ bitmap.width * bitmap.height := Nat.le_mul_of_pos_left _ wide
  have cells : bitmap.width * bitmap.height < UInt32.size :=
    Nat.lt_of_le_of_lt (Nat.le_mul_of_pos_right _ (by decide)) small
  have narrow := UInt32.toNat_ofNat_of_lt' (Nat.lt_of_le_of_lt widthLe cells)
  have low := UInt32.toNat_ofNat_of_lt' (Nat.lt_of_le_of_lt heightLe cells)
  cases turned : transform.swapsAxes <;>
    simp only [rasterize, Transform.dimensions, turned, if_true, if_false, Bool.false_eq_true, narrow,
      low]

/-- The frame has four bytes for each cell of the turned bitmap. -/
theorem length_pixels_rasterize (bitmap : Bitmap) (transform : Transform) :
    (bitmap.rasterize transform).pixels.length
      = (transform.dimensions bitmap.width bitmap.height).1 *
        (transform.dimensions bitmap.width bitmap.height).2 * bytesPerPixel := by
  rw [← bitmap.length_colours transform]
  exact Colour.length_flatMap_bytes _

/-- **The pixel where a cell lands** is that of the colour of the cell. -/
theorem pixel?_rasterize (rectangular : bitmap.IsRectangular) (wide : 0 < bitmap.width)
    (tall : 0 < bitmap.height)
    (small : bitmap.width * bitmap.height * bytesPerPixel < UInt32.size) (transform : Transform)
    {cell : Nat × Nat} {colour : Colour} (found : bitmap.cell? cell = some colour) :
    (bitmap.rasterize transform).pixel?
        (Function.uncurry (transform.apply bitmap.width bitmap.height) cell) = some colour.argb := by
  have inside := (exists_cell?_iff rectangular).mp ⟨colour, found⟩
  have lands := (transform.bijOn_apply bitmap.width bitmap.height).mapsTo inside
  have sides := sides_rasterize wide tall small transform
  have columns : (bitmap.rasterize transform).width.toNat
      = (transform.dimensions bitmap.width bitmap.height).1 := congrArg Prod.fst sides
  have rows : (bitmap.rasterize transform).height.toNat
      = (transform.dimensions bitmap.width bitmap.height).2 := congrArg Prod.snd sides
  have painted : (bitmap.colours transform)[index (transform.dimensions bitmap.width bitmap.height).1
      (Function.uncurry (transform.apply bitmap.width bitmap.height) cell)]? = some colour := by
    refine getElem?_paint_of_mem ?_ ?_ ?_
    · exact (perm_index_placements rectangular transform).nodup_iff.mpr List.nodup_range
    · exact List.mem_map.mpr ⟨(cell, colour), mem_cells_iff.mpr found, rfl⟩
    · rw [List.length_replicate]
      exact (bijOn_index _).mapsTo lands
  have bytes := Colour.word?_drop_flatMap_bytes (bitmap.colours transform)
    (index (transform.dimensions bitmap.width bitmap.height).1
      (Function.uncurry (transform.apply bitmap.width bitmap.height) cell))
  rw [painted] at bytes
  rw [Frame.pixel?, columns, rows, if_pos (mem_rectangle.mp lands)]
  exact bytes

/-- A point of the bitmap that is pointed with lands like a cell. -/
theorem hotspot_rasterize (wide : 0 < bitmap.width) (tall : 0 < bitmap.height)
    (small : bitmap.width * bitmap.height * bytesPerPixel < UInt32.size) (transform : Transform)
    (inside : bitmap.hotspot ∈ rectangle (bitmap.width, bitmap.height)) :
    ((bitmap.rasterize transform).hotspotX.toNat, (bitmap.rasterize transform).hotspotY.toNat)
      = Function.uncurry (transform.apply bitmap.width bitmap.height) bitmap.hotspot := by
  have lands := (transform.bijOn_apply bitmap.width bitmap.height).mapsTo inside
  rw [← sides_rasterize wide tall small transform] at lands
  have column := Nat.lt_trans lands.1 (UInt32.toNat_lt _)
  have row := Nat.lt_trans lands.2 (UInt32.toNat_lt _)
  exact Prod.ext (UInt32.toNat_ofNat_of_lt' column) (UInt32.toNat_ofNat_of_lt' row)

/-- **Rasterising permutes the cells of a bitmap.** For a rectangular bitmap with cells, whose pixels can
be counted in 32 bits, and for every transform: the frame has the sides of the bitmap, which change
places if the transform says so, and four bytes for each pixel. The transform maps the cells of the
bitmap one to one onto those of the frame. The positions that are painted are those of the frame,
each of them once and in no place beyond its bytes, and where a cell lands is the pixel of its
colour. A hotspot within the bitmap is one within the frame, on the pixel of the same cell. Half a
turn is one flip after the other, and the last transform is a transposition with a flip of what comes
out of it. -/
theorem rasterize_permutes {bitmap : Bitmap} (rectangular : bitmap.IsRectangular)
    (wide : 0 < bitmap.width) (tall : 0 < bitmap.height)
    (small : bitmap.width * bitmap.height * bytesPerPixel < UInt32.size) (transform : Transform) :
    let frame := bitmap.rasterize transform
    let sides := (frame.width.toNat, frame.height.toNat)
    let land := Function.uncurry (transform.apply bitmap.width bitmap.height)
    let positions := (bitmap.placements transform).map fun placement =>
      placement.1.2 * sides.1 + placement.1.1
    sides = (if transform.swapsAxes then (bitmap.height, bitmap.width)
      else (bitmap.width, bitmap.height)) ∧
    frame.pixels.length = sides.1 * sides.2 * bytesPerPixel ∧
    Set.BijOn land (rectangle (bitmap.width, bitmap.height)) (rectangle sides) ∧
    positions.Perm (List.range (sides.1 * sides.2)) ∧
    (∀ position ∈ positions, (position + 1) * bytesPerPixel ≤ frame.pixels.length) ∧
    (∀ cell ∈ rectangle (bitmap.width, bitmap.height), ∃ colour,
      bitmap.cell? cell = some colour ∧ frame.pixel? (land cell) = some colour.argb) ∧
    (bitmap.hotspot ∈ rectangle (bitmap.width, bitmap.height) →
      let hotspot := (frame.hotspotX.toNat, frame.hotspotY.toNat)
      hotspot = land bitmap.hotspot ∧ hotspot ∈ rectangle sides ∧ ∃ colour,
        bitmap.cell? bitmap.hotspot = some colour ∧ frame.pixel? hotspot = some colour.argb) ∧
    ∀ width height,
      Function.uncurry (Transform.flipXY.apply width height)
        = Function.uncurry (Transform.flipX.apply width height) ∘
          Function.uncurry (Transform.flipY.apply width height) ∧
      Function.uncurry (Transform.transposeFlipY.apply width height)
        = Function.uncurry (Transform.flipY.apply height width) ∘
          Function.uncurry (Transform.transpose.apply width height) := by
  intro frame sides land positions
  have dimensions : sides = transform.dimensions bitmap.width bitmap.height :=
    sides_rasterize wide tall small transform
  have bijective : Set.BijOn land (rectangle (bitmap.width, bitmap.height)) (rectangle sides) := by
    rw [dimensions]
    exact transform.bijOn_apply bitmap.width bitmap.height
  have length : frame.pixels.length = sides.1 * sides.2 * bytesPerPixel := by
    rw [dimensions]
    exact bitmap.length_pixels_rasterize transform
  have once : positions.Perm (List.range (sides.1 * sides.2)) := by
    have painted := perm_index_placements rectangular transform
    rw [← dimensions] at painted
    exact painted
  have coloured : ∀ cell ∈ rectangle (bitmap.width, bitmap.height), ∃ colour,
      bitmap.cell? cell = some colour ∧ frame.pixel? (land cell) = some colour.argb := by
    intro cell inside
    obtain ⟨colour, found⟩ := (exists_cell?_iff rectangular).mpr inside
    exact ⟨colour, found, pixel?_rasterize rectangular wide tall small transform found⟩
  refine ⟨dimensions, length, bijective, once, ?_, coloured, ?_, fun _ _ => ⟨rfl, rfl⟩⟩
  · intro position painted
    rw [length]
    exact Nat.mul_le_mul_right _ (List.mem_range.mp (once.mem_iff.mp painted))
  · intro inside hotspot
    have lands : hotspot = land bitmap.hotspot := hotspot_rasterize wide tall small transform inside
    rw [lands]
    exact ⟨rfl, bijective.mapsTo inside, coloured bitmap.hotspot inside⟩

/-- Two rows of three cells, the second of which is pointed with. -/
def oblong : Bitmap := ⟨[['#', 'o', '.'], ['.', '#', 'o']], (1, 0)⟩

/-- Two rows of three cells are turned into three rows of two. The cells of the first row are painted at
the left from the bottom up, and the white one is still pointed with. -/
theorem rasterize_permutes_of_oblong :
    let frame := oblong.rasterize .transposeFlipY
    oblong.IsRectangular ∧ 0 < oblong.width ∧ 0 < oblong.height ∧
      oblong.width * oblong.height * bytesPerPixel < UInt32.size ∧
      oblong.hotspot ∈ rectangle (oblong.width, oblong.height) ∧
      (frame.width.toNat, frame.height.toNat) = (2, 3) ∧ frame.pixels.length = 24 ∧
      [4, 2, 0, 5, 3, 1].Perm (List.range 6) ∧
      (frame.hotspotX.toNat, frame.hotspotY.toNat) = (0, 1) ∧
      frame.pixel? (frame.hotspotX.toNat, frame.hotspotY.toNat) = some 0xffffffff := by
  have rectangular : oblong.IsRectangular := by unfold IsRectangular; decide
  have inside : oblong.hotspot ∈ rectangle (oblong.width, oblong.height) := by
    rw [mem_rectangle]
    decide
  obtain ⟨sides, length, -, once, -, -, points, -⟩ :=
    rasterize_permutes rectangular (by decide) (by decide) (by decide) .transposeFlipY
  obtain ⟨lands, -, colour, found, pixel⟩ := points inside
  obtain rfl : Colour.white = colour := Option.some.inj found
  exact ⟨rectangular, by decide, by decide, by decide, inside, sides, length, once, lands, pixel⟩

end Bitmap

end Builtin

end CursorThemes
