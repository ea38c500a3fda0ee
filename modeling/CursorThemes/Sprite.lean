import CursorThemes.Error
import CursorThemes.Host

/-! # Sprites

What a theme is made of before anything is stored: a sprite is a named row of frames, as a loader
hands it out. `Frame.storedLength` says how many bytes a frame takes up in a pool, and what is wrong
with a frame that cannot be stored. -/

namespace CursorThemes

/-- One picture of a cursor, with its pixels row by row. -/
structure Frame where
  /-- The number of columns. -/
  width : UInt32
  /-- The number of rows. -/
  height : UInt32
  /-- The column of the point that the cursor points with. -/
  hotspotX : UInt32
  /-- The row of the point that the cursor points with. -/
  hotspotY : UInt32
  /-- How long the frame is shown, in milliseconds. -/
  delay : UInt32
  /-- The bytes of the pixels. -/
  pixels : List UInt8
  deriving DecidableEq, Repr

/-- A cursor as a loader hands it out. -/
structure Sprite where
  /-- The name of the cursor. -/
  name : String
  /-- The frames, in the order they are shown. -/
  frames : List Frame
  deriving DecidableEq, Repr

namespace Frame

/-- An opaque frame of one pixel, which is a shade of grey. -/
def dot (shade : UInt8) : Frame := ⟨1, 1, 0, 0, 0, [shade, shade, shade, 255]⟩

/-- The number of bytes that the dimensions of a frame call for. -/
def pixelLength (frame : Frame) : Nat :=
  frame.width.toNat * frame.height.toNat * bytesPerPixel

/-- Whether a frame can be announced: the bytes of one row, and of all rows, must fit into a signed
32-bit word. -/
def isAnnounceable (frame : Frame) : Bool :=
  decide (frame.width.toNat ≤ maxPoolSize / bytesPerPixel) &&
    decide (frame.pixelLength ≤ maxPoolSize)

/-- **The number of bytes a frame takes up in a pool.** A frame without pixels is refused before one
that is too large, and that before one whose pixels do not match its dimensions. -/
def storedLength (frame : Frame) : Except Defect Nat :=
  if frame.width = 0 ∨ frame.height = 0 then .error (.emptyFrame frame.width frame.height)
  else if !frame.isAnnounceable then .error (.oversizedFrame frame.width frame.height)
  else if frame.pixels.length ≠ frame.pixelLength then
    .error (.wrongLength frame.width frame.height frame.pixels.length frame.pixelLength)
  else .ok frame.pixelLength

end Frame

end CursorThemes
