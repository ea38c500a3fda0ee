import CursorThemes.Animation
import CursorThemes.Pool.Basic
import CursorThemes.Sprite

/-! # Cursors in a pool

A cursor is a sprite whose frames were copied into a pool. Each of its images knows its place there
and, once it was asked for, the buffer that presents it.

* **`Cursor.store`** copies a sprite into a pool, frame by frame. If a frame cannot be stored, no
  cursor comes of it, but the bytes taken so far stay taken.
* **`Image.present`** makes the buffer of an image on first use.
* **`Cursor.shownAt`** picks the image for a time. -/

namespace CursorThemes

/-- A frame in a pool. -/
structure Image where
  /-- The number of columns. -/
  width : UInt32
  /-- The number of rows. -/
  height : UInt32
  /-- The column of the point that the cursor points with. -/
  hotspotX : UInt32
  /-- The row of the point that the cursor points with. -/
  hotspotY : UInt32
  /-- How long the image is shown, in milliseconds. -/
  delay : UInt32
  /-- The place of the pixels in the pool. -/
  place : Allocation
  /-- The pool. -/
  pool : Handle
  /-- The buffer that presents the image, once there is one. -/
  buffer : Option Handle
  deriving DecidableEq, Repr

namespace Image

/-- The image of a frame whose pixels are at a place in a pool. -/
def ofFrame (frame : Frame) (place : Allocation) (pool : Handle) : Image :=
  ⟨frame.width, frame.height, frame.hotspotX, frame.hotspotY, frame.delay, place, pool, none⟩

/-- The request for the buffer of an image. -/
def bufferRequest (image : Image) (id : Handle) : Request :=
  .createBuffer id image.pool (.ofNat image.place.offset) image.width.toInt32
    image.height.toInt32 (image.width.toInt32 * 4)

/-- **The buffer of an image**, which is made on first use. -/
def present (image : Image) (host : Host) : Handle × Image × Host :=
  match image.buffer with
  | some buffer => (buffer, image, host)
  | none =>
    let (buffer, host) := host.acquire image.bufferRequest
    (buffer, { image with buffer := some buffer }, host)

/-- The end of an image: its buffer is given up, if it has one, and then it lets go of the pool. -/
def destroy (image : Image) (host : Host) : Host :=
  match image.buffer with
  | some buffer => (host.send (.destroyBuffer buffer)).release image.pool
  | none => host.release image.pool

end Image

/-- **A named cursor.** It has several images when it is animated. -/
structure Cursor where
  /-- The name of the cursor. -/
  name : String
  /-- The images, in the order they are shown. -/
  images : List Image
  /-- The length of one loop, in milliseconds. -/
  totalDelay : UInt32
  deriving DecidableEq, Repr

namespace Cursor

/-- The image up at a time after the cursor appeared, and for how long. -/
def shownAt (cursor : Cursor) (elapsed : UInt32) : Shown :=
  Animation.select (cursor.images.map Image.delay) cursor.totalDelay elapsed

/-- Copies one frame of the cursor `name` into a pool, which the image then holds. -/
def storeFrame (pool : Pool) (name : String) (frame : Frame) (fault : Option SystemCall)
    (host : Host) : Except CursorError Image × Pool × Host :=
  match frame.storedLength with
  | .error defect => (.error (.malformed name defect), pool, host)
  | .ok length =>
    match pool.allocate length fault host with
    | (.error error, pool, host) => (.error error, pool, host)
    | (.ok place, pool, host) =>
      match pool.store? place 0 frame.pixels with
      | none => (.error (.malformed name .outsidePool), pool, host)
      | some (_, pool) => (.ok (.ofFrame frame place pool.handle), pool, host.hold pool.handle)

/-- Copies frames of the cursor `name` into a pool, in order and up to the first that cannot be
stored, which ends the images before it. `faults i` is the system call that fails while frame `i` is
stored. -/
def storeFrames (pool : Pool) (name : String) (faults : Nat → Option SystemCall) (host : Host) :
    List Frame → Except CursorError (List Image) × Pool × Host
  | [] => (.ok [], pool, host)
  | frame :: later =>
    match storeFrame pool name frame (faults 0) host with
    | (.error error, pool, host) => (.error error, pool, host)
    | (.ok image, pool, host) =>
      match storeFrames pool name (fun i => faults (i + 1)) host later with
      | (.error error, pool, host) => (.error error, pool, image.destroy host)
      | (.ok images, pool, host) => (.ok (image :: images), pool, host)

/-- **A sprite copied into a pool.** -/
def store (pool : Pool) (sprite : Sprite) (faults : Nat → Option SystemCall) (host : Host) :
    Except CursorError Cursor × Pool × Host :=
  if sprite.name.isEmpty then (.error (.malformed sprite.name .emptyName), pool, host)
  else if sprite.frames.isEmpty then (.error (.malformed sprite.name .noFrames), pool, host)
  else
    match storeFrames pool sprite.name faults host sprite.frames with
    | (.error error, pool, host) => (.error error, pool, host)
    | (.ok images, pool, host) =>
      (.ok ⟨sprite.name, images, Animation.loopLength (sprite.frames.map Frame.delay)⟩, pool, host)

/-- The end of a cursor: its images go in order. -/
def destroy (cursor : Cursor) (host : Host) : Host :=
  cursor.images.foldl (fun host image => image.destroy host) host

end Cursor

end CursorThemes
