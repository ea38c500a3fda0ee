import CursorThemes.Cursor

/-! # Themes

A theme is a list of cursors of one pixel size, no two of one name, together with the pool that
holds their pixels.

* **`Theme.add`** stores a sprite as a further cursor, or tells why it does not.
* **`Theme.find?`** and **`Theme.cursor`** look a cursor up by its name.
* **`Theme.present?`** makes the buffer of an image, and **`Theme.destroy`** gives all buffers up,
  and then the pool. -/

namespace CursorThemes

/-- **A cursor theme in shared memory.** -/
structure Theme where
  /-- The name of the theme. -/
  name : String
  /-- The pixel size that was asked for. -/
  size : UInt32
  /-- The cursors, in the order they were stored. -/
  cursors : List Cursor
  /-- The pool with the pixels of all images. -/
  pool : Pool
  deriving DecidableEq, Repr

namespace Theme

/-- The name of the theme that is meant when none is named. -/
def standardName : String := "default"

/-- The cursor of a name, if there is one. -/
def find? (theme : Theme) (name : String) : Option Cursor :=
  theme.cursors.find? (·.name == name)

/-- The position of the cursor of a name, if there is one. -/
def position? (theme : Theme) (name : String) : Option Nat :=
  theme.cursors.findIdx? (·.name == name)

/-- The cursor of a name, which has to be there. -/
def cursor (theme : Theme) (name : String) : Except CursorError Cursor :=
  match theme.find? name with
  | some cursor => .ok cursor
  | none => .error (.notFound name)

/-- The pixels of an image, as the service reads them. An image of another theme stands for its
place. -/
def pixels? (theme : Theme) (image : Image) : Option (List UInt8) :=
  theme.pool.bytes? image.place

/-- **The theme with a further sprite**, which is ignored if its name is taken and dropped if it
cannot be stored. `faults i` is the system call that fails while frame `i` is stored. -/
def add (theme : Theme) (sprite : Sprite) (faults : Nat → Option SystemCall) (host : Host) :
    Theme × Host :=
  if (theme.find? sprite.name).isSome then (theme, host.log (.duplicateIgnored sprite.name))
  else
    match Cursor.store theme.pool sprite faults host with
    | (.ok cursor, pool, host) => ({ theme with cursors := theme.cursors ++ [cursor], pool }, host)
    | (.error error, pool, host) =>
      ({ theme with pool }, host.log (.cursorDropped sprite.name error))

/-- The buffer of image `j` of cursor `i`, if there is such an image. -/
def present? (theme : Theme) (i j : Nat) (host : Host) : Option (Handle × Theme × Host) :=
  match theme.cursors[i]? with
  | none => none
  | some cursor =>
    match cursor.images[j]? with
    | none => none
    | some image =>
      let (buffer, image, host) := image.present host
      let cursor := { cursor with images := cursor.images.set j image }
      some (buffer, { theme with cursors := theme.cursors.set i cursor }, host)

/-- The end of a theme: its cursors go before its pool. -/
def destroy (theme : Theme) (host : Host) : Host :=
  theme.pool.destroy (theme.cursors.foldl (fun host cursor => cursor.destroy host) host)

/-- A cursor that is found has the name. -/
theorem name_of_find? {theme : Theme} {name : String} {cursor : Cursor}
    (h : theme.find? name = some cursor) : cursor.name = name := by
  simpa using List.find?_some h

/-- A cursor that is found belongs to the theme. -/
theorem mem_of_find? {theme : Theme} {name : String} {cursor : Cursor}
    (h : theme.find? name = some cursor) : cursor ∈ theme.cursors :=
  List.mem_of_find?_eq_some h

end Theme

end CursorThemes
