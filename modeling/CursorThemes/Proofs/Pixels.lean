import CursorThemes.Proofs.Accounting
import CursorThemes.Proofs.History

/-! # Pixels stay

What a loader delivered can be read from the theme for as long as the theme is there, whatever else
was stored, ignored or abandoned around it and however often its pool grew.

* **`Session.DecodedAt`** says where a frame comes from, and **`Session.exists_frame_of_image?`**
  finds the frame of an image.
* **`Image.Keeps`** and **`Cursor.Keeps`** say that a theme has everything of a frame and of a
  sprite.
* **`Session.pixels_stay`** is the result, for a theme loaded into any session. -/

namespace CursorThemes

/-! ## Presenting does not matter -/

/-- An image shows what it showed before it was presented. -/
theorem Image.shows_unpresented_iff {pool : Pool} {image : Image} {frame : Frame} :
    image.unpresented.Shows pool frame ↔ image.Shows pool frame := by
  constructor
  · intro shown
    exact { shown with }
  · intro shown
    exact { shown with }

/-- A cursor shows what it showed before it was presented. -/
theorem Cursor.shows_unpresented_iff {pool : Pool} {cursor : Cursor} {sprite : Sprite} :
    cursor.unpresented.Shows pool sprite ↔ cursor.Shows pool sprite := by
  have images : List.Forall₂ (Image.Shows pool) cursor.unpresented.images sprite.frames
      ↔ List.Forall₂ (Image.Shows pool) cursor.images sprite.frames := by
    rw [Cursor.unpresented, List.forall₂_map_left_iff]
    simp only [Image.shows_unpresented_iff]
  constructor
  · intro shown
    exact ⟨shown.name, images.mp shown.images, shown.totalDelay⟩
  · intro shown
    exact ⟨shown.name, images.mpr shown.images, shown.totalDelay⟩

namespace Theme

/-- A theme follows the account that it followed before it was presented. -/
theorem follows_unpresented_iff {theme : Theme} {account : Account} :
    theme.unpresented.Follows account ↔ theme.Follows account := by
  have shows : List.Forall₂ (Cursor.Shows theme.pool) theme.unpresented.cursors account.stored
      ↔ List.Forall₂ (Cursor.Shows theme.pool) theme.cursors account.stored := by
    rw [unpresented, List.forall₂_map_left_iff]
    simp only [Cursor.shows_unpresented_iff]
  constructor
  · intro follows
    exact ⟨follows.meets, shows.mp follows.shows⟩
  · intro follows
    exact ⟨follows.meets, shows.mpr follows.shows⟩

/-- Two themes that differ in their buffers only follow the same accounts. -/
theorem Follows.of_unpresented_eq {theme other : Theme} {account : Account}
    (follows : theme.Follows account) (same : other.unpresented = theme.unpresented) :
    other.Follows account := by
  rw [← follows_unpresented_iff, same, follows_unpresented_iff]
  exact follows

end Theme

/-! ## Where the frames come from -/

/-- An image of a theme that follows an account shows a frame of a stored sprite. -/
theorem Theme.Follows.shows_frame {theme : Theme} {account : Account}
    (follows : theme.Follows account) {i j : Nat} {image : Image}
    (found : theme.image? i j = some image) :
    ∃ sprite frame, sprite ∈ account.stored ∧ sprite.frames[j]? = some frame ∧
      image.Shows theme.pool frame := by
  obtain ⟨cursor, atRow, atColumn⟩ := Theme.image?_eq_some_iff.mp found
  obtain ⟨row, rfl⟩ := List.getElem?_eq_some_iff.mp atRow
  obtain ⟨column, rfl⟩ := List.getElem?_eq_some_iff.mp atColumn
  have storedRow : i < account.stored.length := follows.shows.length_eq ▸ row
  have shown := follows.shows.get row storedRow
  have framesColumn : j < account.stored[i].frames.length := shown.images.length_eq ▸ column
  exact ⟨account.stored[i], account.stored[i].frames[j], List.getElem_mem storedRow,
    List.getElem?_eq_getElem framesColumn, shown.images.get column framesColumn⟩

namespace Session

/-- **A frame was decoded for a place**: it is frame `j` of a sprite that the loader of the theme at
the place had, or of a built-in one. The theme is that of the last load into the place. -/
def DecodedAt (actions : List Action) (place j : Nat) (frame : Frame) : Prop :=
  ∃ before name size loader trouble after sprite,
    actions = before ++ .load place name size loader trouble :: after ∧
    (∀ action ∈ after, action.Spares place) ∧
    (sprite ∈ Theme.offered loader name size ∨ sprite ∈ Builtin.sprites) ∧
    sprite.frames[j]? = some frame

/-- **Every image of a session shows a frame that was decoded** for its place. -/
theorem exists_frame_of_image? {actions : List Action} {place i j : Nat} {theme : Theme}
    {image : Image} (there : (run {} actions).themes place = some theme)
    (found : theme.image? i j = some image) :
    ∃ frame, DecodedAt actions place j frame ∧ image.Shows theme.pool frame := by
  obtain ⟨before, name, size, loader, trouble, after, loaded, rfl, spared, outcome, same⟩ :=
    exists_load_of_themes there
  obtain ⟨follows, -, -⟩ := Theme.load_follows outcome
  obtain ⟨sprite, frame, stored, atColumn, shown⟩ :=
    (follows.of_unpresented_eq same).shows_frame found
  refine ⟨frame, ⟨before, name, size, loader, trouble, after, sprite, rfl, spared, ?_, atColumn⟩,
    shown⟩
  rcases Account.sublist_stored_orBuiltins size trouble.storing trouble.fallback
    (Theme.offered loader name size) with ofLoader | ofBuiltins
  · exact Or.inl (ofLoader.subset stored)
  · exact Or.inr (ofBuiltins.subset stored)

end Session

/-! ## What a theme keeps -/

/-- **An image of a theme keeps a frame.** It has the dimensions, the hotspot and the delay of the
frame, and the theme has exactly the pixels of the frame for it, in memory that is mapped to a file
that is long enough. -/
structure Image.Keeps (theme : Theme) (image : Image) (frame : Frame) : Prop where
  /-- The width is that of the frame. -/
  width : image.width = frame.width
  /-- The height is that of the frame. -/
  height : image.height = frame.height
  /-- The hotspot is in the same column. -/
  hotspotX : image.hotspotX = frame.hotspotX
  /-- The hotspot is in the same row. -/
  hotspotY : image.hotspotY = frame.hotspotY
  /-- The delay is that of the frame. -/
  delay : image.delay = frame.delay
  /-- The pixels are those of the frame. -/
  pixels : theme.pixels? image = some frame.pixels
  /-- The pixels are in mapped memory. -/
  mapped : image.place.stop ≤ theme.pool.mapped
  /-- There is a file behind the memory. -/
  backed : theme.pool.mapped ≤ theme.pool.backing.length

/-- **A cursor of a theme keeps a sprite.** It has an image for every frame, in order, and its loop
is as long as all delays together, cut at the largest word. -/
structure Cursor.Keeps (theme : Theme) (cursor : Cursor) (sprite : Sprite) : Prop where
  /-- The name is that of the sprite. -/
  name : cursor.name = sprite.name
  /-- There are as many images as frames. -/
  length : cursor.images.length = sprite.frames.length
  /-- Every image keeps its frame. -/
  images : ∀ (i : Nat) (image : Image) (frame : Frame), cursor.images[i]? = some image →
    sprite.frames[i]? = some frame → image.Keeps theme frame
  /-- The loop is as long as all delays together. -/
  totalDelay : cursor.totalDelay.toNat
    = min (Animation.total (sprite.frames.map Frame.delay)) (UInt32.size - 1)

/-- What an image shows is kept, if the sizes of the pool agree. -/
theorem Image.keeps_of_shows {theme : Theme} (sized : theme.pool.Sized) {image : Image}
    {frame : Frame} (shown : image.Shows theme.pool frame) : image.Keeps theme frame := by
  have mapped : image.place.stop ≤ theme.pool.mapped := by
    rw [sized.mapped_eq]
    exact le_trans shown.inside sized.used_le
  have backed : theme.pool.mapped ≤ theme.pool.backing.length := by
    rw [sized.mapped_eq]
    exact sized.capacity_le_length
  exact ⟨shown.width, shown.height, shown.hotspotX, shown.hotspotY, shown.delay, shown.pixels, mapped,
    backed⟩

/-- What a cursor shows is kept, if the sizes of the pool agree. -/
theorem Cursor.keeps_of_shows {theme : Theme} (sized : theme.pool.Sized) {cursor : Cursor}
    {sprite : Sprite} (shown : cursor.Shows theme.pool sprite) : cursor.Keeps theme sprite := by
  refine ⟨shown.name, shown.images.length_eq, ?_, ?_⟩
  · intro i image frame atImages atFrames
    obtain ⟨row, rfl⟩ := List.getElem?_eq_some_iff.mp atImages
    obtain ⟨column, rfl⟩ := List.getElem?_eq_some_iff.mp atFrames
    exact Image.keeps_of_shows sized (shown.images.get row column)
  · rw [shown.totalDelay, Animation.toNat_loopLength]

/-! ## Pixels stay for the life of a theme -/

namespace Session

/-- **Pixels stay.** Let a theme be loaded into a place of a session, from any loader and with any
system calls failing, and let anything happen afterwards that leaves the theme there. Then the theme
has a cursor for each of a part of the sprites that the loader had, or of the built-in ones, in
their order, and every cursor keeps its sprite. But for buffers the theme is the one that was
loaded. -/
theorem pixels_stay (session : Session) (place : Nat) (name : Option String) (size : UInt32)
    (loader : Loader) (trouble : Trouble) {theme : Theme}
    (loaded : (session.load place name size loader trouble).1.outcome = .ok theme)
    {actions : List Action} (spared : ∀ action ∈ actions, action.Spares place) :
    ∃ now stored,
      ((session.load place name size loader trouble).2.run actions).themes place = some now ∧
      now.unpresented = theme.unpresented ∧
      (stored.Sublist (Theme.offered loader name size) ∨ stored.Sublist Builtin.sprites) ∧
      List.Forall₂ (Cursor.Keeps now) now.cursors stored := by
  have outcome : (Theme.load name size loader trouble (session.drop place).host).outcome
      = .ok theme := loaded
  have there : (session.load place name size loader trouble).2.themes place = some theme := by
    have settled : (session.load place name size loader trouble).2.themes place
        = (Theme.load name size loader trouble (session.drop place).host).outcome.toOption :=
      themes_settle_self _ _ _ _
    rw [settled, outcome]
    rfl
  -- what has happened since the load can only have added buffers
  have same := themes_run_of_spares (session.load place name size loader trouble).2 spared
  rw [there, Option.map_some] at same
  obtain ⟨now, present, unchanged⟩ := Option.map_eq_some_iff.mp same
  obtain ⟨follows, -, -⟩ := Theme.load_follows outcome
  have kept := follows.of_unpresented_eq unchanged
  refine ⟨now, _, present, unchanged,
    Account.sublist_stored_orBuiltins size trouble.storing trouble.fallback _, ?_⟩
  exact kept.shows.imp fun _ _ => Cursor.keeps_of_shows kept.meets.sized

/-- Two cursors are loaded, of which the second is abandoned when the pool cannot grow. Then an
image of the first is presented, and another theme comes and goes. -/
theorem pixels_stay_beside_other_theme :
    let loader : Loader := fun _ _ =>
      .ofSprites [⟨"a", [.dot 1, .dot 2]⟩, ⟨"b", [.dot 3, .dot 4]⟩]
    let trouble : Trouble :=
      { storing := fun i _ => if i = 1 then some (.mapFile .outOfMemory) else none }
    let actions : List Action := [.present 0 0 1, .load 1 none 1 loader {}, .drop 1]
    let loading := load {} 0 (some "t") 1 loader trouble
    loading.1.outcome.toOption.isSome = true ∧ (∀ action ∈ actions, action.Spares 0) ∧
      ∃ now stored, (loading.2.run actions).themes 0 = some now ∧
        now.cursors.map Cursor.name = ["a"] ∧
        List.Forall₂ (Cursor.Keeps now) now.cursors stored := by
  intro loader trouble actions loading
  have spared : ∀ action ∈ actions, action.Spares 0 := by decide
  obtain ⟨now, stored, there, -, -, kept⟩ :=
    pixels_stay {} 0 (some "t") 1 loader trouble rfl spared
  have names : ((loading.2.run actions).themes 0).map (fun theme => theme.cursors.map Cursor.name)
      = some ["a"] := by decide
  rw [there, Option.map_some, Option.some.injEq] at names
  exact ⟨by decide, spared, now, stored, there, names, kept⟩

end Session

end CursorThemes
