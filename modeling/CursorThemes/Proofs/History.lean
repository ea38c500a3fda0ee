import CursorThemes.Proofs.Storing
import CursorThemes.Session
import Mathlib.Data.List.Induction

/-! # What happens in a session

Whatever actions a session sees, only three things happen to it: a theme is dropped, a theme is put
into a free place, and an image is given its buffer.

* **`Session.Lasting`** collects what a property of sessions has to survive, and
  **`Session.Lasting.run`** concludes that it holds after any number of actions.
* **`Session.exists_load_of_themes`** finds the load that a theme came from. Since then it was at
  most presented, and `Theme.unpresented` is the theme without the traces of that. -/

namespace CursorThemes

/-! ## One image of a theme -/

/-- A function does not see that one element is replaced by another one with the same value. -/
theorem map_set_of_eq {α β : Type} {f : α → β} {l : List α} {i : Nat} (inside : i < l.length) {a : α}
    (same : f a = f l[i]) : (l.set i a).map f = l.map f := by
  have mapped : i < (l.map f).length := by rwa [List.length_map]
  have there : f a = (l.map f)[i] := by rw [same, List.getElem_map]
  rw [List.map_set, there, List.set_getElem_self]

/-- What all elements of a list have, all have when one of them is replaced by another one that has
it. -/
theorem forall_mem_of_replaced {α : Type} {has : α → Prop} {front back : List α} {old new : α}
    (all : ∀ each ∈ front ++ old :: back, has each) (here : has new) :
    ∀ each ∈ front ++ new :: back, has each := by
  intro each member
  rw [List.mem_append, List.mem_cons] at member
  rcases member with first | rfl | last
  · exact all each (List.mem_append_left _ first)
  · exact here
  · exact all each (List.mem_append_right _ (List.mem_cons_of_mem _ last))

/-- The image as it was before it was presented. -/
def Image.unpresented (image : Image) : Image := { image with buffer := none }

/-- The cursor as it was before its images were presented. -/
def Cursor.unpresented (cursor : Cursor) : Cursor :=
  { cursor with images := cursor.images.map Image.unpresented }

namespace Theme

/-- The theme as it was before its images were presented. -/
def unpresented (theme : Theme) : Theme :=
  { theme with cursors := theme.cursors.map Cursor.unpresented }

/-- Image `j` of cursor `i`, if there is one. -/
def image? (theme : Theme) (i j : Nat) : Option Image :=
  theme.cursors[i]?.bind fun cursor => cursor.images[j]?

/-- The theme with another image as image `j` of cursor `i`, if there is such a cursor. -/
def putImage (theme : Theme) (i j : Nat) (image : Image) : Theme :=
  match theme.cursors[i]? with
  | none => theme
  | some cursor =>
    { theme with
      cursors := theme.cursors.set i { cursor with images := cursor.images.set j image } }

/-- Another image in a cursor that is there. -/
theorem putImage_of_getElem? {theme : Theme} {i : Nat} {cursor : Cursor}
    (found : theme.cursors[i]? = some cursor) (j : Nat) (image : Image) :
    theme.putImage i j image
      = { theme with
          cursors := theme.cursors.set i { cursor with images := cursor.images.set j image } } := by
  rw [putImage, found]

@[simp] theorem pool_putImage (theme : Theme) (i j : Nat) (image : Image) :
    (theme.putImage i j image).pool = theme.pool := by
  unfold putImage
  split <;> rfl

/-- An image that is there is image `j` of cursor `i`. -/
theorem image?_eq_some_iff {theme : Theme} {i j : Nat} {image : Image} :
    theme.image? i j = some image ↔
      ∃ cursor, theme.cursors[i]? = some cursor ∧ cursor.images[j]? = some image :=
  Option.bind_eq_some_iff

/-- An image that is there is one of the images. -/
theorem mem_images_of_image? {theme : Theme} {i j : Nat} {image : Image}
    (there : theme.image? i j = some image) : image ∈ theme.images := by
  obtain ⟨cursor, found, inCursor⟩ := image?_eq_some_iff.mp there
  exact List.mem_flatMap.mpr ⟨cursor, List.mem_of_getElem? found, List.mem_of_getElem? inCursor⟩

/-- Another image is where it was put, and nowhere else. -/
theorem image?_putImage {theme : Theme} {i j : Nat} {image : Image}
    (there : theme.image? i j = some image) (other : Image) (k l : Nat) :
    (theme.putImage i j other).image? k l
      = if i = k ∧ j = l then some other else theme.image? k l := by
  obtain ⟨cursor, found, inCursor⟩ := image?_eq_some_iff.mp there
  have row : i < theme.cursors.length := (List.getElem?_eq_some_iff.mp found).1
  have column : j < cursor.images.length := (List.getElem?_eq_some_iff.mp inCursor).1
  rw [putImage_of_getElem? found, image?, image?, List.getElem?_set]
  by_cases sameRow : i = k
  · subst sameRow
    rw [if_pos rfl, if_pos row, found, Option.bind_some, Option.bind_some, List.getElem?_set]
    by_cases sameColumn : j = l
    · rw [if_pos sameColumn, if_pos column, if_pos ⟨rfl, sameColumn⟩]
    · rw [if_neg sameColumn, if_neg fun both => sameColumn both.2]
  · rw [if_neg sameRow, if_neg fun both => sameRow both.1]

/-- Putting an image where it is changes nothing. -/
theorem putImage_self {theme : Theme} {i j : Nat} {image : Image}
    (there : theme.image? i j = some image) : theme.putImage i j image = theme := by
  obtain ⟨cursor, found, inCursor⟩ := image?_eq_some_iff.mp there
  obtain ⟨row, rfl⟩ := List.getElem?_eq_some_iff.mp found
  obtain ⟨column, rfl⟩ := List.getElem?_eq_some_iff.mp inCursor
  rw [putImage_of_getElem? found, List.set_getElem_self, List.set_getElem_self]

/-- An image that is there has images before it and behind it, which stay when it is replaced. -/
theorem exists_images_putImage {theme : Theme} {i j : Nat} {image : Image}
    (there : theme.image? i j = some image) :
    ∃ front back, theme.images = front ++ image :: back ∧
      ∀ other, (theme.putImage i j other).images = front ++ other :: back := by
  obtain ⟨cursor, found, inCursor⟩ := image?_eq_some_iff.mp there
  have row : i < theme.cursors.length := (List.getElem?_eq_some_iff.mp found).1
  have column : j < cursor.images.length := (List.getElem?_eq_some_iff.mp inCursor).1
  -- images of earlier cursors and of this one before it, then the image, then the same behind it
  have split : ∀ other, (theme.putImage i j other).images
      = ((theme.cursors.take i).flatMap Cursor.images ++ cursor.images.take j)
        ++ other :: (cursor.images.drop (j + 1) ++
          (theme.cursors.drop (i + 1)).flatMap Cursor.images) := by
    intro other
    rw [putImage_of_getElem? found, images, List.set_eq_take_append_cons_drop, if_pos row,
      List.flatMap_append, List.flatMap_cons, List.set_eq_take_append_cons_drop, if_pos column]
    simp only [List.append_assoc, List.cons_append]
  refine ⟨_, _, ?_, split⟩
  rw [← split image, putImage_self there]

/-- What holds between any two images of a theme holds between any two that are at
different places. -/
theorem rel_of_pairwise {theme : Theme} {related : Image → Image → Prop}
    (pairwise : theme.images.Pairwise related) (symm : ∀ a b, related a b → related b a)
    {i j k l : Nat} {image other : Image} (there : theme.image? i j = some image)
    (otherThere : theme.image? k l = some other) (apart : ¬ (i = k ∧ j = l)) :
    related image other := by
  obtain ⟨cursor, found, inCursor⟩ := image?_eq_some_iff.mp there
  obtain ⟨second, otherFound, inSecond⟩ := image?_eq_some_iff.mp otherThere
  obtain ⟨row, rfl⟩ := List.getElem?_eq_some_iff.mp found
  obtain ⟨otherRow, rfl⟩ := List.getElem?_eq_some_iff.mp otherFound
  -- two images are in one cursor, at different places, or in two cursors
  obtain ⟨within, across⟩ := List.pairwise_flatMap.mp pairwise
  have inImages := List.mem_of_getElem? inCursor
  have otherInImages := List.mem_of_getElem? inSecond
  rcases Nat.lt_trichotomy i k with before | rfl | after
  · exact List.pairwise_iff_getElem.mp across i k row otherRow before image inImages other
      otherInImages
  · have inside := List.pairwise_iff_getElem.mp (within _ (List.getElem_mem row))
    obtain ⟨column, rfl⟩ := List.getElem?_eq_some_iff.mp inCursor
    obtain ⟨otherColumn, rfl⟩ := List.getElem?_eq_some_iff.mp inSecond
    rcases Nat.lt_trichotomy j l with left | rfl | right
    · exact inside j l column otherColumn left
    · exact absurd ⟨rfl, rfl⟩ apart
    · exact symm _ _ (inside l j otherColumn column right)
  · exact symm _ _ (List.pairwise_iff_getElem.mp across k i otherRow row after other otherInImages
      image inImages)

/-- Presenting an image of a theme replaces it by the image with its buffer. -/
theorem present?_of_image? {theme : Theme} {i j : Nat} {image : Image}
    (there : theme.image? i j = some image) (host : Host) :
    theme.present? i j host
      = some ((image.present host).1, theme.putImage i j (image.present host).2.1,
          (image.present host).2.2) := by
  obtain ⟨cursor, found, inCursor⟩ := image?_eq_some_iff.mp there
  simp only [present?, found, inCursor, putImage]

/-- An image that is not there cannot be presented. -/
theorem present?_of_image?_eq_none {theme : Theme} {i j : Nat}
    (gone : theme.image? i j = none) (host : Host) : theme.present? i j host = none := by
  unfold present?
  cases found : theme.cursors[i]? with
  | none => rfl
  | some cursor =>
    rw [image?, found, Option.bind_some] at gone
    simp only [gone]

/-- A buffer is all that presenting adds. -/
theorem unpresented_putImage {theme : Theme} {i j : Nat} {image : Image}
    (there : theme.image? i j = some image) (buffer : Option Handle) :
    (theme.putImage i j { image with buffer }).unpresented = theme.unpresented := by
  obtain ⟨cursor, found, inCursor⟩ := image?_eq_some_iff.mp there
  obtain ⟨row, rfl⟩ := List.getElem?_eq_some_iff.mp found
  obtain ⟨column, rfl⟩ := List.getElem?_eq_some_iff.mp inCursor
  have images : ((theme.cursors[i].images.set j
      { theme.cursors[i].images[j] with buffer }).map Image.unpresented)
        = theme.cursors[i].images.map Image.unpresented := map_set_of_eq column rfl
  have cursors := map_set_of_eq (f := Cursor.unpresented) row
    (a := { theme.cursors[i] with
      images := theme.cursors[i].images.set j { theme.cursors[i].images[j] with buffer } })
    (by rw [Cursor.unpresented, Cursor.unpresented, images])
  rw [putImage_of_getElem? found, unpresented, unpresented, cursors]

end Theme

/-! ## Presenting an image -/

namespace Session

/-- The session with its host gone on and a theme put into a place. -/
def settle (session : Session) (place : Nat) (theme : Option Theme) (host : Host) : Session :=
  { session with host }.put place theme

/-- The session after an image of the theme at a place was given its buffer. -/
def handOut (session : Session) (place : Nat) (theme : Theme) (i j : Nat) (image : Image) :
    Session :=
  session.settle place
    (some (theme.putImage i j { image with buffer := some (session.host.lastHandle + 1) }))
    (session.host.acquire image.bufferRequest).2

@[simp] theorem host_settle (session : Session) (place : Nat) (theme : Option Theme) (host : Host) :
    (session.settle place theme host).host = host := rfl

@[simp] theorem themes_settle_self (session : Session) (place : Nat) (theme : Option Theme)
    (host : Host) : (session.settle place theme host).themes place = theme :=
  themes_put_self { session with host } place theme

/-- Other places are left alone. -/
theorem themes_settle_of_ne (session : Session) {place other : Nat} (h : other ≠ place)
    (theme : Option Theme) (host : Host) :
    (session.settle place theme host).themes other = session.themes other :=
  themes_put_of_ne { session with host } h theme

/-- Putting a theme where it is changes nothing. -/
theorem settle_self {session : Session} {place : Nat} {theme : Option Theme}
    (there : session.themes place = theme) : session.settle place theme session.host = session := by
  obtain ⟨host, themes⟩ := session
  have same : (fun other => if other = place then theme else themes other) = themes := by
    funext other
    split
    · rename_i here
      rw [here, ← there]
    · rfl
  rw [settle, put]
  simp only [same]

/-- **The two ways of presenting an image**: it has a buffer and nothing happens, or it is given the
next handle. -/
theorem present?_cases {session after : Session} {place i j : Nat} {buffer : Handle}
    (presented : session.present? place i j = some (buffer, after)) :
    ∃ theme image, session.themes place = some theme ∧ theme.image? i j = some image ∧
      (image.buffer = some buffer ∧ after = session ∨
        image.buffer = none ∧ buffer = session.host.lastHandle + 1 ∧
          after = session.handOut place theme i j image) := by
  unfold present? at presented
  cases there : session.themes place with
  | none =>
    rw [there] at presented
    cases presented
  | some theme =>
    simp only [there] at presented
    cases found : theme.image? i j with
    | none =>
      rw [Theme.present?_of_image?_eq_none found] at presented
      cases presented
    | some image =>
      rw [Theme.present?_of_image? found] at presented
      refine ⟨theme, image, rfl, found, ?_⟩
      simp only [Option.some.injEq, Prod.mk.injEq] at presented
      obtain ⟨rfl, rfl⟩ := presented
      cases given : image.buffer with
      | some buffer =>
        have kept : image.present session.host = (buffer, image, session.host) := by
          simp only [Image.present, given]
        refine Or.inl ⟨by rw [kept], ?_⟩
        rw [kept, Theme.putImage_self found]
        exact settle_self there
      | none =>
        have made : image.present session.host
            = (session.host.lastHandle + 1,
                { image with buffer := some (session.host.lastHandle + 1) },
                (session.host.acquire image.bufferRequest).2) := by
          simp only [Image.present, given]
          rfl
        refine Or.inr ⟨rfl, by rw [made], ?_⟩
        rw [made]
        rfl

/-- An image that has a buffer is presented by it, and nothing happens. -/
theorem present?_of_buffer {session : Session} {place i j : Nat} {theme : Theme} {image : Image}
    {buffer : Handle} (there : session.themes place = some theme)
    (found : theme.image? i j = some image) (given : image.buffer = some buffer) :
    session.present? place i j = some (buffer, session) := by
  have kept : image.present session.host = (buffer, image, session.host) := by
    simp only [Image.present, given]
  simp only [present?, there, Theme.present?_of_image? found, kept, Theme.putImage_self found]
  exact congrArg (fun session => some (buffer, session)) (settle_self there)

/-- An image that has no buffer yet is given the next handle. -/
theorem present?_of_fresh {session : Session} {place i j : Nat} {theme : Theme} {image : Image}
    (there : session.themes place = some theme) (found : theme.image? i j = some image)
    (fresh : image.buffer = none) :
    session.present? place i j
      = some (session.host.lastHandle + 1, session.handOut place theme i j image) := by
  simp only [present?, there, Theme.present?_of_image? found, Image.present, fresh]
  rfl

/-- An image that is not there cannot be presented. -/
theorem present?_eq_none {session : Session} {place i j : Nat}
    (gone : ((session.themes place).bind fun theme => theme.image? i j) = none) :
    session.present? place i j = none := by
  unfold present?
  cases there : session.themes place with
  | none => rfl
  | some theme =>
    rw [there, Option.bind_some] at gone
    simp only [Theme.present?_of_image?_eq_none gone]

/-! ## The three things that can happen -/

/-- **A property of sessions that lasts.** It has to survive three things; everything that actions
do to a session is made of these. -/
structure Lasting (holds : Session → Prop) : Prop where
  /-- A theme is dropped. -/
  drop : ∀ {session place theme}, session.themes place = some theme → holds session →
    holds (session.settle place none (theme.destroy session.host))
  /-- A theme is loaded into a free place. -/
  fill : ∀ {session : Session} {place name size loader trouble theme},
    session.themes place = none →
    (Theme.load name size loader trouble session.host).outcome = .ok theme → holds session →
    holds (session.settle place (some theme)
      (Theme.load name size loader trouble session.host).host)
  /-- An image is given its buffer. -/
  handOut : ∀ {session : Session} {place theme i j image}, session.themes place = some theme →
    theme.image? i j = some image → image.buffer = none → holds session →
    holds (session.handOut place theme i j image)

/-- A place is free after its theme was dropped. -/
theorem themes_drop_self (session : Session) (place : Nat) :
    (session.drop place).themes place = none := by
  unfold drop
  cases there : session.themes place with
  | none => exact there
  | some theme => exact themes_settle_self _ _ _ _

/-- Dropping a theme leaves other places alone. -/
theorem themes_drop_of_ne (session : Session) {place other : Nat} (h : other ≠ place) :
    (session.drop place).themes other = session.themes other := by
  unfold drop
  cases there : session.themes place with
  | none => rfl
  | some theme => exact themes_settle_of_ne _ h _ _

/-- The host after the theme at a place was dropped. -/
theorem host_drop {session : Session} {place : Nat} {theme : Theme}
    (there : session.themes place = some theme) :
    (session.drop place).host = theme.destroy session.host := by
  rw [drop, there]
  show (session.settle place none (theme.destroy session.host)).host = theme.destroy session.host
  exact host_settle _ _ _ _

/-- **The two ways of loading into a place**: the place is freed, and that is all, or there is a new
theme. -/
theorem load_cases (session : Session) (place : Nat) (name : Option String) (size : UInt32)
    (loader : Loader) (trouble : Trouble) :
    let freed := session.drop place
    let loading := Theme.load name size loader trouble freed.host
    (session.load place name size loader trouble).2 = freed ∨
      ∃ theme, loading.outcome = .ok theme ∧
        (session.load place name size loader trouble).2
          = freed.settle place (some theme) loading.host := by
  intro freed loading
  have free : freed.themes place = none := themes_drop_self session place
  -- what a load comes to, or nothing, is put into the free place
  have after : (session.load place name size loader trouble).2
      = freed.settle place loading.outcome.toOption loading.host := rfl
  rw [after]
  cases outcome : loading.outcome with
  | ok theme => exact Or.inr ⟨theme, rfl, rfl⟩
  | error error =>
    have unchanged : loading.host = freed.host := Theme.host_of_load_eq_error outcome
    rw [unchanged]
    exact Or.inl (settle_self free)

/-- Loading a theme leaves other places alone. -/
theorem themes_load_of_ne (session : Session) {place other : Nat} (h : other ≠ place)
    (name : Option String) (size : UInt32) (loader : Loader) (trouble : Trouble) :
    (session.load place name size loader trouble).2.themes other = session.themes other := by
  rcases load_cases session place name size loader trouble with unchanged | ⟨theme, -, after⟩
  · rw [unchanged, themes_drop_of_ne session h]
  · rw [after, themes_settle_of_ne _ h, themes_drop_of_ne session h]

variable {holds : Session → Prop}

/-- What lasts survives the end of the theme at a place. -/
theorem Lasting.of_drop (lasting : Lasting holds) {session : Session} (before : holds session)
    (place : Nat) : holds (session.drop place) := by
  unfold Session.drop
  cases there : session.themes place with
  | none => exact before
  | some theme => exact lasting.drop there before

/-- What lasts survives a load, once the place is free. -/
theorem Lasting.of_load (lasting : Lasting holds) {session : Session} {place : Nat}
    (freed : holds (session.drop place)) (name : Option String) (size : UInt32) (loader : Loader)
    (trouble : Trouble) : holds (session.load place name size loader trouble).2 := by
  rcases load_cases session place name size loader trouble with unchanged | ⟨theme, loaded, after⟩
  · rw [unchanged]
    exact freed
  · rw [after]
    exact lasting.fill (themes_drop_self session place) loaded freed

/-- **What lasts survives an action.** -/
theorem Lasting.step (lasting : Lasting holds) {session : Session} (before : holds session)
    (action : Action) : holds (session.step action) := by
  cases action with
  | load place name size loader trouble =>
    exact lasting.of_load (lasting.of_drop before place) name size loader trouble
  | present place i j =>
    rw [Session.step]
    cases presented : session.present? place i j with
    | none => exact before
    | some result =>
      obtain ⟨buffer, after⟩ := result
      obtain ⟨theme, image, there, found, ⟨-, rfl⟩ | ⟨fresh, -, rfl⟩⟩ := present?_cases presented
      · exact before
      · exact lasting.handOut there found fresh before
  | drop place => exact lasting.of_drop before place

/-- **What lasts survives any number of actions.** -/
theorem Lasting.run (lasting : Lasting holds) {session : Session} (before : holds session)
    (actions : List Action) : holds (session.run actions) := by
  induction actions generalizing session with
  | nil => exact before
  | cons action later ih => exact ih (lasting.step before action)

/-! ## Where a theme comes from -/

/-- Whether an action leaves the theme at a place there. -/
def Action.Spares (place : Nat) : Action → Prop
  | load other _ _ _ _ => other ≠ place
  | present _ _ _ => True
  | drop other => other ≠ place

instance (place : Nat) : (action : Action) → Decidable (action.Spares place)
  | .load other _ _ _ _ => inferInstanceAs (Decidable (other ≠ place))
  | .present _ _ _ => inferInstanceAs (Decidable True)
  | .drop other => inferInstanceAs (Decidable (other ≠ place))

@[simp] theorem run_nil (session : Session) : session.run [] = session := rfl

@[simp] theorem run_cons (session : Session) (action : Action) (later : List Action) :
    session.run (action :: later) = (session.step action).run later := rfl

/-- Actions that follow others start where these end. -/
theorem run_append (session : Session) (actions later : List Action) :
    session.run (actions ++ later) = (session.run actions).run later :=
  List.foldl_append

/-- **An action that spares a place** leaves the theme there as it is, but for what
presenting adds. -/
theorem themes_step_of_spares (session : Session) {place : Nat} {action : Action}
    (spared : action.Spares place) :
    ((session.step action).themes place).map Theme.unpresented
      = (session.themes place).map Theme.unpresented := by
  cases action with
  | load other name size loader trouble =>
    rw [step, themes_load_of_ne session (Ne.symm spared)]
  | present other i j =>
    rw [step]
    cases presented : session.present? other i j with
    | none => rfl
    | some result =>
      obtain ⟨buffer, after⟩ := result
      obtain ⟨theme, image, there, found, ⟨-, rfl⟩ | ⟨-, -, rfl⟩⟩ := present?_cases presented
      · rfl
      · by_cases here : place = other
        · subst here
          rw [handOut, themes_settle_self, there, Option.map_some, Option.map_some,
            Theme.unpresented_putImage found]
        · rw [handOut, themes_settle_of_ne _ here]
  | drop other => rw [step, themes_drop_of_ne session (Ne.symm spared)]

/-- Actions that spare a place leave the theme there as it is, but for what presenting adds. -/
theorem themes_run_of_spares (session : Session) {place : Nat} {actions : List Action}
    (spared : ∀ action ∈ actions, action.Spares place) :
    ((session.run actions).themes place).map Theme.unpresented
      = (session.themes place).map Theme.unpresented := by
  induction actions generalizing session with
  | nil => rfl
  | cons action later ih =>
    rw [run_cons, ih (session.step action) fun other member =>
      spared other (List.mem_cons_of_mem _ member)]
    exact themes_step_of_spares session (spared action List.mem_cons_self)

/-- An action that does not spare a place ends the theme there. What is there afterwards
was loaded. -/
theorem exists_load_of_not_spares {session : Session} {place : Nat} {action : Action}
    (ended : ¬ action.Spares place) {theme : Theme}
    (there : (session.step action).themes place = some theme) :
    ∃ name size loader trouble, action = .load place name size loader trouble ∧
      (Theme.load name size loader trouble (session.drop place).host).outcome = .ok theme := by
  cases action with
  | load other name size loader trouble =>
    obtain rfl : other = place := by_contra ended
    rcases load_cases session other name size loader trouble with unchanged | ⟨loaded, outcome, after⟩
    · rw [step, unchanged, themes_drop_self] at there
      cases there
    · rw [step, after, themes_settle_self] at there
      cases there
      exact ⟨name, size, loader, trouble, rfl, outcome⟩
  | present other i j => exact absurd trivial ended
  | drop other =>
    obtain rfl : other = place := by_contra ended
    rw [step, themes_drop_self] at there
    cases there

/-- **Every theme was loaded**, and what has happened since then spares its place. -/
theorem exists_load_of_themes {actions : List Action} {place : Nat} {theme : Theme}
    (there : (run {} actions).themes place = some theme) :
    ∃ before name size loader trouble after loaded,
      actions = before ++ .load place name size loader trouble :: after ∧
      (∀ action ∈ after, action.Spares place) ∧
      (Theme.load name size loader trouble ((run {} before).drop place).host).outcome
        = .ok loaded ∧
      theme.unpresented = loaded.unpresented := by
  induction actions using List.reverseRecOn generalizing theme with
  | nil => cases there
  | append_singleton actions action ih =>
    rw [run_append, run_cons, run_nil] at there
    -- the last action that does not spare the place is the load
    by_cases spared : action.Spares place
    · have same := themes_step_of_spares (run {} actions) spared
      rw [there, Option.map_some] at same
      obtain ⟨earlier, present, rest⟩ := Option.map_eq_some_iff.mp same.symm
      obtain ⟨before, name, size, loader, trouble, after, loaded, rfl, spares, outcome, origin⟩ :=
        ih present
      refine ⟨before, name, size, loader, trouble, after ++ [action], loaded, by simp, ?_, outcome,
        rest ▸ origin⟩
      intro other member
      rcases List.mem_append.mp member with old | new
      · exact spares other old
      · rw [List.mem_singleton.mp new]
        exact spared
    · obtain ⟨name, size, loader, trouble, rfl, outcome⟩ := exists_load_of_not_spares spared there
      exact ⟨actions, name, size, loader, trouble, [], theme, rfl, by simp, outcome, rfl⟩

end Session

end CursorThemes
