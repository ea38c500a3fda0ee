import CursorThemes.Proofs.Storing
import Mathlib.Data.List.Forall2
import Mathlib.Data.List.Nodup

/-! # The account of a load

A load moves bytes, handles and notices, but which cursors come of it is a matter of sizes and names
alone. An **`Account`** carries no more than that: the sprites stored so far, the bytes given out
and the capacity. This file folds what a loader delivers into an account and shows that the theme
follows it:

* **`Account.enter`** is the fold over one sprite: a name that is taken is passed over, and
  otherwise the frames are charged one by one, up to the first that is refused.
* **`Account.enterAll`** and **`Account.orBuiltins`** fold whatever a loader delivers, and the
  built-in cursors if nothing was stored.
* **`Theme.Follows`** relates a theme to an account, and **`Theme.addSprites_follows`** is the
  simulation.
* **`Theme.load_follows_account`** is the result for a whole load. -/

namespace CursorThemes

/-! ## The fold -/

/-- **What a load has come to**, as far as names and sizes go. -/
structure Account where
  /-- The sprites that were stored, in order. -/
  stored : List Sprite := []
  /-- The number of bytes given out. -/
  used : Nat := 0
  /-- The number of bytes that can be given out without growing. -/
  capacity : Nat
  deriving DecidableEq, Repr

namespace Account

/-- The account of a theme of a pixel size before anything was delivered. -/
def opening (size : UInt32) : Account :=
  { capacity := max (Theme.firstCapacity size) bytesPerPixel }

/-- The names of the stored sprites, in order. -/
def names (account : Account) : List String := account.stored.map Sprite.name

/-- The account charged with a frame: four bytes for every pixel, if the frame is well formed and
the bytes are granted. -/
def charge? (account : Account) (frame : Frame) (fault : Option SystemCall) : Option Account :=
  if Pool.Charges account.capacity account.used frame fault then
    some { account with
      used := account.used + frame.pixelLength
      capacity := Pool.capacityFor account.capacity account.used frame.pixelLength }
  else none

/-- The account charged with frames from the left, up to the first that cannot be charged, and
whether all were charged. `faults i` is the system call that fails while frame `i` is charged. -/
def chargeAll (faults : Nat → Option SystemCall) (account : Account) :
    List Frame → Bool × Account
  | [] => (true, account)
  | frame :: later =>
    match account.charge? frame (faults 0) with
    | none => (false, account)
    | some charged => chargeAll (fun i => faults (i + 1)) charged later

/-- The account after a sprite whose name is not taken: it is stored if it has a name and a frame
and every frame was charged, and it is abandoned otherwise. What was charged up to then stays
charged. -/
def receive (faults : Nat → Option SystemCall) (account : Account) (sprite : Sprite) : Account :=
  if sprite.name = "" ∨ sprite.frames = [] then account
  else
    let (complete, charged) := account.chargeAll faults sprite.frames
    if complete then { charged with stored := account.stored ++ [sprite] } else charged

/-- **The account after a further sprite**, which is passed over if its name is taken. -/
def enter (faults : Nat → Option SystemCall) (account : Account) (sprite : Sprite) : Account :=
  if sprite.name ∈ account.names then account else account.receive faults sprite

/-- The account after a further sprite if frames were charged before the name is looked at. -/
def enterBlindly (faults : Nat → Option SystemCall) (account : Account) (sprite : Sprite) :
    Account :=
  if sprite.name ∈ account.names then account
  else
    let (complete, charged) := account.chargeAll faults sprite.frames
    if complete ∧ sprite.name ≠ "" ∧ sprite.frames ≠ [] then
      { charged with stored := account.stored ++ [sprite] }
    else charged

/-- The account after further sprites, in order. -/
def enterAll (faults : Nat → Nat → Option SystemCall) (account : Account) :
    List Sprite → Account
  | [] => account
  | sprite :: later => enterAll (fun i => faults (i + 1)) (account.enter (faults 0) sprite) later

/-- The account after the built-in cursors, if nothing was stored before them. -/
def orBuiltins (faults : Nat → Nat → Option SystemCall) (account : Account) : Account :=
  if account.stored = [] then account.enterAll faults Builtin.sprites else account

/-- Charging frames stores nothing. -/
@[simp] theorem stored_chargeAll (faults : Nat → Option SystemCall) (account : Account)
    (frames : List Frame) : (account.chargeAll faults frames).2.stored = account.stored := by
  induction frames generalizing account faults with
  | nil => rfl
  | cons frame later ih =>
    simp only [chargeAll, charge?]
    by_cases charges : Pool.Charges account.capacity account.used frame (faults 0)
    · rw [if_pos charges]
      exact ih _ _
    · rw [if_neg charges]

/-- A sprite is stored behind the others, or nothing is stored. -/
theorem stored_receive (faults : Nat → Option SystemCall) (account : Account) (sprite : Sprite) :
    (account.receive faults sprite).stored = account.stored ∨
      sprite.name ≠ "" ∧ sprite.frames ≠ [] ∧
        (account.receive faults sprite).stored = account.stored ++ [sprite] := by
  unfold receive
  split
  · exact Or.inl rfl
  · rename_i fine
    simp only [not_or] at fine
    by_cases complete : (account.chargeAll faults sprite.frames).1 = true
    · simp only [if_pos complete]
      exact Or.inr ⟨fine.1, fine.2, trivial⟩
    · simp only [if_neg complete]
      exact Or.inl (stored_chargeAll _ _ _)

/-- What is stored of further sprites comes behind the others, in order. -/
theorem stored_enterAll (faults : Nat → Nat → Option SystemCall) (account : Account)
    (sprites : List Sprite) :
    ∃ chosen, chosen.Sublist sprites ∧
      (account.enterAll faults sprites).stored = account.stored ++ chosen := by
  induction sprites generalizing account faults with
  | nil => exact ⟨[], .slnil, (List.append_nil _).symm⟩
  | cons sprite later ih =>
    obtain ⟨chosen, sublist, stored⟩ := ih (fun i => faults (i + 1)) (account.enter (faults 0) sprite)
    -- one sprite is stored behind the others or not at all
    have here : (account.enter (faults 0) sprite).stored = account.stored ∨
        (account.enter (faults 0) sprite).stored = account.stored ++ [sprite] := by
      unfold enter
      split
      · exact Or.inl rfl
      · rcases stored_receive (faults 0) account sprite with same | ⟨-, -, longer⟩
        · exact Or.inl same
        · exact Or.inr longer
    rcases here with same | longer
    · exact ⟨chosen, sublist.cons sprite, by rw [enterAll, stored, same]⟩
    · refine ⟨sprite :: chosen, sublist.cons_cons sprite, ?_⟩
      rw [enterAll, stored, longer, List.append_assoc, List.singleton_append]

/-- What a load stores are sprites of the loader, in order, or built-in ones. -/
theorem sublist_stored_orBuiltins (size : UInt32) (faults fallback : Nat → Nat → Option SystemCall)
    (sprites : List Sprite) :
    (((opening size).enterAll faults sprites).orBuiltins fallback).stored.Sublist sprites ∨
      (((opening size).enterAll faults sprites).orBuiltins fallback).stored.Sublist
        Builtin.sprites := by
  unfold orBuiltins
  split
  · rename_i bare
    obtain ⟨chosen, sublist, stored⟩ :=
      stored_enterAll fallback ((opening size).enterAll faults sprites) Builtin.sprites
    rw [stored, bare]
    exact Or.inr sublist
  · obtain ⟨chosen, sublist, stored⟩ := stored_enterAll faults (opening size) sprites
    rw [stored]
    exact Or.inl sublist

/-! ## Names of the stored sprites -/

/-- **The stored sprites are in order**: each has a name and a frame, and no two have one name. -/
structure Tidy (account : Account) : Prop where
  /-- Every stored sprite has a name. -/
  name_ne : ∀ sprite ∈ account.stored, sprite.name ≠ ""
  /-- Every stored sprite has a frame. -/
  frames_ne : ∀ sprite ∈ account.stored, sprite.frames ≠ []
  /-- No name is there twice. -/
  nodup : account.names.Nodup

/-- A load starts with nothing stored. -/
theorem tidy_opening (size : UInt32) : (opening size).Tidy := by
  refine ⟨?_, ?_, List.nodup_nil⟩
  · intro sprite member
    cases member
  · intro sprite member
    cases member

/-- Nothing else than the sprites counts. -/
theorem Tidy.of_stored_eq {account other : Account} (tidy : account.Tidy)
    (same : other.stored = account.stored) : other.Tidy := by
  refine ⟨?_, ?_, ?_⟩
  · rw [same]
    exact tidy.name_ne
  · rw [same]
    exact tidy.frames_ne
  · rw [names, same]
    exact tidy.nodup

/-- A further sprite keeps the stored sprites in order. -/
theorem tidy_enter {account : Account} (tidy : account.Tidy) (faults : Nat → Option SystemCall)
    (sprite : Sprite) : (account.enter faults sprite).Tidy := by
  unfold enter
  split
  · exact tidy
  · rename_i untaken
    rcases stored_receive faults account sprite with same | ⟨named, framed, longer⟩
    · exact tidy.of_stored_eq same
    · refine ⟨?_, ?_, ?_⟩
      · intro other member
        rw [longer, List.mem_append, List.mem_singleton] at member
        rcases member with old | rfl
        · exact tidy.name_ne other old
        · exact named
      · intro other member
        rw [longer, List.mem_append, List.mem_singleton] at member
        rcases member with old | rfl
        · exact tidy.frames_ne other old
        · exact framed
      · rw [names, longer, List.map_append, List.map_singleton]
        refine tidy.nodup.append (List.nodup_singleton _) ?_
        rw [List.disjoint_singleton]
        exact untaken

/-- Further sprites keep the stored sprites in order. -/
theorem tidy_enterAll {account : Account} (tidy : account.Tidy)
    (faults : Nat → Nat → Option SystemCall) (sprites : List Sprite) :
    (account.enterAll faults sprites).Tidy := by
  induction sprites generalizing account faults with
  | nil => exact tidy
  | cons sprite later ih => exact ih (tidy_enter tidy (faults 0) sprite) _

/-- The built-in cursors keep the stored sprites in order. -/
theorem tidy_orBuiltins {account : Account} (tidy : account.Tidy)
    (faults : Nat → Nat → Option SystemCall) : (account.orBuiltins faults).Tidy := by
  unfold orBuiltins
  split
  · exact tidy_enterAll tidy faults Builtin.sprites
  · exact tidy

end Account

/-! ## What a cursor shows -/

/-- **An image shows a frame**: it has the frame's dimensions, hotspot and delay, and the pool has
the frame's pixels in its place. -/
structure Image.Shows (pool : Pool) (image : Image) (frame : Frame) : Prop where
  /-- The frame could be stored. -/
  formed : frame.WellFormed
  /-- The width is that of the frame. -/
  width : image.width = frame.width
  /-- The height is that of the frame. -/
  height : image.height = frame.height
  /-- The hotspot is in the same column. -/
  hotspotX : image.hotspotX = frame.hotspotX
  /-- The hotspot is in the same row. -/
  hotspotY : image.hotspotY = frame.hotspotY
  /-- The delay is that of the frame. -/
  delay : image.delay = frame.delay
  /-- The image holds the pool. -/
  holds : image.pool = pool.handle
  /-- The place is as long as the pixels. -/
  length : image.place.length = frame.pixelLength
  /-- The place was given out by the pool. -/
  inside : image.place.stop ≤ pool.used
  /-- The pixels are in the place. -/
  pixels : pool.bytes? image.place = some frame.pixels

/-- **A cursor shows a sprite**: it has the sprite's name, an image for every frame, in order, and
the length of the sprite's loop. -/
structure Cursor.Shows (pool : Pool) (cursor : Cursor) (sprite : Sprite) : Prop where
  /-- The name is that of the sprite. -/
  name : cursor.name = sprite.name
  /-- Every image shows its frame. -/
  images : List.Forall₂ (Image.Shows pool) cursor.images sprite.frames
  /-- The loop is as long as all delays together. -/
  totalDelay : cursor.totalDelay = Animation.loopLength (sprite.frames.map Frame.delay)

/-- An image shows its frame in every pool that extends the one it was stored in. -/
theorem Image.Shows.mono {before after : Pool} (extended : before.Extends after) {image : Image}
    {frame : Frame} (shown : image.Shows before frame) : image.Shows after frame :=
  { formed := shown.formed, width := shown.width, height := shown.height
    hotspotX := shown.hotspotX, hotspotY := shown.hotspotY, delay := shown.delay
    holds := shown.holds.trans extended.handle.symm, length := shown.length
    inside := le_trans shown.inside extended.used_le
    pixels := extended.bytes?_eq shown.pixels }

/-- A cursor shows its sprite in every pool that extends the one it was stored in. -/
theorem Cursor.Shows.mono {before after : Pool} (extended : before.Extends after) {cursor : Cursor}
    {sprite : Sprite} (shown : cursor.Shows before sprite) : cursor.Shows after sprite :=
  ⟨shown.name, shown.images.imp fun _ _ => Image.Shows.mono extended, shown.totalDelay⟩

/-- The image of a frame that was copied into a pool shows it. -/
theorem Image.shows_ofFrame (pool : Pool) {frame : Frame} (formed : frame.WellFormed) :
    (Image.ofFrame frame ⟨pool.used, frame.pixelLength⟩ pool.handle).Shows (pool.filled frame) frame :=
  { formed, width := rfl, height := rfl, hotspotX := rfl, hotspotY := rfl, delay := rfl
    holds := (Pool.handle_filled pool frame).symm, length := rfl
    inside := le_refl _
    pixels := Pool.bytes?_filled pool formed.length_pixels }

/-! ## The simulation -/

/-- **A pool meets an account**: its sizes agree, with each other and with the account. -/
structure Pool.Meets (pool : Pool) (account : Account) : Prop where
  /-- The sizes agree with each other. -/
  sized : pool.Sized
  /-- The account knows what was given out. -/
  used : pool.used = account.used
  /-- The account knows the capacity. -/
  capacity : pool.capacity = account.capacity

/-- Only the sizes count. -/
theorem Pool.Meets.of_sizes_eq {pool : Pool} {account other : Account} (meets : pool.Meets account)
    (used : other.used = account.used) (capacity : other.capacity = account.capacity) :
    pool.Meets other :=
  ⟨meets.sized, meets.used.trans used.symm, meets.capacity.trans capacity.symm⟩

namespace Cursor

/-- **Storing frames follows charging them**: all are stored if all are charged, and either way the
pool meets the account afterwards. -/
theorem storeFrames_follows (name : String) (frames : List Frame) {pool : Pool} {account : Account}
    (faults : Nat → Option SystemCall) (host : Host) (meets : pool.Meets account) :
    ∃ outcome left after, storeFrames pool name faults host frames = (outcome, left, after) ∧
      left.Meets (account.chargeAll faults frames).2 ∧ pool.Extends left ∧
      match outcome with
      | .ok images =>
        (account.chargeAll faults frames).1 = true ∧ List.Forall₂ (Image.Shows left) images frames
      | .error _ => (account.chargeAll faults frames).1 = false := by
  induction frames generalizing pool account host faults with
  | nil => exact ⟨.ok [], pool, host, rfl, meets, .refl pool, rfl, .nil⟩
  | cons frame later ih =>
    by_cases charges : Pool.Charges pool.capacity pool.used frame (faults 0)
    · -- the account charges the frame as well, for it has the sizes of the pool
      have charged := charges
      rw [meets.capacity, meets.used] at charged
      have filledMeets : (pool.filled frame).Meets
          { account with
            used := account.used + frame.pixelLength
            capacity := Pool.capacityFor account.capacity account.used frame.pixelLength } := by
        refine ⟨Pool.sized_filled meets.sized charges, ?_, ?_⟩
        · rw [Pool.used_filled, meets.used]
        · rw [Pool.capacity_filled, meets.used, meets.capacity]
      obtain ⟨outcome, left, after, rest, leftMeets, extended, result⟩ :=
        ih (fun i => faults (i + 1)) ((pool.announceGrant frame.pixelLength host).hold pool.handle)
          filledMeets
      have here := (Pool.extends_filled meets.sized frame).trans extended
      simp only [storeFrames, storeFrame_of_charges charges, rest, Account.chargeAll,
        Account.charge?, if_pos charged]
      cases outcome with
      | error error => exact ⟨.error error, left, _, rfl, leftMeets, here, result⟩
      | ok images =>
        obtain ⟨complete, shown⟩ := result
        exact ⟨.ok (_ :: images), left, after, rfl, leftMeets, here, complete,
          .cons ((Image.shows_ofFrame pool charges.1).mono extended) shown⟩
    · -- the account refuses the frame as well, and what the pool had given out stays
      have denied := charges
      rw [meets.capacity, meets.used] at denied
      obtain ⟨error, backing, after, refused, -, same⟩ :=
        storeFrame_of_not_charges meets.sized charges name host
      simp only [storeFrames, refused, Account.chargeAll, Account.charge?, if_neg denied]
      refine ⟨.error error, _, after, rfl,
        ⟨meets.sized.withBacking same.length_le, meets.used, meets.capacity⟩, ?_, trivial⟩
      exact Pool.Extends.of_backing pool fun position inside =>
        same.byteAt position (lt_of_lt_of_le inside meets.sized.used_le)

/-- **Storing a sprite follows receiving it.** -/
theorem store_follows (sprite : Sprite) {pool : Pool} {account : Account}
    (faults : Nat → Option SystemCall) (host : Host) (meets : pool.Meets account) :
    ∃ outcome left after, store pool sprite faults host = (outcome, left, after) ∧
      left.Meets (account.receive faults sprite) ∧ pool.Extends left ∧
      match outcome with
      | .ok cursor =>
        (account.receive faults sprite).stored = account.stored ++ [sprite] ∧
          cursor.Shows left sprite
      | .error _ => (account.receive faults sprite).stored = account.stored := by
  unfold store Account.receive
  by_cases unnamed : sprite.name = ""
  · rw [if_pos (by simp [unnamed]), if_pos (Or.inl unnamed)]
    exact ⟨_, pool, host, rfl, meets, .refl pool, rfl⟩
  · rw [if_neg (by simpa using unnamed)]
    by_cases bare : sprite.frames = []
    · rw [if_pos (by simp [bare]), if_pos (Or.inr bare)]
      exact ⟨_, pool, host, rfl, meets, .refl pool, rfl⟩
    · rw [if_neg (by simpa using bare), if_neg (by simp [unnamed, bare])]
      obtain ⟨outcome, left, after, stored, leftMeets, extended, result⟩ :=
        storeFrames_follows sprite.name sprite.frames faults host meets
      rw [stored]
      cases outcome with
      | error error =>
        simp only [result]
        exact ⟨_, left, after, rfl, leftMeets, extended, Account.stored_chargeAll _ _ _⟩
      | ok images =>
        simp only [result.1]
        exact ⟨_, left, after, rfl, leftMeets.of_sizes_eq rfl rfl, extended, rfl,
          rfl, result.2, rfl⟩

end Cursor

namespace Theme

/-- **A theme follows an account**: its pool meets the account, and its cursors show the stored
sprites, in order. -/
structure Follows (theme : Theme) (account : Account) : Prop where
  /-- The pool meets the account. -/
  meets : theme.pool.Meets account
  /-- The cursors show the stored sprites. -/
  shows : List.Forall₂ (Cursor.Shows theme.pool) theme.cursors account.stored

/-- A theme that follows an account has its names. -/
theorem Follows.names_eq {theme : Theme} {account : Account} (follows : theme.Follows account) :
    theme.cursors.map Cursor.name = account.names := by
  have same : List.Forall₂ (· = ·) (theme.cursors.map Cursor.name) account.names := by
    rw [Account.names, List.forall₂_map_left_iff, List.forall₂_map_right_iff]
    exact follows.shows.imp fun _ _ shown => shown.name
  rwa [List.forall₂_eq_eq_eq] at same

/-- A name is taken in a theme exactly if it is taken in the account. -/
theorem Follows.isSome_find?_iff {theme : Theme} {account : Account}
    (follows : theme.Follows account) (name : String) :
    (theme.find? name).isSome ↔ name ∈ account.names := by
  rw [← follows.names_eq, find?, List.find?_isSome, List.mem_map]
  simp only [beq_iff_eq]

/-- **Adding a sprite follows entering it.** -/
theorem add_follows {theme : Theme} {account : Account} (follows : theme.Follows account)
    (faults : Nat → Option SystemCall) (sprite : Sprite) (host : Host) :
    (theme.add sprite faults host).1.Follows (account.enter faults sprite) := by
  unfold add Account.enter
  by_cases taken : sprite.name ∈ account.names
  · rw [if_pos taken, if_pos ((follows.isSome_find?_iff sprite.name).mpr taken)]
    exact follows
  · rw [if_neg taken, if_neg (mt (follows.isSome_find?_iff sprite.name).mp taken)]
    obtain ⟨outcome, left, after, stored, meets, extended, result⟩ :=
      Cursor.store_follows sprite faults host follows.meets
    -- earlier cursors show what they showed, for the pool was only extended
    have shows := follows.shows.imp fun _ _ => Cursor.Shows.mono extended
    rw [stored]
    cases outcome with
    | error error =>
      refine ⟨meets, ?_⟩
      rw [result]
      exact shows
    | ok cursor =>
      refine ⟨meets, ?_⟩
      rw [result.1]
      exact List.rel_append shows (.cons result.2 .nil)

/-- **Adding sprites follows entering them.** -/
theorem addSprites_follows (sprites : List Sprite) {theme : Theme} {account : Account}
    (follows : theme.Follows account) (faults : Nat → Nat → Option SystemCall) (host : Host) :
    (addSprites faults theme host sprites).1.Follows (account.enterAll faults sprites) := by
  induction sprites generalizing theme account host faults with
  | nil => exact follows
  | cons sprite later ih => exact ih (add_follows follows (faults 0) sprite host) _ _

/-- Adding what a loader delivers follows entering the sprites. -/
theorem addDeliveries_follows (deliveries : List Delivery) {theme : Theme} {account : Account}
    (follows : theme.Follows account) (faults : Nat → Nat → Option SystemCall) (host : Host) :
    (addDeliveries faults theme host deliveries).1.Follows
      (account.enterAll faults (deliveries.map Delivery.sprite)) := by
  induction deliveries generalizing theme account host faults with
  | nil => exact follows
  | cons delivery later ih => exact ih (add_follows follows (faults 0) delivery.sprite _) _ _

/-- A theme without cursors follows an account without sprites. -/
theorem Follows.isEmpty_iff {theme : Theme} {account : Account} (follows : theme.Follows account) :
    theme.cursors.isEmpty = true ↔ account.stored = [] := by
  rw [List.isEmpty_iff_length_eq_zero, follows.shows.length_eq, List.length_eq_zero_iff]

/-- Turning to the built-in cursors follows entering them. -/
theorem orBuiltins_follows {theme : Theme} {account : Account} (follows : theme.Follows account)
    (faults : Nat → Nat → Option SystemCall) (host : Host) :
    (orBuiltins faults theme host).1.Follows (account.orBuiltins faults) := by
  unfold orBuiltins Account.orBuiltins
  by_cases bare : account.stored = []
  · rw [if_pos bare, if_pos (follows.isEmpty_iff.mpr bare)]
    have renamed : Follows { theme with name := standardName } account :=
      ⟨follows.meets, follows.shows⟩
    exact addSprites_follows Builtin.sprites renamed faults (host.log (.builtinsUsed theme.name))
  · rw [if_neg bare, if_neg (mt follows.isEmpty_iff.mp bare)]
    exact follows

/-- A theme of which nothing was loaded yet follows the account that is opened for it. -/
theorem opened_follows (name : String) (size : UInt32) (host : Host) :
    (opened name size host).Follows (.opening size) :=
  ⟨⟨sized_opened name size host, rfl, rfl⟩, .nil⟩

/-! ## Name and size of a theme -/

/-- Adding a sprite changes neither the name nor the size of a theme. -/
theorem label_add (theme : Theme) (sprite : Sprite) (faults : Nat → Option SystemCall)
    (host : Host) :
    (theme.add sprite faults host).1.name = theme.name ∧
      (theme.add sprite faults host).1.size = theme.size := by
  unfold add
  split
  · exact ⟨rfl, rfl⟩
  · split <;> exact ⟨rfl, rfl⟩

/-- Adding sprites changes neither the name nor the size of a theme. -/
theorem label_addSprites (sprites : List Sprite) (theme : Theme)
    (faults : Nat → Nat → Option SystemCall) (host : Host) :
    (addSprites faults theme host sprites).1.name = theme.name ∧
      (addSprites faults theme host sprites).1.size = theme.size := by
  induction sprites generalizing theme host faults with
  | nil => exact ⟨rfl, rfl⟩
  | cons sprite later ih =>
    have here := label_add theme sprite (faults 0) host
    have rest := ih (theme.add sprite (faults 0) host).1 (fun i => faults (i + 1))
      (theme.add sprite (faults 0) host).2
    exact ⟨rest.1.trans here.1, rest.2.trans here.2⟩

/-- Adding what a loader delivers changes neither the name nor the size of a theme. -/
theorem label_addDeliveries (deliveries : List Delivery) (theme : Theme)
    (faults : Nat → Nat → Option SystemCall) (host : Host) :
    (addDeliveries faults theme host deliveries).1.name = theme.name ∧
      (addDeliveries faults theme host deliveries).1.size = theme.size := by
  induction deliveries generalizing theme host faults with
  | nil => exact ⟨rfl, rfl⟩
  | cons delivery later ih =>
    have here := label_add theme delivery.sprite (faults 0) (host.logAll delivery.notices)
    have rest := ih (theme.add delivery.sprite (faults 0) (host.logAll delivery.notices)).1
      (fun i => faults (i + 1))
      (theme.add delivery.sprite (faults 0) (host.logAll delivery.notices)).2
    exact ⟨rest.1.trans here.1, rest.2.trans here.2⟩

/-- A theme is renamed exactly when it turns to the built-in cursors. -/
theorem label_orBuiltins (theme : Theme) (faults : Nat → Nat → Option SystemCall) (host : Host) :
    (orBuiltins faults theme host).1.name
        = (if theme.cursors.isEmpty then standardName else theme.name) ∧
      (orBuiltins faults theme host).1.size = theme.size := by
  unfold orBuiltins
  split
  · exact label_addSprites Builtin.sprites { theme with name := standardName } faults _
  · exact ⟨rfl, rfl⟩

/-! ## Looking up a name -/

/-- In a theme without repeated names, a name finds the one cursor that has it. -/
theorem find?_eq_some_iff {theme : Theme} (nodup : (theme.cursors.map Cursor.name).Nodup)
    {name : String} {cursor : Cursor} :
    theme.find? name = some cursor ↔ cursor ∈ theme.cursors ∧ cursor.name = name := by
  constructor
  · intro found
    exact ⟨mem_of_find? found, name_of_find? found⟩
  · rintro ⟨member, rfl⟩
    have some : (theme.find? cursor.name).isSome := by
      rw [find?, List.find?_isSome]
      exact ⟨cursor, member, by simp⟩
    obtain ⟨other, found⟩ := Option.isSome_iff_exists.mp some
    have same := List.inj_on_of_nodup_map nodup (mem_of_find? found) member (name_of_find? found)
    rw [found, same]

/-- A name that no cursor has is reported. -/
theorem cursor_eq_notFound_iff {theme : Theme} {name : String} :
    theme.cursor name = .error (.notFound name) ↔ name ∉ theme.cursors.map Cursor.name := by
  have taken : (theme.find? name).isSome ↔ name ∈ theme.cursors.map Cursor.name := by
    rw [find?, List.find?_isSome, List.mem_map]
    simp only [beq_iff_eq]
  rw [← taken, Theme.cursor]
  cases theme.find? name with
  | none => simp
  | some cursor => simp

/-! ## A whole load -/

/-- The sprites that a loader has for a name, or for the standard name if none is given. -/
def offered (loader : Loader) (name : Option String) (size : UInt32) : List Sprite :=
  (loader (name.getD standardName) size).deliveries.map Delivery.sprite

/-- A theme that was loaded follows the account of its load, and it has the name asked for, unless
it had to turn to the built-in cursors. -/
theorem load_follows {name : Option String} {size : UInt32} {loader : Loader} {trouble : Trouble}
    {host : Host} {theme : Theme}
    (loaded : (load name size loader trouble host).outcome = .ok theme) :
    let entered := (Account.opening size).enterAll trouble.storing (offered loader name size)
    theme.Follows (entered.orBuiltins trouble.fallback) ∧
      theme.name = (if entered.stored = [] then standardName else name.getD standardName) ∧
      theme.size = size := by
  obtain ⟨free, accepted⟩ := clear_of_load_eq_ok loaded
  have complete := load_of_clear free accepted name size loader host
  simp only at complete ⊢
  rw [complete] at loaded
  cases loaded
  have added := addDeliveries_follows (loader (name.getD standardName) size).deliveries
    (opened_follows (name.getD standardName) size host) trouble.storing
    (announceOpened size (loader (name.getD standardName) size) host)
  have label := label_addDeliveries (loader (name.getD standardName) size).deliveries
    (opened (name.getD standardName) size host) trouble.storing
    (announceOpened size (loader (name.getD standardName) size) host)
  refine ⟨orBuiltins_follows added trouble.fallback _, ?_, ?_⟩
  · rw [(label_orBuiltins _ _ _).1, label.1]
    exact if_congr added.isEmpty_iff rfl rfl
  · rw [(label_orBuiltins _ _ _).2, label.2]
    rfl

/-- **A load follows its account.** Once the pool is there, the load comes to a theme. Its cursors
show the sprites that the account stores, in order; its pool has the bytes and the capacity of the
account; and it is named as asked for, unless nothing could be stored and the built-in cursors were
taken. The names are not empty and pairwise different, so a name finds the one cursor that
has it. -/
theorem load_follows_account (name : Option String) (size : UInt32) (loader : Loader)
    (trouble : Trouble) (host : Host) {announced : Host} {pool : Pool}
    (created : Pool.create (firstCapacity size) trouble.creation host = (.ok pool, announced)) :
    let entered := (Account.opening size).enterAll trouble.storing (offered loader name size)
    let account := entered.orBuiltins trouble.fallback
    ∃ theme, (load name size loader trouble host).outcome = .ok theme ∧
      theme.name = (if entered.stored = [] then standardName else name.getD standardName) ∧
      theme.size = size ∧
      theme.pool.used = account.used ∧ theme.pool.capacity = account.capacity ∧
      List.Forall₂ (Cursor.Shows theme.pool) theme.cursors account.stored ∧
      theme.cursors.map Cursor.name = account.names ∧
      (∀ cursor ∈ theme.cursors, cursor.name ≠ "") ∧
      (theme.cursors.map Cursor.name).Nodup ∧
      (∀ wanted cursor,
        theme.find? wanted = some cursor ↔ cursor ∈ theme.cursors ∧ cursor.name = wanted) ∧
      ∀ wanted, theme.cursor wanted = .error (.notFound wanted) ↔ wanted ∉ account.names := by
  -- the pool is there, so nothing stood in its way
  have clear : trouble.creation.fault = none ∧ trouble.creation.refused = none := by
    rcases trouble.creation.stops_or_clear with ⟨cause, stops⟩ | clear
    · rw [Pool.create_of_stops (firstCapacity_le size) stops host] at created
      cases created
    · exact clear
  have complete := load_of_clear clear.1 clear.2 name size loader host
  simp only at complete
  have loaded := congrArg Loading.outcome complete
  obtain ⟨follows, named, sized⟩ := load_follows loaded
  have tidy := Account.tidy_orBuiltins
    (Account.tidy_enterAll (Account.tidy_opening size) trouble.storing (offered loader name size))
    trouble.fallback
  have names := follows.names_eq
  have nodup := names ▸ tidy.nodup
  refine ⟨_, loaded, named, sized, follows.meets.used, follows.meets.capacity, follows.shows, names,
    ?_, nodup, fun _ _ => find?_eq_some_iff nodup, fun wanted => ?_⟩
  · intro cursor member
    have listed := List.mem_map_of_mem (f := Cursor.name) member
    rw [names, Account.names, List.mem_map] at listed
    obtain ⟨sprite, stored, same⟩ := listed
    rw [← same]
    exact tidy.name_ne sprite stored
  · rw [cursor_eq_notFound_iff, names]

/-- A load in which a name comes twice, a growth fails, a cursor is abandoned after its first frame,
and two cursors are stored. -/
theorem load_follows_account_with_abandoned :
    let sprites : List Sprite :=
      [⟨"a", [.dot 1]⟩, ⟨"a", [.dot 2]⟩, ⟨"b", [.dot 3]⟩,
        ⟨"c", [.dot 4, { Frame.dot 5 with width := 2 }]⟩, ⟨"d", [.dot 6, .dot 7]⟩]
    let trouble : Trouble :=
      { storing := fun i _ => if i = 2 then some (.mapFile .outOfMemory) else none }
    (Pool.create (firstCapacity 1) trouble.creation {}).1.toOption.isSome = true ∧
      ∃ theme, (load (some "t") 1 (fun _ _ => .ofSprites sprites) trouble {}).outcome = .ok theme ∧
        theme.name = "t" ∧ theme.pool.used = 16 ∧ theme.pool.capacity = 28 ∧
        theme.cursors.map Cursor.name = ["a", "d"] := by
  intro sprites trouble
  refine ⟨by decide, ?_⟩
  obtain ⟨theme, loaded, named, -, used, capacity, -, names, -⟩ :=
    load_follows_account (some "t") 1 (fun _ _ => .ofSprites sprites) trouble {} rfl
  refine ⟨theme, loaded, ?_, ?_, ?_, ?_⟩
  · rw [named]
    decide
  · rw [used]
    decide
  · rw [capacity]
    decide
  · rw [names]
    decide

/-- A sprite without a name is abandoned before its frames are charged: a fold that looks at the
frames first takes bytes that the load does not take. -/
theorem nameless_sprite_is_not_charged :
    let sprites : List Sprite := [⟨"", [.dot 1]⟩, ⟨"a", [.dot 2]⟩]
    let blind := sprites.foldl (Account.enterBlindly fun _ => none) (.opening 1)
    ∃ theme, (load (some "t") 1 (fun _ _ => .ofSprites sprites) {} {}).outcome = .ok theme ∧
      theme.cursors.map Cursor.name = blind.names ∧ theme.pool.used = 4 ∧ blind.used = 8 :=
  ⟨_, rfl, by decide, by decide, by decide⟩

end Theme

end CursorThemes
