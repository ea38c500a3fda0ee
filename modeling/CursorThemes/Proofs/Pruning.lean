import CursorThemes.Proofs.Fallback
import CursorThemes.Proofs.Fates

/-! # Loads without their bad sprites

A sprite that is ignored or malformed leaves nothing behind but the bytes that were charged for its
first frames. So a load that never meets it comes to the same cursors, in a pool that is no fuller.

* **`Sprite.charge`** is what a sprite is charged if there is room, and **`Sprite.verdict`** is
  what becomes of it then; both depend on nothing but the sprite.
* **`Account.Lighter`** relates the accounts of the two loads, and **`Theme.run_of_prunes`** carries
  it through them.
* **`Theme.load_of_prunes`** is the result for whole loads. -/

namespace CursorThemes

/-! ## What a sprite is charged, and what becomes of it -/

namespace Frame

/-- The number of bytes of the frames in front of the first one that has a defect. -/
def soundLength : List Frame → Nat
  | [] => 0
  | frame :: later =>
    match frame.storedLength with
    | .error _ => 0
    | .ok length => length + soundLength later

/-- What becomes of the frames of the cursor `name` where there is room for them. -/
def verdict (name : String) : List Frame → Fate
  | [] => .stored
  | frame :: later =>
    match frame.storedLength with
    | .error defect => .dropped (.malformed name defect)
    | .ok _ => verdict name later

variable {frame : Frame}

/-- A well-formed frame is charged for its pixels. -/
theorem soundLength_of_wellFormed (formed : frame.WellFormed) (later : List Frame) :
    soundLength (frame :: later) = frame.pixelLength + soundLength later := by
  rw [soundLength, storedLength_of_wellFormed formed]

/-- A well-formed frame leaves the verdict to the later ones. -/
theorem verdict_of_wellFormed (formed : frame.WellFormed) (name : String) (later : List Frame) :
    verdict name (frame :: later) = verdict name later := by
  rw [verdict, storedLength_of_wellFormed formed]

end Frame

namespace Sprite

/-- **What a sprite is charged** where there is room for it: the frames in front of the first one that
has a defect, or nothing if the sprite has no name. -/
def charge (sprite : Sprite) : Nat :=
  if sprite.name = "" then 0 else Frame.soundLength sprite.frames

/-- **What becomes of a sprite** whose name is free, where there is room for it. -/
def verdict (sprite : Sprite) : Fate :=
  if sprite.name = "" then .dropped (.malformed sprite.name .emptyName)
  else if sprite.frames = [] then .dropped (.malformed sprite.name .noFrames)
  else Frame.verdict sprite.name sprite.frames

end Sprite

namespace Cursor

variable {pool : Pool} {frame : Frame}

/-- A frame that is charged leaves the outcome to the later ones. -/
theorem ofOutcome_storeFrames_cons (name : String) (faults : Nat → Option SystemCall)
    (charges : Pool.Charges pool.capacity pool.used frame (faults 0)) (later : List Frame)
    (host : Host) :
    ∃ after, Fate.ofOutcome (storeFrames pool name faults host (frame :: later)).1
      = Fate.ofOutcome
          (storeFrames (pool.filled frame) name (fun i => faults (i + 1)) after later).1 := by
  refine ⟨(pool.announceGrant frame.pixelLength host).hold pool.handle, ?_⟩
  simp only [storeFrames, storeFrame_of_charges charges]
  split <;> simp [*, Fate.ofOutcome]

/-- **Frames that have room** meet their verdict, if no system call fails. -/
theorem ofOutcome_storeFrames_of_room (name : String) (frames : List Frame) {pool : Pool}
    (host : Host) (room : pool.used + Frame.soundLength frames ≤ maxPoolSize) :
    Fate.ofOutcome (storeFrames pool name (fun _ => none) host frames).1
      = Frame.verdict name frames := by
  induction frames generalizing pool host with
  | nil => rfl
  | cons frame later ih =>
    by_cases formed : frame.WellFormed
    · -- the frame takes its bytes out of the room, and what is left is enough for the later ones
      rw [Frame.soundLength_of_wellFormed formed] at room
      have charges := (Pool.charges_iff_of_wellFormed formed pool.capacity pool.used).mpr (by omega)
      obtain ⟨after, same⟩ := ofOutcome_storeFrames_cons name (fun _ => none) charges later host
      rw [same, Frame.verdict_of_wellFormed formed]
      apply ih
      rw [Pool.used_filled]
      omega
    · obtain ⟨defect, ill⟩ := Frame.storedLength_of_not_wellFormed formed
      simp only [storeFrames, storeFrame, ill, Frame.verdict]
      rfl

/-- **Frames that have no room** are refused. -/
theorem isRefusal_storeFrames_of_no_room (name : String) (frames : List Frame) {pool : Pool}
    (sized : pool.Sized) (faults : Nat → Option SystemCall) (host : Host)
    (full : maxPoolSize < pool.used + Frame.soundLength frames) :
    (Fate.ofOutcome (storeFrames pool name faults host frames).1).isRefusal = true := by
  induction frames generalizing pool host faults with
  | nil =>
    have inside := le_trans sized.used_le sized.capacity_le
    rw [Frame.soundLength] at full
    omega
  | cons frame later ih =>
    by_cases formed : frame.WellFormed
    · -- the pool refuses this frame already, or one of those behind it
      rw [Frame.soundLength_of_wellFormed formed] at full
      by_cases charges : Pool.Charges pool.capacity pool.used frame (faults 0)
      · obtain ⟨after, same⟩ := ofOutcome_storeFrames_cons name faults charges later host
        rw [same]
        apply ih (Pool.sized_filled sized charges)
        rw [Pool.used_filled]
        omega
      · obtain ⟨error, backing, after, refused, -, -⟩ :=
          storeFrame_of_not_charges sized charges name host
        have fails := fails_of_storeFrame sized refused
        simp only [storeFrames, refused]
        cases fails with
        | malformed ill =>
          rw [Frame.storedLength_of_wellFormed formed] at ill
          cases ill
        | refused => rfl
    · -- from a frame with a defect on, nothing is charged, and what was charged before has its place
      obtain ⟨defect, ill⟩ := Frame.storedLength_of_not_wellFormed formed
      have inside := le_trans sized.used_le sized.capacity_le
      have none : Frame.soundLength (frame :: later) = 0 := by rw [Frame.soundLength, ill]
      omega

/-- **A sprite that has room** meets its verdict, if no system call fails. -/
theorem ofOutcome_store_of_room {sprite : Sprite} (host : Host)
    (room : pool.used + sprite.charge ≤ maxPoolSize) :
    Fate.ofOutcome (store pool sprite (fun _ => none) host).1 = sprite.verdict := by
  unfold store Sprite.verdict
  by_cases unnamed : sprite.name = ""
  · rw [if_pos (by simp [unnamed]), if_pos unnamed]
    rfl
  · rw [if_neg (by simpa using unnamed), if_neg unnamed]
    by_cases bare : sprite.frames = []
    · rw [if_pos (by simp [bare]), if_pos bare]
      rfl
    · rw [if_neg (by simpa using bare), if_neg bare]
      rw [Sprite.charge, if_neg unnamed] at room
      rw [← ofOutcome_storeFrames_of_room sprite.name sprite.frames host room]
      split <;> simp [*, Fate.ofOutcome]

/-- **A sprite that has no room** is refused. -/
theorem isRefusal_store_of_no_room {sprite : Sprite} (sized : pool.Sized)
    (faults : Nat → Option SystemCall) (host : Host)
    (full : maxPoolSize < pool.used + sprite.charge) :
    (Fate.ofOutcome (store pool sprite faults host).1).isRefusal = true := by
  have inside := le_trans sized.used_le sized.capacity_le
  -- what is charged for has a name and frames
  have named : sprite.name ≠ "" := by
    intro unnamed
    rw [Sprite.charge, if_pos unnamed] at full
    omega
  rw [Sprite.charge, if_neg named] at full
  have framed : sprite.frames ≠ [] := by
    intro bare
    rw [bare, Frame.soundLength] at full
    omega
  have refused := isRefusal_storeFrames_of_no_room sprite.name sprite.frames sized faults host full
  rw [store, if_neg (by simpa using named), if_neg (by simpa using framed)]
  generalize storeFrames pool sprite.name faults host sprite.frames = stored at refused ⊢
  obtain ⟨error | images, left, after⟩ := stored
  · exact refused
  · cases refused

end Cursor

/-! ## The account of a sprite that has room -/

namespace Account

/-- Frames that have room are charged up to the first that has a defect, if no system call fails. -/
theorem chargeAll_of_room (name : String) (frames : List Frame) {account : Account}
    (room : account.used + Frame.soundLength frames ≤ maxPoolSize) :
    ((account.chargeAll (fun _ => none) frames).1 = true ↔ Frame.verdict name frames = .stored) ∧
      (account.chargeAll (fun _ => none) frames).2.used
        = account.used + Frame.soundLength frames := by
  induction frames generalizing account with
  | nil => exact ⟨⟨fun _ => rfl, fun _ => rfl⟩, rfl⟩
  | cons frame later ih =>
    by_cases formed : frame.WellFormed
    · rw [Frame.soundLength_of_wellFormed formed] at room ⊢
      have charges :=
        (Pool.charges_iff_of_wellFormed formed account.capacity account.used).mpr (by omega)
      simp only [chargeAll, charge?, if_pos charges]
      rw [Frame.verdict_of_wellFormed formed, ← Nat.add_assoc]
      exact ih (by rw [← Nat.add_assoc] at room; exact room)
    · obtain ⟨defect, ill⟩ := Frame.storedLength_of_not_wellFormed formed
      have denied : ¬ Pool.Charges account.capacity account.used frame none :=
        fun charges => formed charges.1
      simp only [chargeAll, charge?, if_neg denied, Frame.verdict, Frame.soundLength, ill]
      refine ⟨⟨?_, ?_⟩, rfl⟩
      · intro complete
        cases complete
      · intro stored
        cases stored

/-- **A sprite that has room** is charged for, and it is stored if that is its verdict. -/
theorem receive_of_room {account : Account} {sprite : Sprite}
    (room : account.used + sprite.charge ≤ maxPoolSize) :
    (account.receive (fun _ => none) sprite).stored
        = (if sprite.verdict = .stored then account.stored ++ [sprite] else account.stored) ∧
      (account.receive (fun _ => none) sprite).used = account.used + sprite.charge := by
  by_cases unnamed : sprite.name = ""
  · rw [receive, if_pos (Or.inl unnamed), Sprite.verdict, if_pos unnamed, Sprite.charge,
      if_pos unnamed, if_neg (by simp)]
    exact ⟨rfl, rfl⟩
  · rw [Sprite.charge, if_neg unnamed] at room ⊢
    by_cases bare : sprite.frames = []
    · rw [receive, if_pos (Or.inr bare), Sprite.verdict, if_neg unnamed, if_pos bare, bare,
        if_neg (by simp)]
      exact ⟨rfl, rfl⟩
    · obtain ⟨complete, used⟩ := chargeAll_of_room sprite.name sprite.frames room
      rw [receive, if_neg (by simp [unnamed, bare]), Sprite.verdict, if_neg unnamed, if_neg bare,
        ← used]
      by_cases whole : (account.chargeAll (fun _ => none) sprite.frames).1 = true
      · simp only [if_pos whole, if_pos (complete.mp whole)]
        exact ⟨trivial, trivial⟩
      · simp only [if_neg whole, if_neg (mt complete.mpr whole)]
        exact ⟨stored_chargeAll _ _ _, trivial⟩

/-! ## Two accounts -/

/-- **An account is lighter than another one** if it has the same sprites, in no more bytes. -/
structure Lighter (light heavy : Account) : Prop where
  /-- The same sprites are stored. -/
  stored : light.stored = heavy.stored
  /-- No more bytes are given out. -/
  used : light.used ≤ heavy.used

/-- Whether a further sprite has room in an account, if it needs any. -/
def HasRoom (account : Account) (sprite : Sprite) : Prop :=
  sprite.name ∉ account.names → account.used + sprite.charge ≤ maxPoolSize

/-- What becomes of a further sprite that has room. -/
def fate (account : Account) (sprite : Sprite) : Fate :=
  if sprite.name ∈ account.names then .ignored else sprite.verdict

/-- Lighter accounts have the same names. -/
theorem Lighter.names {light heavy : Account} (lighter : light.Lighter heavy) :
    light.names = heavy.names := congrArg (List.map Sprite.name) lighter.stored

/-- A sprite that has room meets the same fate in a lighter account. -/
theorem Lighter.fate_eq {light heavy : Account} (lighter : light.Lighter heavy) (sprite : Sprite) :
    light.fate sprite = heavy.fate sprite := by
  rw [Account.fate, lighter.names, Account.fate]

/-- A sprite that has room has room in a lighter account. -/
theorem Lighter.hasRoom {light heavy : Account} (lighter : light.Lighter heavy) {sprite : Sprite}
    (room : heavy.HasRoom sprite) : light.HasRoom sprite := by
  intro untaken
  rw [lighter.names] at untaken
  have fits := room untaken
  have used := lighter.used
  omega

/-- **A sprite that both meet** leaves the lighter account lighter. -/
theorem Lighter.enter {light heavy : Account} (lighter : light.Lighter heavy) {sprite : Sprite}
    (room : heavy.HasRoom sprite) :
    (light.enter (fun _ => none) sprite).Lighter (heavy.enter (fun _ => none) sprite) := by
  by_cases taken : sprite.name ∈ heavy.names
  · have alsoTaken : sprite.name ∈ light.names := lighter.names ▸ taken
    rw [Account.enter, if_pos alsoTaken, Account.enter, if_pos taken]
    exact lighter
  · have untaken : sprite.name ∉ light.names := lighter.names ▸ taken
    obtain ⟨storedHeavy, usedHeavy⟩ := receive_of_room (room taken)
    obtain ⟨storedLight, usedLight⟩ := receive_of_room (lighter.hasRoom room untaken)
    rw [Account.enter, if_neg untaken, Account.enter, if_neg taken]
    refine ⟨?_, ?_⟩
    · rw [storedHeavy, storedLight, lighter.stored]
    · rw [usedHeavy, usedLight]
      exact Nat.add_le_add_right lighter.used _

/-- **A sprite that only the heavier account meets** leaves the lighter account lighter, unless the
sprite is stored. -/
theorem Lighter.enter_right {light heavy : Account} (lighter : light.Lighter heavy) {sprite : Sprite}
    (room : heavy.HasRoom sprite) (bad : heavy.fate sprite ≠ .stored) :
    light.Lighter (heavy.enter (fun _ => none) sprite) := by
  by_cases taken : sprite.name ∈ heavy.names
  · rw [Account.enter, if_pos taken]
    exact lighter
  · obtain ⟨stored, used⟩ := receive_of_room (room taken)
    rw [Account.fate, if_neg taken] at bad
    rw [if_neg bad] at stored
    rw [Account.enter, if_neg taken]
    refine ⟨lighter.stored.trans stored.symm, ?_⟩
    rw [used]
    exact le_trans lighter.used (Nat.le_add_right _ _)

end Account

/-! ## Two loads -/

/-- **Pruning**: entries are deleted from a list of sprites and their fates, each of them the entry of
a sprite that has something wrong with it. -/
inductive Prunes : List (Sprite × Fate) → List (Sprite × Fate) → Prop
  /-- Nothing is left of nothing. -/
  | nil : Prunes [] []
  /-- An entry is kept. -/
  | keep (entry : Sprite × Fate) {kept entries : List (Sprite × Fate)} :
    Prunes kept entries → Prunes (entry :: kept) (entry :: entries)
  /-- An entry is deleted. -/
  | cut {entry : Sprite × Fate} {kept entries : List (Sprite × Fate)}
    (bad : entry.2.isOwnFault = true) : Prunes kept entries → Prunes kept (entry :: entries)

namespace Prunes

/-- Nothing need be deleted. -/
theorem refl (entries : List (Sprite × Fate)) : Prunes entries entries := by
  induction entries with
  | nil => exact .nil
  | cons entry later ih => exact .keep entry ih

/-- The first entry is kept or deleted. -/
theorem cons_cases {entry : Sprite × Fate} {kept entries : List (Sprite × Fate)}
    (prunes : Prunes kept (entry :: entries)) :
    (∃ left, kept = entry :: left ∧ Prunes left entries) ∨
      entry.2.isOwnFault = true ∧ Prunes kept entries := by
  cases prunes with
  | keep _ rest => exact Or.inl ⟨_, rfl, rest⟩
  | cut bad rest => exact Or.inr ⟨bad, rest⟩

/-- What is kept was there. -/
theorem sublist {kept entries : List (Sprite × Fate)} (prunes : Prunes kept entries) :
    kept.Sublist entries := by
  induction prunes with
  | nil => exact .slnil
  | keep entry _ ih => exact ih.cons_cons entry
  | cut _ _ ih => exact ih.cons _

end Prunes

namespace Theme

/-- A sprite that is not refused has room. -/
theorem Follows.hasRoom {theme : Theme} {account : Account} (follows : theme.Follows account)
    {sprite : Sprite} {host : Host}
    (granted : (theme.fate sprite (fun _ => none) host).isRefusal = false) :
    account.HasRoom sprite := by
  intro untaken
  by_contra full
  rw [← follows.meets.used, Nat.not_le] at full
  rw [fate, if_neg (mt (follows.isSome_find?_iff sprite.name).mp untaken),
    Cursor.isRefusal_store_of_no_room follows.meets.sized _ host full] at granted
  cases granted

/-- **The fate of a sprite that has room** is known to the account. -/
theorem Follows.fate_eq {theme : Theme} {account : Account} (follows : theme.Follows account)
    {sprite : Sprite} (room : account.HasRoom sprite) (host : Host) :
    theme.fate sprite (fun _ => none) host = account.fate sprite := by
  unfold fate Account.fate
  by_cases taken : sprite.name ∈ account.names
  · rw [if_pos taken, if_pos ((follows.isSome_find?_iff sprite.name).mpr taken)]
  · rw [if_neg taken, if_neg (mt (follows.isSome_find?_iff sprite.name).mp taken)]
    exact Cursor.ofOutcome_store_of_room host (follows.meets.used ▸ room taken)

/-- **The sprites that are left after pruning** meet the fates that they met before, and the account
of their load is lighter. -/
theorem run_of_prunes (deliveries : List Delivery) {fewer : List Delivery} {theme other : Theme}
    {heavy light : Account} (host twin : Host) {kept : List (Sprite × Fate)}
    (follows : theme.Follows heavy) (otherFollows : other.Follows light)
    (lighter : light.Lighter heavy)
    (granted : ∀ entry ∈ fates (fun _ _ => none) theme host deliveries,
      entry.2.isRefusal = false)
    (prunes : Prunes kept (fates (fun _ _ => none) theme host deliveries))
    (offers : fewer.map Delivery.sprite = kept.map Prod.fst) :
    fates (fun _ _ => none) other twin fewer = kept ∧
      (light.enterAll (fun _ _ => none) (fewer.map Delivery.sprite)).Lighter
        (heavy.enterAll (fun _ _ => none) (deliveries.map Delivery.sprite)) := by
  induction deliveries generalizing fewer theme other heavy light host twin kept with
  | nil =>
    cases prunes
    rw [List.map_nil, List.map_eq_nil_iff] at offers
    rw [offers]
    exact ⟨rfl, lighter⟩
  | cons delivery later ih =>
    rw [fates_cons] at granted prunes
    obtain ⟨here, rest⟩ := List.forall_mem_cons.mp granted
    have room := follows.hasRoom here
    have known := follows.fate_eq room (host.logAll delivery.notices)
    have added := add_follows follows (fun _ => none) delivery.sprite (host.logAll delivery.notices)
    rcases prunes.cons_cases with ⟨left, rfl, pruned⟩ | ⟨bad, pruned⟩
    · -- both loads meet the sprite
      obtain ⟨first, others, rfl, same, offers⟩ := List.map_eq_cons_iff.mp offers
      have alsoKnown := otherFollows.fate_eq (lighter.hasRoom room) (twin.logAll first.notices)
      have alsoAdded :=
        add_follows otherFollows (fun _ => none) delivery.sprite (twin.logAll first.notices)
      obtain ⟨met, final⟩ := ih _ (other.add delivery.sprite (fun _ => none)
        (twin.logAll first.notices)).2 added alsoAdded (lighter.enter room) rest pruned offers
      refine ⟨?_, ?_⟩
      · rw [fates_cons, same, alsoKnown, known, lighter.fate_eq]
        exact congrArg _ met
      · rw [List.map_cons, List.map_cons, same]
        exact final
    · -- only the first load meets the sprite, and does not store it
      have notStored : heavy.fate delivery.sprite ≠ .stored := by
        rw [← known]
        intro stored
        rw [stored] at bad
        cases bad
      exact ih _ twin added otherFollows (lighter.enter_right room notStored) rest pruned offers

end Theme

/-! ## What both loads come to -/

/-- **An image was moved to another pool**: it is the same but for its pool and its offset, and the
same pixels are in its new place. -/
structure Image.Moved (pool other : Pool) (image moved : Image) : Prop where
  /-- Nothing but the pool and the offset is another one. -/
  elsewhere : ∃ offset,
    moved = { image with place := { image.place with offset }, pool := other.handle }
  /-- The image has pixels. -/
  isSome_pixels : (pool.bytes? image.place).isSome = true
  /-- The pixels are the same. -/
  pixels : other.bytes? moved.place = pool.bytes? image.place

/-- **A cursor was moved to another pool**: it has the same name and the same loop, and every image was
moved. -/
structure Cursor.Moved (pool other : Pool) (cursor moved : Cursor) : Prop where
  /-- The name is the same. -/
  name : moved.name = cursor.name
  /-- The loop is as long. -/
  totalDelay : moved.totalDelay = cursor.totalDelay
  /-- Every image was moved. -/
  images : List.Forall₂ (Image.Moved pool other) cursor.images moved.images

/-- Two images that were never presented and show one frame are the same image, moved. -/
theorem Image.Shows.moved {pool other : Pool} {image moved : Image} {frame : Frame}
    (shown : image.Shows pool frame) (alsoShown : moved.Shows other frame)
    (fresh : image.buffer = none) (alsoFresh : moved.buffer = none) :
    Image.Moved pool other image moved := by
  refine ⟨⟨moved.place.offset, ?_⟩, ?_, ?_⟩
  · obtain ⟨width, height, hotspotX, hotspotY, delay, ⟨offset, length⟩, handle, buffer⟩ := moved
    have sameLength := alsoShown.length.trans shown.length.symm
    simp only at alsoFresh sameLength ⊢
    rw [Image.mk.injEq]
    exact ⟨alsoShown.width.trans shown.width.symm, alsoShown.height.trans shown.height.symm,
      alsoShown.hotspotX.trans shown.hotspotX.symm, alsoShown.hotspotY.trans shown.hotspotY.symm,
      alsoShown.delay.trans shown.delay.symm, by rw [sameLength], alsoShown.holds,
      alsoFresh.trans fresh.symm⟩
  · rw [shown.pixels]
    rfl
  · rw [alsoShown.pixels, shown.pixels]

/-- What is related to the members of one list member by member is related by way of them. -/
theorem forall₂_of_common {α β γ : Type} {first : α → γ → Prop} {second : β → γ → Prop}
    {rel : α → β → Prop} {left : List α} {right : List β} {common : List γ}
    (toFirst : List.Forall₂ first left common) (toSecond : List.Forall₂ second right common)
    (compose : ∀ a ∈ left, ∀ b ∈ right, ∀ c, first a c → second b c → rel a b) :
    List.Forall₂ rel left right := by
  induction toFirst generalizing right with
  | nil =>
    cases toSecond
    exact .nil
  | cons here _ ih =>
    cases toSecond with
    | cons there later =>
      refine .cons (compose _ List.mem_cons_self _ List.mem_cons_self _ here there) ?_
      exact ih later fun a left b right => compose a (List.mem_cons_of_mem _ left) b
        (List.mem_cons_of_mem _ right)

/-- The sprites of the catalogue of sprites that are at hand. -/
theorem Catalogue.map_sprite_ofSprites (sprites : List Sprite) :
    (Catalogue.ofSprites sprites).deliveries.map Delivery.sprite = sprites := by
  rw [Catalogue.ofSprites, List.map_map]
  exact List.map_id _

/-- Storing leaves images without buffers. -/
theorem Image.kept_fresh :
    Kept fun _ images _ => ∀ image ∈ images, image.buffer = none where
  alike _ fresh := fresh
  backing _ fresh := fresh
  charge _ _ fresh := by
    intro image member
    rcases List.mem_append.mp member with old | new
    · exact fresh image old
    · rw [List.mem_singleton.mp new]
      rfl
  abandon _ fresh := fun image member => fresh image (List.mem_append_left _ member)

namespace Theme

/-- No image of a theme that was loaded has a buffer. -/
theorem buffer_eq_none_of_load {name : Option String} {size : UInt32} {loader : Loader}
    {trouble : Trouble} {host : Host} {theme : Theme}
    (loaded : (load name size loader trouble host).outcome = .ok theme) :
    ∀ cursor ∈ theme.cursors, ∀ image ∈ cursor.images, image.buffer = none := by
  intro cursor member image inside
  have fresh := (load_keeps Image.kept_fresh loaded fun _ none => absurd none List.not_mem_nil).2
  exact fresh image (List.mem_flatMap.mpr ⟨cursor, member, inside⟩)

/-- Two loads that store the same sprites come to the same cursors, moved. -/
theorem moved_of_follows {theme other : Theme} {heavy light : Account}
    (follows : theme.Follows heavy) (otherFollows : other.Follows light)
    (stored : light.stored = heavy.stored)
    (fresh : ∀ cursor ∈ theme.cursors, ∀ image ∈ cursor.images, image.buffer = none)
    (otherFresh : ∀ cursor ∈ other.cursors, ∀ image ∈ cursor.images, image.buffer = none) :
    List.Forall₂ (Cursor.Moved theme.pool other.pool) theme.cursors other.cursors := by
  have shows := otherFollows.shows
  rw [stored] at shows
  refine forall₂_of_common follows.shows shows ?_
  intro cursor listed moved otherListed sprite shown alsoShown
  refine ⟨alsoShown.name.trans shown.name.symm, alsoShown.totalDelay.trans shown.totalDelay.symm, ?_⟩
  refine forall₂_of_common shown.images alsoShown.images ?_
  intro image inside twin otherInside frame shows alsoShows
  exact shows.moved alsoShows (fresh cursor listed image inside)
    (otherFresh moved otherListed twin otherInside)

/-- The built-in cursors meet the same fates in a lighter account, if there was room for them. -/
theorem fallback_of_lighter {theme other : Theme} {heavy light : Account} (host twin : Host)
    (follows : theme.Follows heavy) (otherFollows : other.Follows light)
    (lighter : light.Lighter heavy)
    (granted : ∀ entry ∈ fallbackFates (fun _ _ => none) theme host, entry.2.isRefusal = false) :
    fallbackFates (fun _ _ => none) other twin = fallbackFates (fun _ _ => none) theme host ∧
      (light.orBuiltins fun _ _ => none).Lighter (heavy.orBuiltins fun _ _ => none) := by
  unfold fallbackFates at granted ⊢
  unfold Account.orBuiltins
  by_cases bare : heavy.stored = []
  · have alsoBare : light.stored = [] := lighter.stored.trans bare
    rw [if_pos (follows.isEmpty_iff.mpr bare)] at granted ⊢
    rw [if_pos (otherFollows.isEmpty_iff.mpr alsoBare), if_pos bare, if_pos alsoBare]
    have renamed : Follows { theme with name := standardName } heavy :=
      ⟨follows.meets, follows.shows⟩
    have alsoRenamed : Follows { other with name := standardName } light :=
      ⟨otherFollows.meets, otherFollows.shows⟩
    have run := run_of_prunes (Catalogue.ofSprites Builtin.sprites).deliveries _
      (twin.log (.builtinsUsed other.name)) renamed alsoRenamed lighter granted
      (Prunes.refl _) (map_fst_fates _ _ _ _).symm
    rw [Catalogue.map_sprite_ofSprites] at run
    exact run
  · have alsoSome : light.stored ≠ [] := lighter.stored ▸ bare
    rw [if_neg (mt follows.isEmpty_iff.mp bare), if_neg (mt otherFollows.isEmpty_iff.mp alsoSome),
      if_neg bare, if_neg alsoSome]
    exact ⟨rfl, lighter⟩

/-- **A bad sprite does not disturb the others.** Take a load in which nothing fails and no frame is
refused, and delete from what the loader offers any of the sprites that were ignored, for their
names were taken, or dropped, for something was wrong with them. The load that is left succeeds and
refuses no frame either; the remaining sprites and the built-in cursors meet the fates that they met
before. It comes to a theme of the same name and size with the same cursors, in the same order; they
differ in nothing but the offsets at which the same pixels are found. No more bytes are given out. -/
theorem load_of_prunes {name : Option String} {size : UInt32} {loader pruned : Loader}
    {kept : List (Sprite × Fate)} (host twin : Host)
    (granted : ∀ entry ∈ offeredFates name size loader {} host ++
      builtinFates name size loader {} host, entry.2.isRefusal = false)
    (prunes : Prunes kept (offeredFates name size loader {} host))
    (offers : offered pruned name size = kept.map Prod.fst) :
    ∃ theme other,
      (load name size loader {} host).outcome = .ok theme ∧
      (load name size pruned {} twin).outcome = .ok other ∧
      offeredFates name size pruned {} twin = kept ∧
      builtinFates name size pruned {} twin = builtinFates name size loader {} host ∧
      (∀ entry ∈ offeredFates name size pruned {} twin ++ builtinFates name size pruned {} twin,
        entry.2.isRefusal = false) ∧
      other.name = theme.name ∧ other.size = theme.size ∧ other.pool.used ≤ theme.pool.used ∧
      List.Forall₂ (Cursor.Moved theme.pool other.pool) theme.cursors other.cursors := by
  rw [List.forall_mem_append] at granted
  obtain ⟨grantedOffered, grantedBuiltin⟩ := granted
  have opened := opened_follows (name.getD standardName) size host
  have alsoOpened := opened_follows (name.getD standardName) size twin
  obtain ⟨met, lighter⟩ := run_of_prunes (loader (name.getD standardName) size).deliveries
    (announceOpened size (loader (name.getD standardName) size) host)
    (announceOpened size (pruned (name.getD standardName) size) twin)
    opened alsoOpened ⟨rfl, le_refl _⟩ grantedOffered prunes offers
  -- nothing was stored by both or by neither of them, so they turn to the built-in cursors together
  obtain ⟨alsoMet, lighterStill⟩ := fallback_of_lighter _ _
    (addDeliveries_follows (loader (name.getD standardName) size).deliveries opened _ _)
    (addDeliveries_follows (pruned (name.getD standardName) size).deliveries alsoOpened _ _)
    lighter grantedBuiltin
  have offeredMet : offeredFates name size pruned {} twin = kept := met
  have builtinMet : builtinFates name size pruned {} twin = builtinFates name size loader {} host :=
    alsoMet
  obtain ⟨theme, loaded, follows, named, sized⟩ := exists_load_follows name size loader host
  obtain ⟨other, alsoLoaded, alsoFollows, alsoNamed, alsoSized⟩ :=
    exists_load_follows name size pruned twin
  refine ⟨theme, other, loaded, alsoLoaded, offeredMet, builtinMet, ?_, ?_, alsoSized.trans sized.symm, ?_,
    moved_of_follows follows alsoFollows lighterStill.stored (buffer_eq_none_of_load loaded)
      (buffer_eq_none_of_load alsoLoaded)⟩
  · rw [offeredMet, builtinMet, List.forall_mem_append]
    exact ⟨fun entry member => grantedOffered entry (prunes.sublist.subset member), grantedBuiltin⟩
  · rw [named, alsoNamed]
    exact if_congr (by rw [offered, offered, lighter.stored]) rfl rfl
  · rw [alsoFollows.meets.used, follows.meets.used]
    exact lighterStill.used

/-- Without a sprite whose name is taken, and one that is dropped after its first frame, a load comes
to the same cursors, in a pool that is less full. -/
theorem load_of_prunes_duplicate_and_dropped :
    let sprites : List Sprite :=
      [⟨"a", [.dot 1]⟩, ⟨"a", [.dot 2]⟩, ⟨"b", [.dot 3, { Frame.dot 4 with width := 2 }]⟩,
        ⟨"c", [.dot 5, .dot 6]⟩]
    let fewer : List Sprite := [⟨"a", [.dot 1]⟩, ⟨"c", [.dot 5, .dot 6]⟩]
    ∃ theme other,
      (load none 1 (fun _ _ => .ofSprites sprites) {} {}).outcome = .ok theme ∧
      (load none 1 (fun _ _ => .ofSprites fewer) {} {}).outcome = .ok other ∧
      theme.cursors.map Cursor.name = ["a", "c"] ∧ theme.pool.used = 16 ∧ other.pool.used = 12 ∧
      List.Forall₂ (Cursor.Moved theme.pool other.pool) theme.cursors other.cursors := by
  intro sprites fewer
  have met : offeredFates none 1 (fun _ _ => .ofSprites sprites) {} {}
      = [(⟨"a", [.dot 1]⟩, .stored), (⟨"a", [.dot 2]⟩, .ignored),
        (⟨"b", [.dot 3, { Frame.dot 4 with width := 2 }]⟩,
          .dropped (.malformed "b" (.wrongLength 2 1 4 8))),
        (⟨"c", [.dot 5, .dot 6]⟩, .stored)] := by decide
  have granted : ∀ entry ∈ offeredFates none 1 (fun _ _ => .ofSprites sprites) {} {} ++
      builtinFates none 1 (fun _ _ => .ofSprites sprites) {} {}, entry.2.isRefusal = false := by
    decide
  have prunes : Prunes [(⟨"a", [.dot 1]⟩, .stored), (⟨"c", [.dot 5, .dot 6]⟩, .stored)]
      (offeredFates none 1 (fun _ _ => .ofSprites sprites) {} {}) := by
    rw [met]
    exact .keep _ (.cut rfl (.cut rfl (.keep _ .nil)))
  have offers : offered (fun _ _ => .ofSprites fewer) none 1
      = [(⟨"a", [.dot 1]⟩, Fate.stored), (⟨"c", [.dot 5, .dot 6]⟩, .stored)].map Prod.fst := rfl
  obtain ⟨theme, other, loaded, alsoLoaded, -, -, -, -, -, -, moved⟩ :=
    load_of_prunes {} {} granted prunes offers
  refine ⟨theme, other, loaded, alsoLoaded, ?_, ?_, ?_, moved⟩
  · cases loaded
    decide
  · cases loaded
    decide
  · cases alsoLoaded
    decide

end Theme

end CursorThemes
