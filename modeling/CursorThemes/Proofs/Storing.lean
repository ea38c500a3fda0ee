import CursorThemes.Proofs.Allocation
import CursorThemes.Theme.Load
import Mathlib.Tactic.Tauto

/-! # Storing frames, cursors and themes

A frame is copied into a pool if it is well formed and its bytes are granted, and not otherwise.
From this one step follows what a whole load does to the pool, the images in it and the host:

* **`Pool.Charges`** is the condition under which a frame is taken in, and
  **`Cursor.storeFrame_of_charges`** and **`Cursor.storeFrame_of_not_charges`** are the two ways
  out.
* **`Kept`** collects what a property of pool, images and host has to survive, and
  **`Theme.load_keeps`** concludes that it holds of every theme that a load comes to. -/

namespace CursorThemes

/-! ## The two ways out of storing a frame -/

namespace Frame

/-- **A frame that can be stored**: it has pixels, as many as its dimensions call for, and their
bytes fit into the largest pool. -/
structure WellFormed (frame : Frame) : Prop where
  /-- There is a column. -/
  width_pos : 0 < frame.width.toNat
  /-- There is a row. -/
  height_pos : 0 < frame.height.toNat
  /-- The bytes can be announced. -/
  small : frame.pixelLength ≤ maxPoolSize
  /-- There are four bytes for every pixel. -/
  length_pixels : frame.pixels.length = frame.pixelLength

/-- What makes a frame well formed, taken together. -/
theorem wellFormed_iff {frame : Frame} :
    frame.WellFormed ↔ 0 < frame.width.toNat ∧ 0 < frame.height.toNat ∧
      frame.pixelLength ≤ maxPoolSize ∧ frame.pixels.length = frame.pixelLength :=
  ⟨fun h => ⟨h.width_pos, h.height_pos, h.small, h.length_pixels⟩,
    fun ⟨width, height, small, length⟩ => ⟨width, height, small, length⟩⟩

instance (frame : Frame) : Decidable frame.WellFormed := decidable_of_iff _ wellFormed_iff.symm

/-- The rows of a frame whose bytes fit are short enough to be announced. -/
theorem isAnnounceable_of_wellFormed {frame : Frame} (formed : frame.WellFormed) :
    frame.isAnnounceable = true := by
  have small := formed.small
  have tall : frame.width.toNat * 1 ≤ frame.width.toNat * frame.height.toNat :=
    Nat.mul_le_mul_left _ formed.height_pos
  refine Bool.and_eq_true_iff.mpr ⟨decide_eq_true ?_, decide_eq_true small⟩
  simp only [pixelLength, bytesPerPixel, maxPoolSize] at small ⊢
  omega

/-- A word is zero exactly if its number is. -/
theorem pos_toNat_iff {word : UInt32} : 0 < word.toNat ↔ word ≠ 0 := by
  rw [Nat.pos_iff_ne_zero, not_iff_not, ← UInt32.toNat_inj]
  rfl

/-- Exactly the well-formed frames have a place in a pool. -/
theorem storedLength_of_wellFormed {frame : Frame} (formed : frame.WellFormed) :
    frame.storedLength = .ok frame.pixelLength := by
  have width := pos_toNat_iff.mp formed.width_pos
  have height := pos_toNat_iff.mp formed.height_pos
  rw [storedLength, if_neg (by tauto), if_neg (by simp [isAnnounceable_of_wellFormed formed]),
    if_neg (by simp [formed.length_pixels])]

/-- A frame that is not well formed has a defect. -/
theorem storedLength_of_not_wellFormed {frame : Frame} (ill : ¬ frame.WellFormed) :
    ∃ defect, frame.storedLength = .error defect := by
  unfold storedLength
  split
  · exact ⟨_, rfl⟩
  · rename_i shape
    split
    · exact ⟨_, rfl⟩
    · rename_i announceable
      split
      · exact ⟨_, rfl⟩
      · rename_i length
        refine absurd ?_ ill
        simp only [not_or] at shape
        simp only [isAnnounceable, Bool.not_eq_true', Bool.not_eq_false, Bool.and_eq_true,
          decide_eq_true_eq] at announceable
        exact ⟨pos_toNat_iff.mpr shape.1, pos_toNat_iff.mpr shape.2, announceable.2,
          by omega⟩

end Frame

namespace Pool

/-- **When a pool takes in a frame**: the frame is well formed, and its bytes are granted. -/
def Charges (capacity used : Nat) (frame : Frame) (fault : Option SystemCall) : Prop :=
  frame.WellFormed ∧ Grants capacity used frame.pixelLength fault

instance (capacity used : Nat) (frame : Frame) (fault : Option SystemCall) :
    Decidable (Charges capacity used frame fault) :=
  inferInstanceAs (Decidable (_ ∧ _))

/-- The pool after a frame was copied into it. -/
def filled (pool : Pool) (frame : Frame) : Pool :=
  let roomy := pool.granted frame.pixelLength
  { roomy with backing := roomy.backing.write pool.used frame.pixels }

@[simp] theorem handle_filled (pool : Pool) (frame : Frame) :
    (pool.filled frame).handle = pool.handle := handle_granted _ _

@[simp] theorem used_filled (pool : Pool) (frame : Frame) :
    (pool.filled frame).used = pool.used + frame.pixelLength := rfl

@[simp] theorem capacity_filled (pool : Pool) (frame : Frame) :
    (pool.filled frame).capacity = capacityFor pool.capacity pool.used frame.pixelLength :=
  capacity_granted _ _

/-- The sizes of a pool still agree after a frame was copied into it. -/
theorem sized_filled {pool : Pool} (sized : pool.Sized) {frame : Frame} {fault : Option SystemCall}
    (charges : Charges pool.capacity pool.used frame fault) : (pool.filled frame).Sized := by
  have granted := sized_granted sized charges.2.2.1
  exact granted.withBacking granted.capacity_le_length

/-- Copying a frame extends the pool: it writes behind what was given out. -/
theorem extends_filled {pool : Pool} (sized : pool.Sized) (frame : Frame) :
    Extends pool (pool.filled frame) := by
  have extended := extends_granted sized frame.pixelLength
  refine ⟨extended.handle, extended.used_le, extended.mapped_le, ?_⟩
  intro position inside
  simp only [filled]
  rw [Backing.byteAt_write, if_neg (by omega), extended.byteAt position inside]

/-- The bytes of a frame that was copied are there. -/
theorem bytes?_filled (pool : Pool) {frame : Frame}
    (whole : frame.pixels.length = frame.pixelLength) :
    (pool.filled frame).bytes? ⟨pool.used, frame.pixelLength⟩ = some frame.pixels := by
  rw [bytes?, view?, if_neg (by simp [Allocation.stop]), Option.map_some]
  simp only [View.toList, filled, ← whole, Backing.read_write]

end Pool

namespace Cursor

/-- **A frame that is charged** has its image behind all others, and the image holds the pool. -/
theorem storeFrame_of_charges {pool : Pool} {frame : Frame} {fault : Option SystemCall}
    (charges : Pool.Charges pool.capacity pool.used frame fault) (name : String) (host : Host) :
    storeFrame pool name frame fault host
      = (.ok (.ofFrame frame ⟨pool.used, frame.pixelLength⟩ pool.handle), pool.filled frame,
          (pool.announceGrant frame.pixelLength host).hold pool.handle) := by
  obtain ⟨formed, grants⟩ := charges
  have whole : frame.pixels.length = frame.pixelLength := formed.length_pixels
  simp only [storeFrame, Frame.storedLength_of_wellFormed formed, Pool.allocate_of_grants grants]
  rw [Pool.store?_whole (le_refl _) whole, ← Pool.handle_filled pool frame]
  rfl

/-- **A frame that is not charged** leaves everything that counts as it was. -/
theorem storeFrame_of_not_charges {pool : Pool} (sized : pool.Sized) {frame : Frame}
    {fault : Option SystemCall} (denied : ¬ Pool.Charges pool.capacity pool.used frame fault)
    (name : String) (host : Host) :
    ∃ error backing after,
      storeFrame pool name frame fault host = (.error error, { pool with backing }, after) ∧
      Host.Alike host after ∧ pool.backing.StandsIn backing pool.capacity := by
  by_cases formed : frame.WellFormed
  · obtain ⟨cause, backing, after, refused, alike, same⟩ :=
      Pool.allocate_of_not_grants sized (fun grants => denied ⟨formed, grants⟩) host
    refine ⟨.allocation frame.pixelLength pool.capacity cause, backing, after, ?_, alike, same⟩
    simp only [storeFrame, Frame.storedLength_of_wellFormed formed, refused]
  · obtain ⟨defect, ill⟩ := Frame.storedLength_of_not_wellFormed formed
    refine ⟨.malformed name defect, pool.backing, host, ?_, Host.Alike.refl host,
      .refl sized.capacity_le_length⟩
    simp only [storeFrame, ill]

end Cursor

/-! ## What a load keeps -/

/-- **A property of a pool, the images in it and the host that storing keeps.** It has to survive
four things; everything that is done to cursors and themes while they are loaded is made
of these. -/
structure Kept (holds : Pool → List Image → Host → Prop) : Prop where
  /-- Something is logged. -/
  alike : ∀ {pool images before after}, Host.Alike before after → holds pool images before →
    holds pool images after
  /-- A growth fails, and the file is not what it was. -/
  backing : ∀ {pool images host} (backing : Backing), holds pool images host →
    holds { pool with backing } images host
  /-- A frame is copied into the pool. -/
  charge : ∀ {pool : Pool} {images host} {frame : Frame} {fault : Option SystemCall}, pool.Sized →
    Pool.Charges pool.capacity pool.used frame fault → holds pool images host →
    holds (pool.filled frame)
      (images ++ [.ofFrame frame ⟨pool.used, frame.pixelLength⟩ pool.handle])
      ((pool.announceGrant frame.pixelLength host).hold pool.handle)
  /-- The last image is abandoned before it was ever presented. -/
  abandon : ∀ {pool images image host}, image.buffer = none → holds pool (images ++ [image]) host →
    holds pool images (image.destroy host)

variable {holds : Pool → List Image → Host → Prop}

namespace Cursor

/-- Frames that are stored together keep what one frame keeps. -/
theorem storeFrames_keeps (kept : Kept holds) (name : String) (frames : List Frame)
    {pool : Pool} {images : List Image} {host : Host} (faults : Nat → Option SystemCall)
    (sized : pool.Sized) (before : holds pool images host) :
    ∃ outcome left after, storeFrames pool name faults host frames = (outcome, left, after) ∧
      left.Sized ∧
      match outcome with
      | .ok stored => holds left (images ++ stored) after
      | .error _ => holds left images after := by
  induction frames generalizing pool images host faults with
  | nil => exact ⟨.ok [], pool, host, rfl, sized, by simpa using before⟩
  | cons frame later ih =>
    by_cases charges : Pool.Charges pool.capacity pool.used frame (faults 0)
    · obtain ⟨outcome, left, after, rest, leftSized, held⟩ :=
        ih (fun i => faults (i + 1)) (Pool.sized_filled sized charges)
          (kept.charge sized charges before)
      simp only [storeFrames, storeFrame_of_charges charges, rest]
      cases outcome with
      | error error =>
        -- a later frame failed, so this one is the last image that is left, and it goes
        exact ⟨.error error, left, _, rfl, leftSized, kept.abandon rfl held⟩
      | ok stored => exact ⟨.ok (_ :: stored), left, after, rfl, leftSized, by simpa using held⟩
    · obtain ⟨error, backing, after, refused, alike, same⟩ :=
        storeFrame_of_not_charges sized charges name host
      simp only [storeFrames, refused]
      exact ⟨.error error, _, after, rfl, sized.withBacking same.length_le,
        kept.alike alike (kept.backing backing before)⟩

/-- A cursor that is stored, or abandoned, keeps what one frame keeps. -/
theorem store_keeps (kept : Kept holds) (sprite : Sprite) {pool : Pool} {images : List Image}
    {host : Host} (faults : Nat → Option SystemCall) (sized : pool.Sized)
    (before : holds pool images host) :
    ∃ outcome left after, store pool sprite faults host = (outcome, left, after) ∧
      left.Sized ∧
      match outcome with
      | .ok cursor => holds left (images ++ cursor.images) after
      | .error _ => holds left images after := by
  unfold store
  split
  · exact ⟨_, pool, host, rfl, sized, before⟩
  · split
    · exact ⟨_, pool, host, rfl, sized, before⟩
    · obtain ⟨outcome, left, after, stored, leftSized, held⟩ :=
        storeFrames_keeps kept sprite.name sprite.frames faults sized before
      rw [stored]
      cases outcome with
      | error error => exact ⟨_, left, after, rfl, leftSized, held⟩
      | ok images => exact ⟨_, left, after, rfl, leftSized, held⟩

end Cursor

namespace Theme

/-- All images of a theme, in order. -/
def images (theme : Theme) : List Image := theme.cursors.flatMap Cursor.images

/-- A further sprite keeps what one frame keeps. -/
theorem add_keeps (kept : Kept holds) (sprite : Sprite) {theme : Theme} {host : Host}
    (faults : Nat → Option SystemCall) (sized : theme.pool.Sized)
    (before : holds theme.pool theme.images host) :
    (theme.add sprite faults host).1.pool.Sized ∧
      holds (theme.add sprite faults host).1.pool (theme.add sprite faults host).1.images
        (theme.add sprite faults host).2 := by
  unfold add
  split
  · exact ⟨sized, kept.alike (Host.alike_log _ _) before⟩
  · obtain ⟨outcome, left, after, stored, leftSized, held⟩ :=
      Cursor.store_keeps kept sprite faults sized before
    rw [stored]
    cases outcome with
    | error error => exact ⟨leftSized, kept.alike (Host.alike_log _ _) held⟩
    | ok cursor => exact ⟨leftSized, by simpa [images] using held⟩

/-- Further sprites keep what one frame keeps. -/
theorem addSprites_keeps (kept : Kept holds) (sprites : List Sprite) {theme : Theme} {host : Host}
    (faults : Nat → Nat → Option SystemCall) (sized : theme.pool.Sized)
    (before : holds theme.pool theme.images host) :
    (addSprites faults theme host sprites).1.pool.Sized ∧
      holds (addSprites faults theme host sprites).1.pool
        (addSprites faults theme host sprites).1.images
        (addSprites faults theme host sprites).2 := by
  induction sprites generalizing theme host faults with
  | nil => exact ⟨sized, before⟩
  | cons sprite later ih =>
    obtain ⟨addedSized, held⟩ := add_keeps kept sprite (faults 0) sized before
    exact ih (fun i => faults (i + 1)) addedSized held

/-- What a loader delivers keeps what one frame keeps. -/
theorem addDeliveries_keeps (kept : Kept holds) (deliveries : List Delivery) {theme : Theme}
    {host : Host} (faults : Nat → Nat → Option SystemCall) (sized : theme.pool.Sized)
    (before : holds theme.pool theme.images host) :
    (addDeliveries faults theme host deliveries).1.pool.Sized ∧
      holds (addDeliveries faults theme host deliveries).1.pool
        (addDeliveries faults theme host deliveries).1.images
        (addDeliveries faults theme host deliveries).2.2 := by
  induction deliveries generalizing theme host faults with
  | nil => exact ⟨sized, before⟩
  | cons delivery later ih =>
    obtain ⟨addedSized, held⟩ := add_keeps kept delivery.sprite (faults 0) sized
      (kept.alike (Host.alike_logAll host delivery.notices) before)
    exact ih (fun i => faults (i + 1)) addedSized held

/-- The built-in cursors keep what one frame keeps. -/
theorem orBuiltins_keeps (kept : Kept holds) {theme : Theme} {host : Host}
    (faults : Nat → Nat → Option SystemCall) (sized : theme.pool.Sized)
    (before : holds theme.pool theme.images host) :
    (orBuiltins faults theme host).1.pool.Sized ∧
      holds (orBuiltins faults theme host).1.pool (orBuiltins faults theme host).1.images
        (orBuiltins faults theme host).2 := by
  unfold orBuiltins
  split
  · exact addSprites_keeps kept Builtin.sprites faults sized
      (kept.alike (Host.alike_log host _) before)
  · exact ⟨sized, before⟩

/-- The first capacity of a theme can be announced. -/
theorem firstCapacity_le (size : UInt32) : firstCapacity size ≤ maxPoolSize := Nat.min_le_right _ _

/-- A theme of which nothing was loaded yet, in a new pool. -/
def opened (name : String) (size : UInt32) (host : Host) : Theme :=
  ⟨name, size, [], .fresh (host.lastHandle + 1) (max (firstCapacity size) bytesPerPixel)⟩

/-- The host when a theme was opened and its loader was asked. -/
def announceOpened (size : UInt32) (catalogue : Catalogue) (host : Host) : Host :=
  (Pool.announceFresh (max (firstCapacity size) bytesPerPixel) host).logAll catalogue.opening

/-- A load whose pool cannot be made fails at once, and nobody hears of it. -/
theorem load_of_stops {trouble : Trouble} {cause : SystemError}
    (stops : trouble.creation.Stops cause) (name : Option String) (size : UInt32) (loader : Loader)
    (host : Host) :
    load name size loader trouble host = ⟨.error (.creation (.system cause)), [], host⟩ := by
  rw [load, Pool.create_of_stops (firstCapacity_le size) stops host]

/-- A load that can make a pool comes to a theme: what the loader delivers is added, and then the
built-in cursors, if there is nothing else. -/
theorem load_of_clear {trouble : Trouble} (free : trouble.creation.fault = none)
    (accepted : trouble.creation.refused = none) (name : Option String) (size : UInt32)
    (loader : Loader) (host : Host) :
    let requested := name.getD standardName
    let catalogue := loader requested size
    let added := addDeliveries trouble.storing (opened requested size host)
      (announceOpened size catalogue host) catalogue.deliveries
    let complete := orBuiltins trouble.fallback added.1 (added.2.2.logAll catalogue.closing)
    load name size loader trouble host
      = ⟨.ok complete.1, .theme requested size :: added.2.1,
          complete.2.log
            (.themeLoaded complete.1.cursors.length complete.1.name complete.1.pool.used)⟩ := by
  simp only [load, Pool.create_of_clear (firstCapacity_le size) free accepted]
  rfl

/-- A load comes to a theme exactly if nothing stands in the way of its pool. -/
theorem clear_of_load_eq_ok {name : Option String} {size : UInt32} {loader : Loader}
    {trouble : Trouble} {host : Host} {theme : Theme}
    (loaded : (load name size loader trouble host).outcome = .ok theme) :
    trouble.creation.fault = none ∧ trouble.creation.refused = none := by
  rcases trouble.creation.stops_or_clear with ⟨cause, stops⟩ | clear
  · rw [load_of_stops stops name size loader host] at loaded
    cases loaded
  · exact clear

/-- A load that fails leaves the host as it was. -/
theorem host_of_load_eq_error {name : Option String} {size : UInt32} {loader : Loader}
    {trouble : Trouble} {host : Host} {error : CursorError}
    (failed : (load name size loader trouble host).outcome = .error error) :
    (load name size loader trouble host).host = host := by
  rcases trouble.creation.stops_or_clear with ⟨cause, stops⟩ | ⟨free, accepted⟩
  · rw [load_of_stops stops name size loader host]
  · have loaded := load_of_clear free accepted name size loader host
    simp only at loaded
    rw [loaded] at failed
    cases failed

/-- The sizes of a theme of which nothing was loaded yet agree. -/
theorem sized_opened (name : String) (size : UInt32) (host : Host) :
    (opened name size host).pool.Sized :=
  Pool.sized_fresh _ (Nat.le_max_right _ _)
    (Pool.max_bytesPerPixel_le (firstCapacity_le size))

/-- **Every theme that a load comes to has what storing keeps**, if the new pool has it. -/
theorem load_keeps (kept : Kept holds) {name : Option String} {size : UInt32} {loader : Loader}
    {trouble : Trouble} {host : Host} {theme : Theme}
    (loaded : (load name size loader trouble host).outcome = .ok theme)
    (before : holds (.fresh (host.lastHandle + 1) (max (firstCapacity size) bytesPerPixel)) []
      (Pool.announceFresh (max (firstCapacity size) bytesPerPixel) host)) :
    theme.pool.Sized ∧
      holds theme.pool theme.images (load name size loader trouble host).host := by
  obtain ⟨free, accepted⟩ := clear_of_load_eq_ok loaded
  have complete := load_of_clear free accepted name size loader host
  simp only at complete
  rw [complete] at loaded ⊢
  cases loaded
  obtain ⟨addedSized, added⟩ :=
    addDeliveries_keeps kept (loader (name.getD standardName) size).deliveries trouble.storing
      (sized_opened (name.getD standardName) size host)
      (kept.alike (Host.alike_logAll _ (loader (name.getD standardName) size).opening) before)
  obtain ⟨filledSized, filled⟩ :=
    orBuiltins_keeps kept trouble.fallback addedSized
      (kept.alike (Host.alike_logAll _ (loader (name.getD standardName) size).closing) added)
  exact ⟨filledSized, kept.alike (Host.alike_log _ _) filled⟩

end Theme

end CursorThemes
