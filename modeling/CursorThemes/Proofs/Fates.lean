import CursorThemes.Proofs.Accounting

/-! # What becomes of each sprite of a load

A load deals with one sprite after the other. Each of them is stored, or ignored because its name is
taken, or dropped because it cannot be stored.

* **`Theme.fate`** says which of the three happens, and **`Theme.fates`** says it of all that a loader
  delivers.
* **`Cursor.store_error_cases`** lists the reasons for which a sprite is dropped.
* **`Theme.outcomes_load`** says that the log of a load tells of each sprite that was not stored, and
  of nothing else of the kind. -/

namespace CursorThemes

/-- **What becomes of a sprite** that a theme is given. -/
inductive Fate where
  /-- It is stored as a cursor. -/
  | stored
  /-- It is ignored, for its name is taken. -/
  | ignored
  /-- It is dropped, for it cannot be stored. -/
  | dropped (cause : CursorError)
  deriving DecidableEq, Repr

namespace Fate

/-- What becomes of a sprite whose storing comes to an outcome. -/
def ofOutcome {α : Type} : Except CursorError α → Fate
  | .ok _ => .stored
  | .error error => .dropped error

/-- Whether the pool had no bytes for a frame. -/
def isRefusal : Fate → Bool
  | dropped (.allocation _ _ _) => true
  | _ => false

/-- Whether something is wrong with the sprite itself: its name is taken, or it cannot be stored in any
pool. -/
def isOwnFault : Fate → Bool
  | ignored | dropped (.malformed _ _) => true
  | _ => false

end Fate

namespace Theme

/-- **What becomes of a sprite** that is added to a theme. -/
def fate (theme : Theme) (sprite : Sprite) (faults : Nat → Option SystemCall) (host : Host) : Fate :=
  if (theme.find? sprite.name).isSome then .ignored
  else .ofOutcome (Cursor.store theme.pool sprite faults host).1

/-- **What becomes of the sprites that a loader delivers**, when they are added in order. -/
def fates (faults : Nat → Nat → Option SystemCall) (theme : Theme) (host : Host) :
    List Delivery → List (Sprite × Fate)
  | [] => []
  | delivery :: later =>
    let fetched := host.logAll delivery.notices
    let (left, after) := theme.add delivery.sprite (faults 0) fetched
    (delivery.sprite, theme.fate delivery.sprite (faults 0) fetched) ::
      fates (fun i => faults (i + 1)) left after later

/-- What becomes of the sprites of the loader in the course of a load that has its pool. -/
def offeredFates (name : Option String) (size : UInt32) (loader : Loader) (trouble : Trouble)
    (host : Host) : List (Sprite × Fate) :=
  let requested := name.getD standardName
  let catalogue := loader requested size
  fates trouble.storing (opened requested size host) (announceOpened size catalogue host)
    catalogue.deliveries

/-- What becomes of the built-in cursors when a theme may turn to them: nothing, unless it has no
cursors. -/
def fallbackFates (faults : Nat → Nat → Option SystemCall) (theme : Theme) (host : Host) :
    List (Sprite × Fate) :=
  if theme.cursors.isEmpty then
    fates faults { theme with name := standardName } (host.log (.builtinsUsed theme.name))
      (Catalogue.ofSprites Builtin.sprites).deliveries
  else []

/-- What becomes of the built-in cursors in the course of a load that has its pool. -/
def builtinFates (name : Option String) (size : UInt32) (loader : Loader) (trouble : Trouble)
    (host : Host) : List (Sprite × Fate) :=
  let requested := name.getD standardName
  let catalogue := loader requested size
  let (theme, _, host) := addDeliveries trouble.storing (opened requested size host)
    (announceOpened size catalogue host) catalogue.deliveries
  fallbackFates trouble.fallback theme (host.logAll catalogue.closing)

/-- One sprite meets its fate, and then the others meet theirs. -/
theorem fates_cons (faults : Nat → Nat → Option SystemCall) (theme : Theme) (host : Host)
    (delivery : Delivery) (later : List Delivery) :
    fates faults theme host (delivery :: later)
      = (delivery.sprite,
          theme.fate delivery.sprite (faults 0) (host.logAll delivery.notices)) ::
        fates (fun i => faults (i + 1))
          (theme.add delivery.sprite (faults 0) (host.logAll delivery.notices)).1
          (theme.add delivery.sprite (faults 0) (host.logAll delivery.notices)).2 later := rfl

/-- Each sprite is followed by its fate. -/
theorem map_fst_fates (faults : Nat → Nat → Option SystemCall) (theme : Theme) (host : Host)
    (deliveries : List Delivery) :
    (fates faults theme host deliveries).map Prod.fst = deliveries.map Delivery.sprite := by
  induction deliveries generalizing faults theme host with
  | nil => rfl
  | cons delivery later ih => exact congrArg (delivery.sprite :: ·) (ih _ _ _)

/-- The sprites of the loader are followed. -/
theorem map_fst_offeredFates (name : Option String) (size : UInt32) (loader : Loader)
    (trouble : Trouble) (host : Host) :
    (offeredFates name size loader trouble host).map Prod.fst = offered loader name size :=
  map_fst_fates _ _ _ _

end Theme

/-! ## Why a sprite is dropped -/

/-- **Why a frame is not stored**: something is wrong with it, or the pool has no bytes for it. -/
inductive Frame.Fails (name : String) (frame : Frame) : CursorError → Prop
  /-- Something is wrong with the frame. -/
  | malformed {defect : Defect} (ill : frame.storedLength = .error defect) :
    Fails name frame (.malformed name defect)
  /-- The pool has no bytes for the frame. -/
  | refused {capacity : Nat} {cause : PoolFailure} (formed : frame.WellFormed) :
    Fails name frame (.allocation frame.pixelLength capacity cause)

namespace Cursor

/-- A frame that is not charged fails. -/
theorem fails_of_storeFrame {pool left : Pool} {name : String} {frame : Frame}
    {fault : Option SystemCall} {host after : Host} {error : CursorError} (sized : pool.Sized)
    (failed : storeFrame pool name frame fault host = (.error error, left, after)) :
    frame.Fails name error := by
  by_cases formed : frame.WellFormed
  · by_cases grants : Pool.Grants pool.capacity pool.used frame.pixelLength fault
    · rw [storeFrame_of_charges ⟨formed, grants⟩] at failed
      cases failed
    · obtain ⟨cause, backing, after, refused, -, -⟩ :=
        Pool.allocate_of_not_grants sized grants host
      simp only [storeFrame, Frame.storedLength_of_wellFormed formed, refused] at failed
      cases failed
      exact .refused formed
  · obtain ⟨defect, ill⟩ := Frame.storedLength_of_not_wellFormed formed
    simp only [storeFrame, ill] at failed
    cases failed
    exact .malformed ill

/-- Frames are not stored if one of them fails. -/
theorem exists_fails_of_storeFrames {name : String} {frames : List Frame} {pool left : Pool}
    {faults : Nat → Option SystemCall} {host after : Host} {error : CursorError}
    (sized : pool.Sized)
    (failed : storeFrames pool name faults host frames = (.error error, left, after)) :
    ∃ frame ∈ frames, frame.Fails name error := by
  induction frames generalizing pool left host after faults with
  | nil => cases failed
  | cons frame later ih =>
    by_cases charges : Pool.Charges pool.capacity pool.used frame (faults 0)
    · simp only [storeFrames, storeFrame_of_charges charges] at failed
      split at failed
      · rename_i rest
        cases failed
        obtain ⟨other, member, fails⟩ := ih (Pool.sized_filled sized charges) rest
        exact ⟨other, List.mem_cons_of_mem frame member, fails⟩
      · cases failed
    · obtain ⟨refusal, backing, refusedHost, refused, -, -⟩ :=
        storeFrame_of_not_charges sized charges name host
      simp only [storeFrames, refused] at failed
      cases failed
      exact ⟨frame, List.mem_cons_self, fails_of_storeFrame sized refused⟩

/-- **Why a sprite is not stored**: it has no name, or no frame, or one of its frames fails. -/
theorem store_error_cases {pool left : Pool} {sprite : Sprite} {faults : Nat → Option SystemCall}
    {host after : Host} {error : CursorError} (sized : pool.Sized)
    (failed : store pool sprite faults host = (.error error, left, after)) :
    (sprite.name = "" ∧ error = .malformed sprite.name .emptyName) ∨
      (sprite.frames = [] ∧ error = .malformed sprite.name .noFrames) ∨
      ∃ frame ∈ sprite.frames, frame.Fails sprite.name error := by
  unfold store at failed
  split at failed
  · rename_i unnamed
    cases failed
    exact Or.inl ⟨by simpa using unnamed, rfl⟩
  · split at failed
    · rename_i bare
      cases failed
      exact Or.inr (Or.inl ⟨by simpa using bare, rfl⟩)
    · split at failed
      · rename_i stored
        cases failed
        exact Or.inr (Or.inr (exists_fails_of_storeFrames sized stored))
      · cases failed

end Cursor

/-! ## What the log says -/

/-- What a notice says of a sprite that is not stored: its name, and what becomes of it. -/
def Notice.outcome? : Notice → Option (String × Fate)
  | .duplicateIgnored name => some (name, .ignored)
  | .cursorDropped name cause => some (name, .dropped cause)
  | _ => none

/-- What the log says of sprites that were not stored, in order. -/
def Host.outcomes (host : Host) : List (String × Fate) := host.notices.filterMap Notice.outcome?

/-- What there is to say of a sprite, unless it is stored. -/
def Fate.report? : Sprite × Fate → Option (String × Fate)
  | (_, .stored) => none
  | (sprite, fate) => some (sprite.name, fate)

namespace Host

@[simp] theorem outcomes_send (host : Host) (request : Request) :
    (host.send request).outcomes = host.outcomes := rfl

@[simp] theorem outcomes_hold (host : Host) (pool : Handle) :
    (host.hold pool).outcomes = host.outcomes := rfl

@[simp] theorem outcomes_log (host : Host) (notice : Notice) :
    (host.log notice).outcomes = host.outcomes ++ notice.outcome?.toList := by
  rw [outcomes, notices_log, List.filterMap_append]
  cases said : notice.outcome? <;> simp [outcomes, said]

@[simp] theorem outcomes_logAll (host : Host) (notices : List Notice) :
    (host.logAll notices).outcomes = host.outcomes ++ notices.filterMap Notice.outcome? := by
  rw [outcomes, notices_logAll, List.filterMap_append, outcomes]

/-- A notice that tells of no sprite leaves what the log says of sprites. -/
theorem outcomes_log_of_silent {host : Host} {notice : Notice} (silent : notice.outcome? = none) :
    (host.log notice).outcomes = host.outcomes := by
  rw [outcomes_log, silent]
  exact List.append_nil _

/-- Notices that tell of no sprite leave what the log says of sprites. -/
theorem outcomes_logAll_of_silent {host : Host} {notices : List Notice}
    (silent : ∀ notice ∈ notices, notice.outcome? = none) :
    (host.logAll notices).outcomes = host.outcomes := by
  rw [outcomes_logAll, List.filterMap_eq_nil_iff.mpr silent, List.append_nil]

@[simp] theorem outcomes_release (host : Host) (pool : Handle) :
    (host.release pool).outcomes = host.outcomes := by
  simp only [release]
  split <;> rfl

/-- Making a pool says nothing of sprites. -/
theorem outcomes_announceFresh (capacity : Nat) (host : Host) :
    (Pool.announceFresh capacity host).outcomes = host.outcomes := by
  rw [Pool.announceFresh, outcomes_hold, outcomes_log_of_silent rfl]
  rfl

end Host

/-- The end of an image says nothing of sprites. -/
@[simp] theorem Image.outcomes_destroy (image : Image) (host : Host) :
    (image.destroy host).outcomes = host.outcomes := by
  unfold destroy
  split <;> simp

/-- A growth says nothing of sprites. -/
@[simp] theorem Pool.outcomes_grow (pool : Pool) (size : Nat) (fault : Option SystemCall)
    (host : Host) : (pool.grow size fault host).2.2.outcomes = host.outcomes := by
  unfold grow
  split
  · rfl
  · split <;> simp [Notice.outcome?]

/-- An allocation says nothing of sprites. -/
@[simp] theorem Pool.outcomes_allocate (pool : Pool) (size : Nat) (fault : Option SystemCall)
    (host : Host) : (pool.allocate size fault host).2.2.outcomes = host.outcomes := by
  have grown := pool.outcomes_grow size fault host
  unfold allocate
  split
  · rfl
  · split
    · rfl
    · split <;> simpa [*] using grown

namespace Cursor

/-- Storing a frame says nothing of sprites. -/
@[simp] theorem outcomes_storeFrame (pool : Pool) (name : String) (frame : Frame)
    (fault : Option SystemCall) (host : Host) :
    (storeFrame pool name frame fault host).2.2.outcomes = host.outcomes := by
  unfold storeFrame
  split
  · rfl
  · rename_i length fits
    have allocated := pool.outcomes_allocate length fault host
    split
    · simpa [*] using allocated
    · split <;> simpa [*] using allocated

/-- Storing frames says nothing of sprites. -/
@[simp] theorem outcomes_storeFrames (pool : Pool) (name : String) (frames : List Frame)
    (faults : Nat → Option SystemCall) (host : Host) :
    (storeFrames pool name faults host frames).2.2.outcomes = host.outcomes := by
  induction frames generalizing pool faults host with
  | nil => rfl
  | cons frame later ih =>
    have here := outcomes_storeFrame pool name frame (faults 0) host
    unfold storeFrames
    split
    · simpa [*] using here
    · rename_i image left between stored
      have rest := (ih left (fun i => faults (i + 1)) between).trans (by simpa [stored] using here)
      -- whether or not the later frames are stored, the end of this image says nothing
      split
      · rename_i error last after failed
        rw [failed] at rest
        rw [Image.outcomes_destroy]
        exact rest
      · rename_i images last after complete
        rw [complete] at rest
        exact rest

/-- Storing a sprite says nothing of sprites. -/
@[simp] theorem outcomes_store (pool : Pool) (sprite : Sprite)
    (faults : Nat → Option SystemCall) (host : Host) :
    (store pool sprite faults host).2.2.outcomes = host.outcomes := by
  have here := outcomes_storeFrames pool sprite.name sprite.frames faults host
  unfold store
  split
  · rfl
  · split
    · rfl
    · split <;> simpa [*] using here

end Cursor

/-- Everything that a loader says of a theme, in order. -/
def Catalogue.notices (catalogue : Catalogue) : List Notice :=
  catalogue.opening ++ catalogue.deliveries.flatMap Delivery.notices ++ catalogue.closing

namespace Theme

/-- **The log tells the fate of a sprite that is not stored.** -/
theorem outcomes_add (theme : Theme) (sprite : Sprite) (faults : Nat → Option SystemCall)
    (host : Host) :
    (theme.add sprite faults host).2.outcomes
      = host.outcomes ++ (Fate.report? (sprite, theme.fate sprite faults host)).toList := by
  have here := Cursor.outcomes_store theme.pool sprite faults host
  unfold add fate
  split
  · exact Host.outcomes_log host _
  · generalize Cursor.store theme.pool sprite faults host = stored at here ⊢
    obtain ⟨error | cursor, left, after⟩ := stored
    · rw [← here]
      exact Host.outcomes_log after _
    · rw [← here]
      exact (List.append_nil _).symm

/-- The log tells the fates of the sprites that were not stored, in order, if the loader says nothing
of the kind. -/
theorem outcomes_addDeliveries (deliveries : List Delivery) (theme : Theme)
    (faults : Nat → Nat → Option SystemCall) (host : Host)
    (silent : ∀ delivery ∈ deliveries, ∀ notice ∈ delivery.notices, notice.outcome? = none) :
    (addDeliveries faults theme host deliveries).2.2.outcomes
      = host.outcomes ++ (fates faults theme host deliveries).filterMap Fate.report? := by
  induction deliveries generalizing theme host faults with
  | nil => exact (List.append_nil _).symm
  | cons delivery later ih =>
    have quiet : (host.logAll delivery.notices).outcomes = host.outcomes :=
      Host.outcomes_logAll_of_silent (silent delivery List.mem_cons_self)
    have here := outcomes_add theme delivery.sprite (faults 0) (host.logAll delivery.notices)
    have rest := ih (theme.add delivery.sprite (faults 0) (host.logAll delivery.notices)).1
      (fun i => faults (i + 1))
      (theme.add delivery.sprite (faults 0) (host.logAll delivery.notices)).2
      (fun other member => silent other (List.mem_cons_of_mem delivery member))
    rw [here, quiet, List.append_assoc] at rest
    simp only [addDeliveries, fates_cons, List.filterMap_cons]
    rw [rest]
    cases Fate.report? (delivery.sprite, theme.fate delivery.sprite (faults 0)
      (host.logAll delivery.notices)) <;> rfl

/-- Adding sprites that are at hand is adding what their catalogue delivers. -/
theorem addDeliveries_ofSprites (sprites : List Sprite) (theme : Theme)
    (faults : Nat → Nat → Option SystemCall) (host : Host) :
    (addDeliveries faults theme host (Catalogue.ofSprites sprites).deliveries).1
        = (addSprites faults theme host sprites).1 ∧
      (addDeliveries faults theme host (Catalogue.ofSprites sprites).deliveries).2.2
        = (addSprites faults theme host sprites).2 := by
  induction sprites generalizing theme host faults with
  | nil => exact ⟨rfl, rfl⟩
  | cons sprite later ih =>
    have silent : host.logAll [] = host := by simp [Host.logAll]
    have rest := ih (theme.add sprite (faults 0) host).1 (fun i => faults (i + 1))
      (theme.add sprite (faults 0) host).2
    simp only [Catalogue.ofSprites, List.map_cons, addDeliveries, addSprites, silent] at rest ⊢
    exact rest

/-- The log tells the fates of the built-in cursors that were not stored. -/
theorem outcomes_orBuiltins (faults : Nat → Nat → Option SystemCall) (theme : Theme) (host : Host) :
    (orBuiltins faults theme host).2.outcomes
      = host.outcomes ++ (fallbackFates faults theme host).filterMap Fate.report? := by
  have silent : ∀ delivery ∈ (Catalogue.ofSprites Builtin.sprites).deliveries,
      ∀ notice ∈ delivery.notices, notice.outcome? = none := by
    intro delivery listed notice member
    obtain ⟨sprite, -, rfl⟩ := List.mem_map.mp listed
    cases member
  unfold orBuiltins fallbackFates
  split
  · rw [← (addDeliveries_ofSprites _ _ _ _).2, outcomes_addDeliveries _ _ _ _ silent,
      Host.outcomes_log_of_silent rfl]
  · exact (List.append_nil _).symm

/-- **The log of a load tells the fates of the sprites that were not stored**, of those of the loader
and then of the built-in cursors, and it tells of no other sprite, if the loader says nothing of the
kind. -/
theorem outcomes_load {name : Option String} {size : UInt32} {loader : Loader} {trouble : Trouble}
    {host : Host} {theme : Theme}
    (loaded : (load name size loader trouble host).outcome = .ok theme)
    (silent : ∀ notice ∈ (loader (name.getD standardName) size).notices, notice.outcome? = none) :
    (load name size loader trouble host).host.outcomes
      = host.outcomes ++ (offeredFates name size loader trouble host ++
          builtinFates name size loader trouble host).filterMap Fate.report? := by
  obtain ⟨free, accepted⟩ := clear_of_load_eq_ok loaded
  have complete := load_of_clear free accepted name size loader host
  simp only at complete
  rw [complete]
  simp only [Catalogue.notices, List.mem_append, List.mem_flatMap] at silent
  have opened : (announceOpened size (loader (name.getD standardName) size) host).outcomes
      = host.outcomes := by
    rw [announceOpened, Host.outcomes_logAll_of_silent fun notice member =>
      silent notice (Or.inl (Or.inl member)), Host.outcomes_announceFresh]
  have added := outcomes_addDeliveries (loader (name.getD standardName) size).deliveries
    (Theme.opened (name.getD standardName) size host) trouble.storing
    (announceOpened size (loader (name.getD standardName) size) host)
    fun delivery listed notice member =>
      silent notice (Or.inl (Or.inr ⟨delivery, listed, member⟩))
  rw [Host.outcomes_log_of_silent rfl, outcomes_orBuiltins,
    Host.outcomes_logAll_of_silent fun notice member => silent notice (Or.inr member), added, opened,
    List.filterMap_append, ← List.append_assoc]
  rfl

end Theme

end CursorThemes
