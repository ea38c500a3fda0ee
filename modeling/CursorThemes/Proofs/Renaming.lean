import CursorThemes.Proofs.Storing

/-! # Other names for handles

A service numbers pools and buffers as it likes. Nothing that a client does depends on the numbers:
with other names for the handles, the same steps come to the same results, under these names.

* **`Theme.renamed`** is a theme with other names for its handles, and **`Request.renamed`** a request.
  Nothing else about them is changed.
* **`Host.Mirrors`** relates two hosts: one pool is held as often at both, the next handles correspond,
  and what the second was sent is what the first was sent, under the other names.
* **`Host.Parallel`** relates two steps, on a pool and on the pool under its other name, and
  **`Theme.load_mirrors`** says that two loads are related like this, from the making of the pool to
  the last cursor. -/

namespace CursorThemes

/-! ## Renaming -/

/-- A request under other names. -/
def Request.renamed (names : Handle → Handle) : Request → Request
  | createPool id size => createPool (names id) size
  | resizePool id size => resizePool (names id) size
  | createBuffer id pool offset width height stride =>
    createBuffer (names id) (names pool) offset width height stride
  | destroyPool id => destroyPool (names id)
  | destroyBuffer id => destroyBuffer (names id)

/-- An image whose pool and buffer have other names. -/
def Image.renamed (names : Handle → Handle) (image : Image) : Image :=
  { image with pool := names image.pool, buffer := image.buffer.map names }

/-- A cursor whose images have other names for their handles. -/
def Cursor.renamed (names : Handle → Handle) (cursor : Cursor) : Cursor :=
  { cursor with images := cursor.images.map (Image.renamed names) }

/-- A pool that the service knows under another name. -/
def Pool.renamed (names : Handle → Handle) (pool : Pool) : Pool :=
  { pool with handle := names pool.handle }

/-- **A theme with other names for its handles.** Its cursors, their images and places, which of them
have a buffer, and the pool with its bytes stay as they are. -/
def Theme.renamed (names : Handle → Handle) (theme : Theme) : Theme :=
  { theme with
    cursors := theme.cursors.map (Cursor.renamed names)
    pool := theme.pool.renamed names }

@[simp] theorem Request.renamed_id (request : Request) : request.renamed id = request := by
  cases request <;> rfl

@[simp] theorem Image.renamed_id (image : Image) : image.renamed id = image := by
  rw [renamed, Option.map_id, id, id]

@[simp] theorem Cursor.renamed_id (cursor : Cursor) : cursor.renamed id = cursor := by
  rw [renamed, List.map_id'' Image.renamed_id]

@[simp] theorem Pool.renamed_id (pool : Pool) : pool.renamed id = pool := rfl

@[simp] theorem Theme.renamed_id (theme : Theme) : theme.renamed id = theme := by
  rw [renamed, List.map_id'' Cursor.renamed_id, Pool.renamed_id]

/-- The pixels of an image do not depend on names. -/
@[simp] theorem Theme.pixels?_renamed (names : Handle → Handle) (theme : Theme) (image : Image) :
    (theme.renamed names).pixels? (image.renamed names) = theme.pixels? image := rfl

/-- A cursor is found under its name, whatever the names of its handles. -/
theorem Theme.find?_renamed (names : Handle → Handle) (theme : Theme) (name : String) :
    (theme.renamed names).find? name = (theme.find? name).map (Cursor.renamed names) := by
  rw [find?, renamed, List.find?_map]
  rfl

/-! ## Hosts that mirror each other -/

/-- **A host mirrors another one**, as far as the pool `held` is concerned. Since they had received the
requests `logs`, each its own, the second has received what the first has, under other names; the
handles that they give out next correspond; and the pool has as many holders at both. -/
structure Host.Mirrors (names : Handle → Handle) (held : Handle) (logs : List Request × List Request)
    (host twin : Host) : Prop where
  /-- The same requests were received. -/
  requests : ∃ sent, host.requests = logs.1 ++ sent ∧
    twin.requests = logs.2 ++ sent.map (Request.renamed names)
  /-- The next handles correspond. -/
  next : ∀ k, names (host.lastHandle + (k + 1)) = twin.lastHandle + (k + 1)
  /-- The pool has as many holders. -/
  count : twin.holds.count (names held) = host.holds.count held

namespace Host.Mirrors

variable {names : Handle → Handle} {held : Handle} {logs : List Request × List Request}
variable {host twin after done : Host}

/-- What is logged does not matter. -/
theorem of_alike (mirrors : host.Mirrors names held logs twin) (alike : Alike host after)
    (twinAlike : Alike twin done) : after.Mirrors names held logs done := by
  refine ⟨?_, ?_, ?_⟩
  · rw [alike.requests, twinAlike.requests]
    exact mirrors.requests
  · rw [alike.lastHandle, twinAlike.lastHandle]
    exact mirrors.next
  · rw [alike.holds, twinAlike.holds]
    exact mirrors.count

/-- One request is received by both. -/
theorem of_request (mirrors : host.Mirrors names held logs twin) {request : Request}
    (requests : after.requests = host.requests ++ [request])
    (twinRequests : done.requests = twin.requests ++ [request.renamed names]) :
    ∃ sent, after.requests = logs.1 ++ sent ∧
      done.requests = logs.2 ++ sent.map (Request.renamed names) := by
  obtain ⟨sent, first, second⟩ := mirrors.requests
  refine ⟨sent ++ [request], ?_, ?_⟩
  · rw [requests, first, List.append_assoc]
  · rw [twinRequests, second, List.map_append, List.map_singleton, List.append_assoc]

/-- Both are sent a request. -/
theorem send (mirrors : host.Mirrors names held logs twin) (request : Request) :
    (host.send request).Mirrors names held logs (twin.send (request.renamed names)) :=
  ⟨mirrors.of_request rfl rfl, mirrors.next, mirrors.count⟩

/-- Both give out a handle. -/
theorem acquire (mirrors : host.Mirrors names held logs twin) {request twinRequest : Handle → Request}
    (same : ∀ id, twinRequest (names id) = (request id).renamed names) :
    (host.acquire request).2.Mirrors names held logs (twin.acquire twinRequest).2 := by
  have first : names (host.lastHandle + 1) = twin.lastHandle + 1 := mirrors.next 0
  refine ⟨mirrors.of_request (requests_acquire host request) ?_, ?_, mirrors.count⟩
  · rw [requests_acquire, ← first, same]
  · intro k
    have later := mirrors.next (k + 1)
    rw [lastHandle_acquire, lastHandle_acquire, Nat.add_assoc, Nat.add_assoc, Nat.add_comm 1]
    exact later

/-- The pool gets a further holder at both. -/
theorem hold (mirrors : host.Mirrors names held logs twin) :
    (host.hold held).Mirrors names held logs (twin.hold (names held)) := by
  refine ⟨mirrors.requests, mirrors.next, ?_⟩
  rw [holds_hold, holds_hold, List.count_cons_self, List.count_cons_self, mirrors.count]

/-- A holder lets go of the pool at both. -/
theorem release (mirrors : host.Mirrors names held logs twin) :
    (host.release held).Mirrors names held logs (twin.release (names held)) := by
  have left : (twin.holds.erase (names held)).count (names held)
      = (host.holds.erase held).count held := by
    rw [List.count_erase_self, List.count_erase_self, mirrors.count]
  refine ⟨?_, ?_, ?_⟩
  · -- somebody else holds the pool at both, or at none of them
    by_cases kept : held ∈ host.holds.erase held
    · have twinKept : names held ∈ twin.holds.erase (names held) := by
        rwa [← List.count_pos_iff, left, List.count_pos_iff]
      rw [requests_release_of_mem kept, requests_release_of_mem twinKept]
      exact mirrors.requests
    · have twinLast : names held ∉ twin.holds.erase (names held) := by
        rwa [← List.count_eq_zero, left, List.count_eq_zero]
      exact mirrors.of_request (requests_release_of_not_mem kept)
        (requests_release_of_not_mem twinLast)
  · rw [lastHandle_release, lastHandle_release]
    exact mirrors.next
  · rw [holds_release, holds_release]
    exact left

/-- An image in the pool ends at both. -/
theorem destroy (mirrors : host.Mirrors names held logs twin) {image : Image}
    (inside : image.pool = held) :
    (image.destroy host).Mirrors names held logs ((image.renamed names).destroy twin) := by
  subst inside
  unfold Image.destroy Image.renamed
  cases image.buffer with
  | none => exact mirrors.release
  | some buffer => exact (mirrors.send (.destroyBuffer buffer)).release

/-- Images in the pool end at both. -/
theorem destroy_all (mirrors : host.Mirrors names held logs twin) {images : List Image}
    (inside : ∀ image ∈ images, image.pool = held) :
    (images.foldl (fun host image => image.destroy host) host).Mirrors names held logs
      ((images.map (Image.renamed names)).foldl (fun host image => image.destroy host) twin) := by
  induction images generalizing host twin with
  | nil => exact mirrors
  | cons image later ih =>
    exact ih (mirrors.destroy (inside image List.mem_cons_self))
      fun other member => inside other (List.mem_cons_of_mem _ member)

end Host.Mirrors

/-! ## Steps that differ in names only -/

/-- **Two steps on a pool that differ in names only.** On any two hosts they come to the same, under
other names, and to the same pool; and two hosts that mirror each other still do so afterwards. -/
def Host.Parallel (names : Handle → Handle) (held : Handle) {α : Type} (rename : α → α)
    (step twinStep : Host → α × Pool × Host) : Prop :=
  ∀ host twin, ∃ outcome left after done,
    step host = (outcome, left, after) ∧
    twinStep twin = (rename outcome, left.renamed names, done) ∧ left.handle = held ∧
    ∀ {logs}, host.Mirrors names held logs twin → after.Mirrors names held logs done

/-- **Two steps on a theme that differ in names only.** -/
def Host.ParallelOn (names : Handle → Handle) (held : Handle) (step twinStep : Host → Theme × Host) :
    Prop :=
  ∀ host twin, (twinStep twin).1 = (step host).1.renamed names ∧
    (step host).1.pool.handle = held ∧
    ∀ {logs}, host.Mirrors names held logs twin →
      (step host).2.Mirrors names held logs (twinStep twin).2

variable (names : Handle → Handle)

namespace Pool

/-- A pool grows the same under another name. -/
theorem grow_parallel (pool : Pool) (size : Nat) (fault : Option SystemCall) :
    Host.Parallel names pool.handle id (pool.grow size fault)
      ((pool.renamed names).grow size fault) := by
  intro host twin
  by_cases full : pool.used + size > maxPoolSize
  · have twinFull : (pool.renamed names).used + size > maxPoolSize := full
    rw [grow, grow, if_pos full, if_pos twinFull]
    exact ⟨_, _, _, _, rfl, rfl, rfl, fun mirrors => mirrors⟩
  · have twinFull : ¬ (pool.renamed names).used + size > maxPoolSize := full
    rw [grow, grow, if_neg full, if_neg twinFull]
    -- a growth is told to the service, under the name that the pool has there
    have told : ∀ {logs}, host.Mirrors names pool.handle logs twin →
        ((host.send (.resizePool pool.handle (.ofNat (grownCapacity pool.capacity size)))).log
          (.poolGrown pool.capacity (grownCapacity pool.capacity size))).Mirrors names pool.handle logs
          ((twin.send (.resizePool (names pool.handle)
            (.ofNat (grownCapacity pool.capacity size)))).log
              (.poolGrown pool.capacity (grownCapacity pool.capacity size))) :=
      fun mirrors => (mirrors.send (.resizePool pool.handle _)).of_alike (Host.alike_log _ _)
        (Host.alike_log _ _)
    rcases fault with - | error | error | error | ⟨error, uncut⟩
    · exact ⟨_, _, _, _, rfl, rfl, rfl, told⟩
    · exact ⟨_, _, _, _, rfl, rfl, rfl, told⟩
    · exact ⟨_, _, _, _, rfl, rfl, rfl, fun mirrors => mirrors⟩
    · exact ⟨_, _, _, _, rfl, rfl, rfl, fun mirrors => mirrors⟩
    · exact ⟨_, _, _, _, rfl, rfl, rfl, fun mirrors =>
        mirrors.of_alike (Host.alike_log _ _) (Host.alike_log _ _)⟩

/-- A pool gives out the same under another name. -/
theorem allocate_parallel (pool : Pool) (size : Nat) (fault : Option SystemCall) :
    Host.Parallel names pool.handle id (pool.allocate size fault)
      ((pool.renamed names).allocate size fault) := by
  intro host twin
  obtain ⟨outcome, left, after, done, here, there, handle, follows⟩ :=
    pool.grow_parallel names size fault host twin
  by_cases empty : size = 0
  · rw [allocate, allocate, if_pos empty, if_pos empty]
    exact ⟨_, _, _, _, rfl, rfl, rfl, fun mirrors => mirrors⟩
  · rw [allocate, allocate, if_neg empty, if_neg empty]
    by_cases fits : pool.used + size ≤ pool.capacity
    · have twinFits : (pool.renamed names).used + size ≤ (pool.renamed names).capacity := fits
      rw [if_pos fits, if_pos twinFits]
      exact ⟨_, _, _, _, rfl, rfl, rfl, fun mirrors => mirrors⟩
    · have twinFits : ¬ (pool.renamed names).used + size ≤ (pool.renamed names).capacity := fits
      rw [if_neg fits, if_neg twinFits, here, there]
      cases outcome with
      | error cause => exact ⟨_, _, _, _, rfl, rfl, handle, follows⟩
      | ok done => exact ⟨_, _, _, _, rfl, rfl, handle, follows⟩

/-- Writing does not depend on names. -/
theorem store?_renamed (pool : Pool) (range : Allocation) (start : Nat) (bytes : List UInt8) :
    (pool.renamed names).store? range start bytes
      = (pool.store? range start bytes).map fun written => (written.1, written.2.renamed names) := by
  unfold store?
  by_cases outside : range.stop > pool.used
  · have twinOutside : range.stop > (pool.renamed names).used := outside
    rw [if_pos outside, if_pos twinOutside, Option.map_none]
  · have twinOutside : ¬ range.stop > (pool.renamed names).used := outside
    rw [if_neg outside, if_neg twinOutside]
    rfl

/-- Writing is to the same pool. -/
theorem handle_of_store? {pool after : Pool} {range : Allocation} {start count : Nat}
    {bytes : List UInt8} (stored : pool.store? range start bytes = some (count, after)) :
    after.handle = pool.handle := by
  unfold store? at stored
  split at stored
  · cases stored
  · cases stored
    rfl

end Pool

namespace Cursor

/-- A frame is stored the same under other names. -/
theorem storeFrame_parallel (pool : Pool) (name : String) (frame : Frame)
    (fault : Option SystemCall) :
    Host.Parallel names pool.handle (Except.map (Image.renamed names))
      (storeFrame pool name frame fault) (storeFrame (pool.renamed names) name frame fault) := by
  intro host twin
  simp only [storeFrame]
  cases frame.storedLength with
  | error defect => exact ⟨_, _, _, _, rfl, rfl, rfl, fun mirrors => mirrors⟩
  | ok length =>
    obtain ⟨outcome, left, after, done, here, there, handle, follows⟩ :=
      pool.allocate_parallel names length fault host twin
    simp only [here, there, id]
    cases outcome with
    | error error => exact ⟨_, _, _, _, rfl, rfl, handle, follows⟩
    | ok place =>
      simp only [Pool.store?_renamed]
      cases written : left.store? place 0 frame.pixels with
      | none => exact ⟨_, _, _, _, rfl, rfl, handle, follows⟩
      | some result =>
        obtain ⟨count, filled⟩ := result
        have same : filled.handle = pool.handle := (Pool.handle_of_store? written).trans handle
        refine ⟨_, _, _, _, rfl, rfl, same, fun mirrors => ?_⟩
        rw [same]
        have held : (filled.renamed names).handle = names pool.handle := congrArg names same
        rw [held]
        exact (follows mirrors).hold

/-- A frame that is stored has its image in the pool. -/
theorem pool_of_storeFrame {pool left : Pool} {name : String} {frame : Frame}
    {fault : Option SystemCall} {host after : Host} {image : Image}
    (stored : storeFrame pool name frame fault host = (.ok image, left, after)) :
    image.pool = left.handle := by
  simp only [storeFrame] at stored
  split at stored
  · cases stored
  · split at stored
    · cases stored
    · split at stored
      · cases stored
      · cases stored
        rfl

/-- Frames are stored the same under other names. -/
theorem storeFrames_parallel (name : String) (frames : List Frame) (pool : Pool)
    (faults : Nat → Option SystemCall) :
    Host.Parallel names pool.handle (Except.map (List.map (Image.renamed names)))
      (fun host => storeFrames pool name faults host frames)
      (fun host => storeFrames (pool.renamed names) name faults host frames) := by
  induction frames generalizing pool faults with
  | nil => exact fun host twin => ⟨_, _, _, _, rfl, rfl, rfl, fun mirrors => mirrors⟩
  | cons frame later ih =>
    intro host twin
    obtain ⟨outcome, left, after, done, here, there, handle, follows⟩ :=
      storeFrame_parallel names pool name frame (faults 0) host twin
    simp only [storeFrames, here, there]
    cases outcome with
    | error error => exact ⟨_, _, _, _, rfl, rfl, handle, follows⟩
    | ok image =>
      obtain ⟨rest, last, afterRest, doneRest, restHere, restThere, restHandle, restFollows⟩ :=
        ih left (fun i => faults (i + 1)) after done
      rw [handle] at restHandle restFollows
      simp only [Except.map, restHere, restThere]
      cases rest with
      | error error =>
        -- the image that was stored before ends at both hosts
        refine ⟨_, _, _, _, rfl, rfl, restHandle, fun mirrors => ?_⟩
        exact (restFollows (follows mirrors)).destroy ((pool_of_storeFrame here).trans handle)
      | ok images =>
        exact ⟨_, _, _, _, rfl, rfl, restHandle, fun mirrors => restFollows (follows mirrors)⟩

/-- A sprite is stored the same under other names. -/
theorem store_parallel (pool : Pool) (sprite : Sprite) (faults : Nat → Option SystemCall) :
    Host.Parallel names pool.handle (Except.map (Cursor.renamed names)) (store pool sprite faults)
      (store (pool.renamed names) sprite faults) := by
  intro host twin
  unfold store
  split
  · exact ⟨_, _, _, _, rfl, rfl, rfl, fun mirrors => mirrors⟩
  · split
    · exact ⟨_, _, _, _, rfl, rfl, rfl, fun mirrors => mirrors⟩
    · obtain ⟨outcome, left, after, done, here, there, handle, follows⟩ :=
        storeFrames_parallel names sprite.name sprite.frames pool faults host twin
      simp only [here, there]
      cases outcome with
      | error error => exact ⟨_, _, _, _, rfl, rfl, handle, follows⟩
      | ok images => exact ⟨_, _, _, _, rfl, rfl, handle, follows⟩

end Cursor

namespace Theme

/-- A theme takes in a sprite the same under other names. -/
theorem add_parallel (theme : Theme) (sprite : Sprite) (faults : Nat → Option SystemCall) :
    Host.ParallelOn names theme.pool.handle (theme.add sprite faults)
      ((theme.renamed names).add sprite faults) := by
  intro host twin
  simp only [add, find?_renamed, Option.isSome_map]
  by_cases taken : (theme.find? sprite.name).isSome
  · rw [if_pos taken, if_pos taken]
    exact ⟨rfl, rfl, fun mirrors => mirrors.of_alike (Host.alike_log _ _) (Host.alike_log _ _)⟩
  · rw [if_neg taken, if_neg taken]
    obtain ⟨outcome, left, after, done, here, there, handle, follows⟩ :=
      Cursor.store_parallel names theme.pool sprite faults host twin
    have twinThere : Cursor.store (theme.renamed names).pool sprite faults twin
        = (outcome.map (Cursor.renamed names), left.renamed names, done) := there
    simp only [here, twinThere]
    cases outcome with
    | error error =>
      exact ⟨rfl, handle, fun mirrors =>
        (follows mirrors).of_alike (Host.alike_log _ _) (Host.alike_log _ _)⟩
    | ok cursor =>
      refine ⟨?_, handle, follows⟩
      simp only [Except.map, renamed, List.map_append, List.map_cons, List.map_nil]

/-- A theme takes in sprites the same under other names. -/
theorem addSprites_parallel (sprites : List Sprite) (theme : Theme)
    (faults : Nat → Nat → Option SystemCall) :
    Host.ParallelOn names theme.pool.handle (fun host => addSprites faults theme host sprites)
      (fun host => addSprites faults (theme.renamed names) host sprites) := by
  induction sprites generalizing theme faults with
  | nil => exact fun host twin => ⟨rfl, rfl, fun mirrors => mirrors⟩
  | cons sprite later ih =>
    intro host twin
    obtain ⟨same, handle, follows⟩ := theme.add_parallel names sprite (faults 0) host twin
    obtain ⟨restSame, restHandle, restFollows⟩ :=
      ih (theme.add sprite (faults 0) host).1 (fun i => faults (i + 1))
        (theme.add sprite (faults 0) host).2 ((theme.renamed names).add sprite (faults 0) twin).2
    rw [handle] at restHandle restFollows
    simp only [addSprites]
    rw [same]
    exact ⟨restSame, restHandle, fun mirrors => restFollows (follows mirrors)⟩

/-- A theme takes in what is delivered the same under other names. -/
theorem addDeliveries_parallel (deliveries : List Delivery) (theme : Theme)
    (faults : Nat → Nat → Option SystemCall) (host twin : Host) :
    let added := addDeliveries faults theme host deliveries
    let twinAdded := addDeliveries faults (theme.renamed names) twin deliveries
    twinAdded.1 = added.1.renamed names ∧ twinAdded.2.1 = added.2.1 ∧
      added.1.pool.handle = theme.pool.handle ∧
      ∀ {logs}, host.Mirrors names theme.pool.handle logs twin →
        added.2.2.Mirrors names theme.pool.handle logs twinAdded.2.2 := by
  induction deliveries generalizing theme faults host twin with
  | nil => exact ⟨rfl, rfl, rfl, fun mirrors => mirrors⟩
  | cons delivery later ih =>
    obtain ⟨same, handle, follows⟩ :=
      theme.add_parallel names delivery.sprite (faults 0) (host.logAll delivery.notices)
        (twin.logAll delivery.notices)
    simp only [addDeliveries]
    rw [same]
    obtain ⟨restSame, asked, restHandle, restFollows⟩ :=
      ih (theme.add delivery.sprite (faults 0) (host.logAll delivery.notices)).1
        (fun i => faults (i + 1))
        (theme.add delivery.sprite (faults 0) (host.logAll delivery.notices)).2
        ((theme.renamed names).add delivery.sprite (faults 0) (twin.logAll delivery.notices)).2
    rw [handle] at restHandle restFollows
    refine ⟨restSame, congrArg (List.cons Question.next) asked, restHandle, fun mirrors => ?_⟩
    exact restFollows
      (follows (mirrors.of_alike (Host.alike_logAll _ _) (Host.alike_logAll _ _)))

/-- A theme turns to the built-in cursors the same under other names. -/
theorem orBuiltins_parallel (theme : Theme) (faults : Nat → Nat → Option SystemCall) :
    Host.ParallelOn names theme.pool.handle (orBuiltins faults theme)
      (orBuiltins faults (theme.renamed names)) := by
  intro host twin
  have empty : (theme.renamed names).cursors.isEmpty = theme.cursors.isEmpty := List.isEmpty_map
  have restarted : { theme.renamed names with name := standardName }
      = renamed names { theme with name := standardName } := rfl
  unfold orBuiltins
  rw [empty, restarted]
  -- it does not matter which cursors these are
  generalize Builtin.sprites = sprites
  by_cases none : theme.cursors.isEmpty = true
  · rw [if_pos none, if_pos none]
    obtain ⟨same, handle, follows⟩ :=
      addSprites_parallel names sprites { theme with name := standardName } faults
        (host.log (.builtinsUsed theme.name)) (twin.log (.builtinsUsed (theme.renamed names).name))
    exact ⟨same, handle, fun mirrors =>
      follows (mirrors.of_alike (Host.alike_log _ _) (Host.alike_log _ _))⟩
  · rw [if_neg none, if_neg none]
    exact ⟨rfl, rfl, fun mirrors => mirrors⟩

/-- An opened theme is completed the same under other names, from what its loader delivers to the
built-in cursors. -/
theorem complete_parallel (theme : Theme) (catalogue : Catalogue) (trouble : Trouble)
    (host twin : Host) :
    let added := addDeliveries trouble.storing theme host catalogue.deliveries
    let twinAdded := addDeliveries trouble.storing (theme.renamed names) twin catalogue.deliveries
    let complete := orBuiltins trouble.fallback added.1 (added.2.2.logAll catalogue.closing)
    let twinComplete :=
      orBuiltins trouble.fallback twinAdded.1 (twinAdded.2.2.logAll catalogue.closing)
    twinComplete.1 = complete.1.renamed names ∧ twinAdded.2.1 = added.2.1 ∧
      ∀ {logs}, host.Mirrors names theme.pool.handle logs twin →
        complete.2.Mirrors names theme.pool.handle logs twinComplete.2 := by
  intro added twinAdded complete twinComplete
  obtain ⟨same, asked, handle, adds⟩ : twinAdded.1 = added.1.renamed names ∧ _ :=
    addDeliveries_parallel names catalogue.deliveries theme trouble.storing host twin
  obtain ⟨all, -, completes⟩ :=
    orBuiltins_parallel names added.1 trouble.fallback (added.2.2.logAll catalogue.closing)
      (twinAdded.2.2.logAll catalogue.closing)
  rw [← same] at all completes
  rw [handle] at completes
  refine ⟨all, asked, fun mirrors => completes ?_⟩
  exact (adds mirrors).of_alike (Host.alike_logAll _ _) (Host.alike_logAll _ _)

end Theme

/-- The next pool is announced at both hosts, and their loaders are asked. -/
theorem Host.Mirrors.announceOpened {host twin : Host} {logs : List Request × List Request}
    (mirrors : host.Mirrors names (host.lastHandle + 1) logs twin) (size : UInt32)
    (catalogue : Catalogue) :
    (Theme.announceOpened size catalogue host).Mirrors names (host.lastHandle + 1) logs
      (Theme.announceOpened size catalogue twin) := by
  have next : names (host.lastHandle + 1) = twin.lastHandle + 1 := mirrors.next 0
  have announced : (Pool.announceFresh (max (Theme.firstCapacity size) bytesPerPixel) host).Mirrors
      names (host.lastHandle + 1) logs
      (Pool.announceFresh (max (Theme.firstCapacity size) bytesPerPixel) twin) := by
    unfold Pool.announceFresh
    rw [← next]
    refine hold (of_alike ?_ (alike_log _ _) (alike_log _ _))
    exact mirrors.acquire fun _ => rfl
  exact announced.of_alike (alike_logAll _ _) (alike_logAll _ _)

/-- **A theme is loaded the same under other names.** On a host that mirrors another one as far as the
next pool is concerned, a load comes to the same theme under these names, or fails alike; it asks
the loader for the same, and the hosts still mirror each other. -/
theorem Theme.load_mirrors {host twin : Host} {logs : List Request × List Request}
    (mirrors : host.Mirrors names (host.lastHandle + 1) logs twin) (name : Option String)
    (size : UInt32) (loader : Loader) (trouble : Trouble) :
    let loading := load name size loader trouble host
    let twinLoading := load name size loader trouble twin
    twinLoading.outcome = loading.outcome.map (renamed names) ∧
      twinLoading.asked = loading.asked ∧
      loading.host.Mirrors names (host.lastHandle + 1) logs twinLoading.host := by
  intro loading twinLoading
  rcases trouble.creation.stops_or_clear with ⟨cause, stops⟩ | ⟨free, accepted⟩
  · have here : loading = ⟨_, _, host⟩ := load_of_stops stops name size loader host
    have there : twinLoading = ⟨_, _, twin⟩ := load_of_stops stops name size loader twin
    rw [here, there]
    exact ⟨rfl, rfl, mirrors⟩
  · have here : loading = _ := load_of_clear free accepted name size loader host
    have there : twinLoading = _ := load_of_clear free accepted name size loader twin
    have new : opened (name.getD standardName) size twin
        = renamed names (opened (name.getD standardName) size host) := by
      rw [opened, ← mirrors.next 0]
      rfl
    obtain ⟨complete, asked, follows⟩ :=
      complete_parallel names (opened (name.getD standardName) size host)
        (loader (name.getD standardName) size) trouble
        (announceOpened size (loader (name.getD standardName) size) host)
        (announceOpened size (loader (name.getD standardName) size) twin)
    rw [← new] at complete asked follows
    rw [here, there]
    refine ⟨congrArg Except.ok complete, congrArg (List.cons _) asked, ?_⟩
    exact (follows (mirrors.announceOpened names size _)).of_alike (Host.alike_log _ _)
      (Host.alike_log _ _)

/-- A host mirrors one that is like it, under the same names. -/
theorem Host.Alike.mirrors {host twin : Host} (alike : Alike host twin) (held : Handle) :
    host.Mirrors id held (host.requests, host.requests) twin := by
  refine ⟨⟨[], (List.append_nil _).symm, ?_⟩, ?_, ?_⟩
  · rw [alike.requests, List.map_nil, List.append_nil]
  · intro k
    rw [alike.lastHandle, id]
  · rw [alike.holds, id]

/-- **What is in the log does not matter** for a load, nor for what is requested by it. -/
theorem Theme.load_of_alike {host twin : Host} (alike : Host.Alike host twin) (name : Option String)
    (size : UInt32) (loader : Loader) (trouble : Trouble) :
    let loading := load name size loader trouble host
    let twinLoading := load name size loader trouble twin
    twinLoading.outcome = loading.outcome ∧ twinLoading.asked = loading.asked ∧
      twinLoading.host.requests = loading.host.requests := by
  obtain ⟨outcome, asked, mirrors⟩ :=
    load_mirrors id (alike.mirrors (host.lastHandle + 1)) name size loader trouble
  obtain ⟨sent, requests, twinRequests⟩ := mirrors.requests
  refine ⟨outcome.trans ?_, asked, ?_⟩
  · cases (load name size loader trouble host).outcome with
    | ok theme => exact congrArg Except.ok theme.renamed_id
    | error error => rfl
  · rw [List.map_id'' Request.renamed_id] at twinRequests
    exact twinRequests.trans requests.symm

end CursorThemes
