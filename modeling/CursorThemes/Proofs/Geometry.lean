import CursorThemes.Proofs.Layout
import CursorThemes.Proofs.Pixels
import Mathlib.Tactic.Ring

/-! # The geometry of buffers

Sizes and places go on the wire as signed 32-bit words. This file shows that none of them wraps:
read as integers, every request for a buffer describes exactly the frame that it is for, inside of
what the service was told about the pool, and no two buffers of a pool share a byte.

* **`Image.Described`** says what an exact description is.
* **`Request.Apart`** says that two requests do not describe a common byte.
* **`Session.exists_present_of_createBuffer`** finds the action that a request comes from.
* **`Session.geometry`** is the result. -/

namespace CursorThemes

open RequestLog

/-! ## Words on the wire -/

/-- A word that is not too large keeps its number when it is read as signed. -/
theorem toInt_toInt32_of_le (word : UInt32) (small : word.toNat ≤ maxPoolSize) :
    word.toInt32.toInt = word.toNat := by
  show word.toBitVec.toInt = word.toBitVec.toNat
  have fits : word.toBitVec.toNat ≤ maxPoolSize := small
  rw [BitVec.toInt_eq_toNat_of_lt]
  simp only [maxPoolSize] at fits
  omega

/-- The length of a row does not wrap if it is not too large. -/
theorem toInt_mul_four_of_le (word : UInt32) (small : word.toNat * 4 ≤ maxPoolSize) :
    (word.toInt32 * 4).toInt = 4 * word.toNat := by
  have four : (4 : Int32).toInt = 4 := rfl
  rw [Int32.toInt_mul, toInt_toInt32_of_le word (by omega), four]
  simp only [maxPoolSize] at small
  rw [Int.bmod_eq_of_le] <;> omega

/-- A number that is not too large is kept by the word that stands for it. -/
theorem toInt_ofNat_of_le (number : Nat) (small : number ≤ maxPoolSize) :
    (Int32.ofNat number).toInt = number := by
  simp only [maxPoolSize] at small
  exact Int32.toInt_ofNat_of_lt (by omega)

/-! ## Exact descriptions -/

/-- **A buffer is described exactly**, over the integers, for an image in a pool of some capacity of
which the service was told a size: the dimensions are those of the image and positive, a row has
four bytes for each column, the range of bytes is the image's place, and it is inside of the
announced size, which is the capacity. -/
structure Image.Described (image : Image) (capacity : Nat) (size offset width height stride : Int32) :
    Prop where
  /-- There is a column. -/
  width_pos : 0 < width.toInt
  /-- The width is that of the image. -/
  width_eq : width.toInt = image.width.toNat
  /-- There is a row. -/
  height_pos : 0 < height.toInt
  /-- The height is that of the image. -/
  height_eq : height.toInt = image.height.toNat
  /-- A row has four bytes for each column. -/
  stride_eq : stride.toInt = 4 * width.toInt
  /-- The range starts in the pool. -/
  offset_nonneg : 0 ≤ offset.toInt
  /-- The range starts with the place. -/
  offset_eq : offset.toInt = image.place.offset
  /-- The range is as long as the place. -/
  length_eq : stride.toInt * height.toInt = image.place.length
  /-- The range stops in the pool. -/
  inside : offset.toInt + stride.toInt * height.toInt ≤ size.toInt
  /-- The announced size is the capacity. -/
  size_eq : size.toInt = capacity
  /-- The capacity can be announced. -/
  capacity_le : capacity ≤ maxPoolSize

/-- **The request for the buffer of an image is exact**, if the image lies in a pool whose sizes
agree. -/
theorem Image.described_bufferRequest {pool : Pool} (sized : pool.Sized) {image : Image}
    (measured : image.Measured) (inside : image.place.stop ≤ pool.used) {given id handle : Handle}
    {offset width height stride : Int32}
    (request : image.bufferRequest given = .createBuffer id handle offset width height stride) :
    image.Described pool.capacity (.ofNat pool.capacity) offset width height stride := by
  cases request
  -- a row and a column are no longer than the place, and the place is inside of the largest pool
  have columns := measured.width_pos
  have rows := measured.height_pos
  have length : image.place.length = image.width.toNat * 4 * image.height.toNat := by
    rw [measured.length, bytesPerPixel]
    ring
  have wide : image.width.toNat * 4 ≤ image.place.length := by
    rw [length]
    exact Nat.le_mul_of_pos_right _ rows
  have tall : image.height.toNat ≤ image.place.length := by
    rw [length]
    exact Nat.le_mul_of_pos_left _ (by omega)
  have stop : image.place.offset + image.place.length ≤ pool.capacity :=
    le_trans inside sized.used_le
  have capacity := sized.capacity_le
  have widthExact := toInt_toInt32_of_le image.width (by omega)
  have heightExact := toInt_toInt32_of_le image.height (by omega)
  have strideExact := toInt_mul_four_of_le image.width (by omega)
  have offsetExact := toInt_ofNat_of_le image.place.offset (by omega)
  have sizeExact := toInt_ofNat_of_le pool.capacity capacity
  have lengthExact : (image.width.toInt32 * 4).toInt * image.height.toInt32.toInt
      = image.place.length := by
    rw [strideExact, heightExact, length]
    push_cast
    ring
  exact
    { width_pos := by omega
      width_eq := widthExact
      height_pos := by omega
      height_eq := heightExact
      stride_eq := by rw [strideExact, widthExact]
      offset_nonneg := by omega
      offset_eq := offsetExact
      length_eq := lengthExact
      inside := by omega
      size_eq := sizeExact
      capacity_le := capacity }

/-- Whether a request makes a buffer. -/
def Request.MakesBuffer : Request → Prop
  | createBuffer _ _ _ _ _ _ => True
  | createPool _ _ | resizePool _ _ | destroyPool _ | destroyBuffer _ => False

/-- **Two requests describe no common byte** of a pool. -/
def Request.Apart : Request → Request → Prop
  | createBuffer _ pool offset _ height stride,
      createBuffer _ other otherOffset _ otherHeight otherStride =>
    pool = other →
      offset.toInt + stride.toInt * height.toInt ≤ otherOffset.toInt ∨
        otherOffset.toInt + otherStride.toInt * otherHeight.toInt ≤ offset.toInt
  | _, _ => True

/-- A request that makes no buffer describes no byte. -/
theorem Request.apart_of_not_makesBuffer (first : Request) {second : Request}
    (none : ¬ second.MakesBuffer) : first.Apart second := by
  cases first with
  | createBuffer _ _ _ _ _ _ =>
    cases second with
    | createBuffer _ _ _ _ _ _ => exact absurd trivial none
    | createPool _ _ => trivial
    | resizePool _ _ => trivial
    | destroyPool _ => trivial
    | destroyBuffer _ => trivial
  | createPool _ _ => trivial
  | resizePool _ _ => trivial
  | destroyPool _ => trivial
  | destroyBuffer _ => trivial

/-- Requests that make no buffers keep a log apart. -/
theorem Host.Sends.pairwise_apart {before after : Host}
    (sends : before.Sends (fun request => ¬ request.MakesBuffer) after)
    (apart : before.requests.Pairwise Request.Apart) : after.requests.Pairwise Request.Apart := by
  obtain ⟨sent, requests, none⟩ := sends
  rw [requests, List.pairwise_append]
  refine ⟨apart, ?_, ?_⟩
  · exact List.pairwise_of_forall_mem_list fun first _ second member =>
      first.apart_of_not_makesBuffer (none second member)
  · intro first _ second member
    exact first.apart_of_not_makesBuffer (none second member)

/-- What only tells sizes makes no buffer. -/
theorem Request.Sizes.not_makesBuffer {pool : Handle} {request : Request}
    (sizes : request.Sizes pool) : ¬ request.MakesBuffer := by
  cases request with
  | createBuffer _ _ _ _ _ _ => exact sizes.elim
  | createPool _ _ => exact id
  | resizePool _ _ => exact id
  | destroyPool _ => exact id
  | destroyBuffer _ => exact id

/-- What gives something up makes no buffer. -/
theorem Request.Releases.not_makesBuffer {request : Request} (releases : request.Releases) :
    ¬ request.MakesBuffer := by
  cases request with
  | createBuffer _ _ _ _ _ _ => exact releases.elim
  | createPool _ _ => exact id
  | resizePool _ _ => exact id
  | destroyPool _ => exact id
  | destroyBuffer _ => exact id

namespace Session

/-! ## Ranges apart -/

/-- The range of an image that is to be presented is apart from those of all buffers of its pool. -/
theorem Mapped.apart_bufferRequest {session : Session} (sound : session.Sound)
    (mapped : session.Mapped) {place i j : Nat} {theme : Theme} {image : Image}
    (there : session.themes place = some theme) (found : theme.image? i j = some image)
    (fresh : image.buffer = none) (id : Handle) {request : Request}
    (member : request ∈ session.host.requests) : request.Apart (image.bufferRequest id) := by
  obtain ⟨sized, layout⟩ := mapped place theme there
  have knows := sound.knows there
  have inTheme := Theme.mem_images_of_image? found
  cases request with
  | createBuffer other pool offset width height stride =>
    show pool = image.pool → _
    intro samePool
    rw [samePool, knows.tenancy.inside image inTheme] at member
    obtain ⟨owner, ownerInTheme, owns, request⟩ := knows.issued member
    have old := Image.described_bufferRequest sized (layout.measured owner ownerInTheme)
      (layout.inside owner ownerInTheme) request
    have new := Image.described_bufferRequest sized (layout.measured image inTheme)
      (layout.inside image inTheme) (rfl : image.bufferRequest id = _)
    rw [old.length_eq, old.offset_eq, new.length_eq, new.offset_eq]
    -- the owner has a buffer and the image has none, so one lies before the other
    have apart : owner.place.stop ≤ image.place.offset ∨ image.place.stop ≤ owner.place.offset := by
      have ordered := List.pairwise_map.mp layout.ordered
      obtain ⟨front, back, split⟩ := List.append_of_mem inTheme
      rw [split, List.pairwise_append, List.pairwise_cons] at ordered
      obtain ⟨-, ⟨behind, -⟩, before⟩ := ordered
      rw [split, List.mem_append, List.mem_cons] at ownerInTheme
      rcases ownerInTheme with first | rfl | last
      · exact Or.inl (before owner first image List.mem_cons_self)
      · rw [fresh] at owns
        cases owns
      · exact Or.inr (behind owner last)
    simp only [Allocation.stop] at apart
    omega
  | createPool _ _ => trivial
  | resizePool _ _ => trivial
  | destroyPool _ => trivial
  | destroyBuffer _ => trivial

/-- **Ranges stay apart.** -/
theorem lasting_apart : Lasting fun session =>
    (session.Sound ∧ session.Mapped) ∧ session.host.requests.Pairwise Request.Apart where
  drop {session place theme} there holds := by
    obtain ⟨known, apart⟩ := holds
    have sends := (theme.sends_destroy session.host).imp fun _ => Request.Releases.not_makesBuffer
    exact ⟨lasting_mapped.drop there known, sends.pairwise_apart apart⟩
  fill {session place name size loader trouble theme} free loaded holds := by
    obtain ⟨known, apart⟩ := holds
    have fills := Theme.load_fills known.1.orderly loaded
    exact ⟨lasting_mapped.fill free loaded known,
      (fills.sizes.imp fun _ => Request.Sizes.not_makesBuffer).pairwise_apart apart⟩
  handOut {session place theme i j image} there found fresh holds := by
    obtain ⟨⟨sound, mapped⟩, apart⟩ := holds
    refine ⟨lasting_mapped.handOut there found fresh ⟨sound, mapped⟩, ?_⟩
    have requests : (session.handOut place theme i j image).host.requests
        = session.host.requests ++ [image.bufferRequest (session.host.lastHandle + 1)] := rfl
    rw [requests, List.pairwise_append]
    refine ⟨apart, List.pairwise_singleton _ _, ?_⟩
    intro request member new isNew
    rw [List.mem_singleton.mp isNew]
    exact mapped.apart_bufferRequest sound there found fresh _ member

/-! ## Where a request comes from -/

/-- **What an action sends**: it makes no buffer, or it presents an image that has none. -/
theorem Sound.step_cases {session : Session} (sound : session.Sound) (action : Action) :
    session.host.Sends (fun request => ¬ request.MakesBuffer) (session.step action).host ∨
      ∃ place i j theme image, action = .present place i j ∧
        session.themes place = some theme ∧ theme.image? i j = some image ∧ image.buffer = none ∧
        (session.step action).host.requests
          = session.host.requests ++ [image.bufferRequest (session.host.lastHandle + 1)] := by
  have drop : ∀ place, session.host.Sends (fun request => ¬ request.MakesBuffer)
      (session.drop place).host := by
    intro place
    cases there : session.themes place with
    | none =>
      refine .of_requests_eq ?_ _
      rw [Session.drop, there]
    | some theme =>
      rw [host_drop there]
      exact (theme.sends_destroy session.host).imp fun _ => Request.Releases.not_makesBuffer
  cases action with
  | load place name size loader trouble =>
    refine Or.inl ?_
    have freed := lasting_sound.of_drop sound place
    rcases load_cases session place name size loader trouble with unchanged | ⟨theme, loaded, after⟩
    · rw [step, unchanged]
      exact drop place
    · rw [step, after]
      exact (drop place).trans
        ((Theme.load_fills freed.orderly loaded).sizes.imp fun _ => Request.Sizes.not_makesBuffer)
  | present place i j =>
    rw [step]
    cases presented : session.present? place i j with
    | none => exact Or.inl (.of_requests_eq rfl _)
    | some result =>
      obtain ⟨buffer, after⟩ := result
      obtain ⟨theme, image, there, found, ⟨-, rfl⟩ | ⟨fresh, -, rfl⟩⟩ := present?_cases presented
      · exact Or.inl (.of_requests_eq rfl _)
      · exact Or.inr ⟨place, i, j, theme, image, rfl, there, found, fresh, rfl⟩
  | drop place => exact Or.inl (drop place)

/-- **Every request for a buffer comes from presenting an image** that had none, and it follows what
was requested before that. -/
theorem exists_present_of_createBuffer {actions : List Action} {earlier later : List Request}
    {request : Request} (makes : request.MakesBuffer)
    (split : (run {} actions).host.requests = earlier ++ request :: later) :
    ∃ before after place i j theme image, actions = before ++ .present place i j :: after ∧
      (run {} before).host.requests = earlier ∧ (run {} before).themes place = some theme ∧
      theme.image? i j = some image ∧ image.buffer = none ∧
      image.bufferRequest ((run {} before).host.lastHandle + 1) = request := by
  induction actions using List.reverseRecOn generalizing later with
  | nil => cases earlier <;> cases split
  | append_singleton actions action ih =>
    have fromBefore : ∀ rest, (run {} actions).host.requests = earlier ++ request :: rest →
        ∃ before after place i j theme image,
          actions ++ [action] = before ++ .present place i j :: after ∧
          (run {} before).host.requests = earlier ∧ (run {} before).themes place = some theme ∧
          theme.image? i j = some image ∧ image.buffer = none ∧
          image.bufferRequest ((run {} before).host.lastHandle + 1) = request := by
      intro rest here
      obtain ⟨before, after, place, i, j, theme, image, rfl, result⟩ := ih here
      exact ⟨before, after ++ [action], place, i, j, theme, image, by simp, result⟩
    rw [run_append, run_cons, run_nil] at split
    -- either the last action made no buffer, or it made exactly one
    rcases (lasting_sound.run sound_default actions).step_cases action with
      ⟨sent, requests, none⟩ | ⟨place, i, j, theme, image, rfl, there, found, fresh, requests⟩
    · rw [requests, List.append_eq_append_iff] at split
      rcases split with ⟨between, -, inSent⟩ | ⟨between, inLog, rest⟩
      · exact absurd makes (none request (by simp [inSent]))
      · cases between with
        | nil =>
          rw [List.nil_append] at rest
          exact absurd makes (none request (rest ▸ List.mem_cons_self))
        | cons first between =>
          rw [List.cons_append, List.cons.injEq] at rest
          rw [← rest.1] at inLog
          exact fromBefore between inLog
    · rw [requests] at split
      -- the request in question is the one just made, or an earlier one
      rcases List.eq_nil_or_concat later with rfl | ⟨rest, last, rfl⟩
      · obtain ⟨same, sameRequest⟩ := List.append_inj' split rfl
        exact ⟨actions, [], place, i, j, theme, image, rfl, same, there, found, fresh,
          (List.cons.inj sameRequest).1⟩
      · rw [List.concat_eq_append, ← List.cons_append, ← List.append_assoc] at split
        exact fromBefore rest (List.append_inj' split rfl).1

/-! ## All buffers together -/

/-- **The geometry of buffers.** Every request for a buffer that was ever sent comes from presenting
an image of a theme, and the image shows a decoded frame. Over the integers, the request has the
dimensions of the frame and describes exactly the image's place, inside of the size last announced
for the pool, which is its capacity. And no two requests describe a common byte of a pool. -/
theorem geometry (actions : List Action) :
    let log := (run {} actions).host.requests
    (∀ (earlier : List Request) (id pool : Handle) (offset width height stride : Int32)
        (later : List Request),
        log = earlier ++ .createBuffer id pool offset width height stride :: later →
        ∃ (before after : List Action) (place i j : Nat) (theme : Theme) (image : Image)
          (size : Int32) (frame : Frame),
          actions = before ++ .present place i j :: after ∧
          (run {} before).host.requests = earlier ∧
          (run {} before).themes place = some theme ∧ theme.pool.handle = pool ∧
          theme.image? i j = some image ∧ image.buffer = none ∧
          DecodedAt before place j frame ∧ image.Shows theme.pool frame ∧
          width.toInt = frame.width.toNat ∧ height.toInt = frame.height.toNat ∧
          announced? earlier pool = some size ∧
          image.Described theme.pool.capacity size offset width height stride) ∧
      log.Pairwise Request.Apart := by
  intro log
  refine ⟨?_, (lasting_apart.run ⟨⟨sound_default, ?_⟩, List.Pairwise.nil⟩ actions).2⟩
  · intro earlier id pool offset width height stride later split
    have makes : (Request.createBuffer id pool offset width height stride).MakesBuffer := trivial
    obtain ⟨before, after, place, i, j, theme, image, rfl, sameLog, there, found, fresh, request⟩ :=
      exists_present_of_createBuffer makes split
    obtain ⟨sound, mapped⟩ := lasting_mapped.run ⟨sound_default, mapped_default⟩ before
    obtain ⟨sized, layout⟩ := mapped place theme there
    have inTheme := Theme.mem_images_of_image? found
    have inside := (sound.knows there).tenancy.inside image inTheme
    have described := Image.described_bufferRequest sized (layout.measured image inTheme)
      (layout.inside image inTheme) request
    obtain ⟨frame, decoded, shown⟩ := exists_frame_of_image? there found
    have samePool : theme.pool.handle = pool := by
      rw [← inside]
      exact congrArg (fun request => request.pool?.getD 0) request
    refine ⟨before, after, place, i, j, theme, image, _, frame, rfl, sameLog, there, samePool, found,
      fresh, decoded, shown, ?_, ?_, ?_, described⟩
    · rw [described.width_eq, shown.width]
    · rw [described.height_eq, shown.height]
    · rw [← sameLog, ← samePool]
      exact layout.announced
  · exact mapped_default

end Session

end CursorThemes
