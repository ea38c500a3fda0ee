import CursorThemes.Proofs.History
import CursorThemes.Proofs.RequestLog
import Mathlib.Data.List.Count

/-! # A pool and the images in it

A pool at the service is held by the pool of a theme and by every image in it. It lasts until the
last of them lets go, and by then all buffers have been given up.

* **`Host.Tenancy`** says how a host knows a pool and the images in it. Each operation on them keeps
  it.
* **`Host.Serves`** says that nothing but one pool is concerned, and **`Host.Tenancy.of_serves`**
  concludes that the tenancy of every other pool goes on.
* **`Theme.load_fills`** and **`Theme.destroy_spec`** are the beginning and the end of a theme. -/

namespace CursorThemes

open RequestLog

/-- The buffers of the images of a theme, in order. -/
def Theme.buffers (theme : Theme) : List Handle := theme.images.filterMap Image.buffer

/-- Whether a request only says how large a pool is. -/
def Request.Sizes (pool : Handle) : Request → Prop
  | createPool id _ => id = pool
  | resizePool id _ => id = pool
  | createBuffer _ _ _ _ _ _ | destroyPool _ | destroyBuffer _ => False

/-- Whether a request gives something up. -/
def Request.Releases : Request → Prop
  | destroyPool _ | destroyBuffer _ => True
  | createPool _ _ | resizePool _ _ | createBuffer _ _ _ _ _ _ => False

/-- **Whether a request concerns a pool**, after a log that knows which buffers were made
from it. -/
def Request.Concerns (log : List Request) (pool : Handle) (request : Request) : Prop :=
  request.pool? = some pool ∨ ∃ buffer, request = .destroyBuffer buffer ∧ MadeFrom log buffer pool

/-- A request that concerns one pool names no other one. -/
theorem Request.Concerns.pool?_ne {log : List Request} {pool other : Handle} {request : Request}
    (concerns : request.Concerns log pool) (apart : other ≠ pool) : request.pool? ≠ some other := by
  intro named
  rcases concerns with here | ⟨buffer, rfl, -⟩
  · rw [here, Option.some.injEq] at named
    exact apart named.symm
  · cases named

/-- A request that says how large a pool is concerns it. -/
theorem Request.Sizes.concerns {pool : Handle} {request : Request} (sizes : request.Sizes pool)
    (log : List Request) : request.Concerns log pool := by
  cases request with
  | createPool id _ => exact Or.inl (congrArg some sizes)
  | resizePool id _ => exact Or.inl (congrArg some sizes)
  | createBuffer _ _ _ _ _ _ => exact sizes.elim
  | destroyPool _ => exact sizes.elim
  | destroyBuffer _ => exact sizes.elim

namespace Host

/-! ## What a host sends -/

/-- What was sent between two hosts is of some kind. -/
def Sends (before : Host) (kind : Request → Prop) (after : Host) : Prop :=
  ∃ sent, after.requests = before.requests ++ sent ∧ ∀ request ∈ sent, kind request

/-- Hosts with the same requests sent nothing. -/
theorem Sends.of_requests_eq {before after : Host} (same : after.requests = before.requests)
    (kind : Request → Prop) : before.Sends kind after :=
  ⟨[], by rw [same, List.append_nil], by simp⟩

/-- One request was sent. -/
theorem Sends.of_append {before after : Host} {request : Request}
    (sent : after.requests = before.requests ++ [request]) {kind : Request → Prop}
    (isKind : kind request) : before.Sends kind after := by
  refine ⟨[request], sent, ?_⟩
  intro other member
  rw [List.mem_singleton.mp member]
  exact isKind

/-- What was sent first and then is what was sent together. -/
theorem Sends.trans {first second third : Host} {kind : Request → Prop}
    (lower : first.Sends kind second) (upper : second.Sends kind third) :
    first.Sends kind third := by
  obtain ⟨sent, requests, isKind⟩ := lower
  obtain ⟨further, moreRequests, moreIsKind⟩ := upper
  refine ⟨sent ++ further, by rw [moreRequests, requests, List.append_assoc], ?_⟩
  intro request member
  rcases List.mem_append.mp member with old | new
  · exact isKind request old
  · exact moreIsKind request new

/-- A kind that takes in another one. -/
theorem Sends.imp {before after : Host} {kind other : Request → Prop}
    (sends : before.Sends kind after) (takesIn : ∀ request, kind request → other request) :
    before.Sends other after := by
  obtain ⟨sent, requests, isKind⟩ := sends
  exact ⟨sent, requests, fun request member => takesIn request (isKind request member)⟩

/-- What was requested stays requested. -/
theorem Sends.mem {before after : Host} {kind : Request → Prop} (sends : before.Sends kind after)
    {request : Request} (member : request ∈ before.requests) : request ∈ after.requests := by
  obtain ⟨sent, requests, -⟩ := sends
  rw [requests]
  exact List.mem_append_left sent member

/-- A holder that lets go of a pool has nothing sent but that the pool is given up. -/
theorem sends_release (host : Host) (pool : Handle) :
    host.Sends Request.Releases (host.release pool) := by
  by_cases held : pool ∈ host.holds.erase pool
  · exact .of_requests_eq (requests_release_of_mem held) _
  · exact .of_append (requests_release_of_not_mem held) trivial

/-! ## Hosts in order -/

/-- **A host is in order**: its log is disciplined, and it has given out all handles that are in
use. -/
structure Orderly (host : Host) : Prop where
  /-- The log is disciplined. -/
  disciplined : Disciplined host.requests
  /-- What was made was given out. -/
  made_le : ∀ request ∈ host.requests, ∀ id, request.made? = some id → id ≤ host.lastHandle
  /-- What is held was given out. -/
  holds_le : ∀ pool ∈ host.holds, pool ≤ host.lastHandle

/-- A new host is in order. -/
theorem orderly_default : Orderly {} := by
  refine ⟨disciplined_nil, ?_, ?_⟩
  · intro request member
    cases member
  · intro pool member
    cases member

/-- The log does not matter for the order. -/
theorem Orderly.of_alike {before after : Host} (orderly : before.Orderly)
    (alike : Alike before after) : after.Orderly := by
  refine ⟨?_, ?_, ?_⟩
  · rw [alike.requests]
    exact orderly.disciplined
  · rw [alike.requests, alike.lastHandle]
    exact orderly.made_le
  · rw [alike.holds, alike.lastHandle]
    exact orderly.holds_le

/-- The next handle was not made yet. -/
theorem Orderly.unused {host : Host} (orderly : host.Orderly) :
    Unused host.requests (host.lastHandle + 1) := by
  intro request member made
  exact Nat.not_succ_le_self _ (orderly.made_le request member _ made)

/-- A buffer that was made was given out. -/
theorem Orderly.le_of_madeFrom {host : Host} (orderly : host.Orderly) {buffer pool : Handle}
    (made : MadeFrom host.requests buffer pool) : buffer ≤ host.lastHandle := by
  obtain ⟨_, _, _, _, member⟩ := made
  exact orderly.made_le _ member buffer rfl

/-- A pool that is there was given out. -/
theorem Orderly.le_of_livePool {host : Host} (orderly : host.Orderly) {pool : Handle}
    (live : LivePool host.requests pool) : pool ≤ host.lastHandle := by
  obtain ⟨⟨_, member⟩, -⟩ := live
  exact orderly.made_le _ member pool rfl

/-- A pool that is named in the log was given out. -/
theorem Orderly.le_of_pool? {host : Host} (orderly : host.Orderly) {request : Request}
    (member : request ∈ host.requests) {pool : Handle} (named : request.pool? = some pool) :
    pool ≤ host.lastHandle := by
  obtain ⟨size, made⟩ := orderly.disciplined.exists_createPool member named
  exact orderly.made_le _ made pool rfl

/-- No request names the next handle as a pool. -/
theorem Orderly.unnamed {host : Host} (orderly : host.Orderly) {request : Request}
    (member : request ∈ host.requests) : request.pool? ≠ some (host.lastHandle + 1) :=
  fun named => Nat.not_succ_le_self _ (orderly.le_of_pool? member named)

/-- The next handle is not held. -/
theorem Orderly.unheld {host : Host} (orderly : host.Orderly) : host.lastHandle + 1 ∉ host.holds :=
  fun member => Nat.not_succ_le_self _ (orderly.holds_le _ member)

/-- A host in order stays so when an admissible request arrives that makes nothing. -/
theorem Orderly.of_request {before after : Host} (orderly : before.Orderly) {request : Request}
    (requests : after.requests = before.requests ++ [request])
    (admissible : Admissible before.requests request)
    (made : ∀ id, request.made? = some id → id ≤ after.lastHandle)
    (lastHandle : before.lastHandle ≤ after.lastHandle)
    (holds : ∀ pool ∈ after.holds, pool ≤ after.lastHandle) : after.Orderly := by
  refine ⟨?_, ?_, holds⟩
  · rw [requests]
    exact disciplined_append_singleton.mpr ⟨orderly.disciplined, admissible⟩
  · intro other member id otherMade
    rw [requests] at member
    rcases List.mem_append.mp member with old | new
    · exact le_trans (orderly.made_le other old id otherMade) lastHandle
    · rw [List.mem_singleton.mp new] at otherMade
      exact made id otherMade

/-! ## One pool and the images in it -/

/-- **How a host knows a pool and the images in it.** The pool is there; it is held once for every
image and once more; and the buffers made from it that are still there are those of the images. -/
structure Tenancy (host : Host) (pool : Handle) (images : List Image) : Prop where
  /-- The pool is there. -/
  live : LivePool host.requests pool
  /-- The pool is held once for every image and once more. -/
  count : host.holds.count pool = images.length + 1
  /-- Every image is in the pool. -/
  inside : ∀ image ∈ images, image.pool = pool
  /-- The buffers that are there are those of the images. -/
  buffers : ∀ buffer, buffer ∈ images.filterMap Image.buffer ↔ LiveBuffer host.requests buffer pool
  /-- No two images have one buffer. -/
  nodup : (images.filterMap Image.buffer).Nodup

/-- **Only one pool is concerned** by what was done between two hosts. -/
structure Serves (before : Host) (pool : Handle) (after : Host) : Prop where
  /-- Every request that was sent concerns the pool. -/
  sends : before.Sends (Request.Concerns after.requests pool) after
  /-- Handles are not taken back. -/
  lastHandle_le : before.lastHandle ≤ after.lastHandle
  /-- Every other pool is held as before. -/
  count : ∀ other, other ≠ pool → after.holds.count other = before.holds.count other

/-- Logging concerns nothing. -/
theorem Alike.serves {before after : Host} (alike : Alike before after) (pool : Handle) :
    before.Serves pool after := by
  refine ⟨.of_requests_eq alike.requests _, Nat.le_of_eq alike.lastHandle.symm, ?_⟩
  intro other _
  rw [alike.holds]

/-- What concerns a pool first and then concerns it together. -/
theorem Serves.trans {first second third : Host} {pool : Handle} (lower : first.Serves pool second)
    (upper : second.Serves pool third) : first.Serves pool third := by
  have concerns : ∀ request : Request, request.Concerns second.requests pool →
      request.Concerns third.requests pool := by
    rintro request (named | ⟨buffer, rfl, made⟩)
    · exact Or.inl named
    · obtain ⟨sent, requests, -⟩ := upper.sends
      exact Or.inr ⟨buffer, rfl, requests ▸ made.append sent⟩
  refine ⟨(lower.sends.imp concerns).trans upper.sends,
    le_trans lower.lastHandle_le upper.lastHandle_le, ?_⟩
  intro other apart
  rw [upper.count other apart, lower.count other apart]

/-- The log does not matter for a tenancy. -/
theorem Tenancy.of_alike {before after : Host} {pool : Handle} {images : List Image}
    (tenancy : before.Tenancy pool images) (alike : Alike before after) :
    after.Tenancy pool images := by
  refine ⟨?_, ?_, tenancy.inside, ?_, tenancy.nodup⟩
  · rw [alike.requests]
    exact tenancy.live
  · rw [alike.holds]
    exact tenancy.count
  · rw [alike.requests]
    exact tenancy.buffers

/-- **A tenancy goes on while another pool is concerned.** -/
theorem Tenancy.of_serves {before after : Host} {pool other : Handle} {images : List Image}
    (tenancy : before.Tenancy other images) (orderly : after.Orderly)
    (serves : before.Serves pool after) (apart : other ≠ pool) : after.Tenancy other images := by
  obtain ⟨sent, requests, concerns⟩ := serves.sends
  -- what was sent names the one pool, or gives up a buffer that was made from it
  have unnamed : ∀ request ∈ sent, request.pool? ≠ some other :=
    fun request member => (concerns request member).pool?_ne apart
  have made : ∀ buffer, MadeFrom after.requests buffer other ↔ MadeFrom before.requests buffer other := by
    intro buffer
    rw [requests]
    refine madeFrom_append_iff ?_
    intro offset width height stride member
    exact unnamed _ member rfl
  have given : ∀ buffer, MadeFrom before.requests buffer other →
      (.destroyBuffer buffer ∈ after.requests ↔ .destroyBuffer buffer ∈ before.requests) := by
    intro buffer here
    rw [requests, List.mem_append, or_iff_left]
    intro member
    rcases concerns _ member with named | ⟨same, eq, there⟩
    · cases named
    · -- no buffer was made from two pools
      cases eq
      exact apart (orderly.disciplined.pool_eq ((made buffer).mpr here) there)
  refine ⟨?_, ?_, tenancy.inside, ?_, tenancy.nodup⟩
  · rw [requests]
    exact tenancy.live.append fun member => unnamed _ member rfl
  · rw [serves.count other apart]
    exact tenancy.count
  · intro buffer
    rw [tenancy.buffers buffer, LiveBuffer, LiveBuffer, made buffer]
    exact and_congr_right fun here => not_congr (given buffer here).symm

/-! ## What is done to a pool and its images -/

variable {host : Host} {pool : Handle} {images front back : List Image} {image : Image}

/-- A pool of which the size was told is known as before. -/
theorem Tenancy.after_resize (tenancy : host.Tenancy pool images) {after : Host} {size : Int32}
    (requests : after.requests = host.requests ++ [.resizePool pool size])
    (holds : after.holds = host.holds) : after.Tenancy pool images := by
  refine ⟨?_, ?_, tenancy.inside, ?_, tenancy.nodup⟩
  · rw [requests]
    exact tenancy.live.append (by simp)
  · rw [holds]
    exact tenancy.count
  · intro buffer
    rw [tenancy.buffers buffer, requests, liveBuffer_append_iff (by simp) (by simp)]

/-- A pool that an image without a buffer holds in addition. -/
theorem Tenancy.after_hold (tenancy : host.Tenancy pool images) (inside : image.pool = pool)
    (fresh : image.buffer = none) : (host.hold pool).Tenancy pool (images ++ [image]) := by
  have same : (images ++ [image]).filterMap Image.buffer = images.filterMap Image.buffer := by
    simp [fresh]
  refine ⟨tenancy.live, ?_, ?_, ?_, ?_⟩
  · rw [holds_hold, List.count_cons_self, tenancy.count, List.length_append, List.length_singleton]
  · intro other member
    rcases List.mem_append.mp member with old | new
    · exact tenancy.inside other old
    · rw [List.mem_singleton.mp new]
      exact inside
  · rw [same]
    exact tenancy.buffers
  · rw [same]
    exact tenancy.nodup

/-- The pool is still held when one image lets go of it, for the pool holds itself. -/
theorem Tenancy.held (tenancy : host.Tenancy pool (front ++ image :: back)) :
    pool ∈ host.holds.erase pool := by
  rw [← List.count_pos_iff, List.count_erase_self, tenancy.count, List.length_append,
    List.length_cons]
  omega

/-- **An image lets go of its pool.** Nothing is sent, for the pool is still held. -/
theorem Tenancy.after_release (orderly : host.Orderly)
    (tenancy : host.Tenancy pool (front ++ image :: back)) (fresh : image.buffer = none) :
    (host.release pool).requests = host.requests ∧ (host.release pool).Orderly ∧
      (host.release pool).Tenancy pool (front ++ back) ∧ host.Serves pool (host.release pool) := by
  have requests := requests_release_of_mem tenancy.held
  have same : (front ++ image :: back).filterMap Image.buffer
      = (front ++ back).filterMap Image.buffer := by
    simp [fresh]
  refine ⟨requests, ⟨?_, ?_, ?_⟩, ⟨?_, ?_, ?_, ?_, ?_⟩, .of_requests_eq requests _, ?_, ?_⟩
  · rw [requests]
    exact orderly.disciplined
  · rw [requests, lastHandle_release]
    exact orderly.made_le
  · intro other member
    rw [holds_release] at member
    rw [lastHandle_release]
    exact orderly.holds_le other (List.mem_of_mem_erase member)
  · rw [requests]
    exact tenancy.live
  · rw [holds_release, List.count_erase_self, tenancy.count, List.length_append, List.length_append,
      List.length_cons]
    omega
  · intro other member
    refine tenancy.inside other ?_
    rw [List.mem_append, List.mem_cons]
    rcases List.mem_append.mp member with first | last
    · exact Or.inl first
    · exact Or.inr (Or.inr last)
  · rw [← same, requests]
    exact tenancy.buffers
  · rw [← same]
    exact tenancy.nodup
  · exact Nat.le_of_eq (lastHandle_release host pool).symm
  · intro other apart
    rw [holds_release, List.count_erase_of_ne apart]

/-- **A buffer is given up.** Its image has none any more. -/
theorem Tenancy.after_destroyBuffer (orderly : host.Orderly)
    (tenancy : host.Tenancy pool (front ++ image :: back)) {buffer : Handle}
    (given : image.buffer = some buffer) :
    (host.send (.destroyBuffer buffer)).Orderly ∧
      (host.send (.destroyBuffer buffer)).Tenancy pool (front ++ image.unpresented :: back) ∧
      host.Serves pool (host.send (.destroyBuffer buffer)) := by
  have owns : (front ++ image :: back).filterMap Image.buffer
      = front.filterMap Image.buffer ++ buffer :: back.filterMap Image.buffer := by
    simp [given]
  have rest : (front ++ image.unpresented :: back).filterMap Image.buffer
      = front.filterMap Image.buffer ++ back.filterMap Image.buffer := by
    simp [Image.unpresented]
  -- no other image has the buffer, so the others have what is left
  have nodup := tenancy.nodup
  rw [owns, List.nodup_middle, List.nodup_cons] at nodup
  have live : LiveBuffer host.requests buffer pool := by
    rw [← tenancy.buffers buffer, owns]
    simp
  refine ⟨?_, ⟨?_, ?_, ?_, ?_, ?_⟩, .of_append rfl (Or.inr ⟨buffer, rfl, live.1.append _⟩), le_refl _,
    fun _ _ => rfl⟩
  · refine orderly.of_request rfl ⟨pool, live⟩ ?_ (le_refl _) orderly.holds_le
    intro id made
    cases made
  · exact tenancy.live.append (by simp)
  · rw [holds_send, tenancy.count, List.length_append, List.length_append, List.length_cons,
      List.length_cons]
  · exact forall_mem_of_replaced tenancy.inside (tenancy.inside image (by simp))
  · intro other
    have before := tenancy.buffers other
    rw [owns, List.mem_append, List.mem_cons] at before
    rw [requests_send, liveBuffer_append_destroyBuffer_iff, ← before, rest, List.mem_append]
    constructor
    · intro member
      refine ⟨by tauto, ?_⟩
      rintro rfl
      exact nodup.1 (List.mem_append.mpr member)
    · rintro ⟨member, apart⟩
      tauto
  · rw [rest]
    exact nodup.2

/-- **The end of an image** gives up its buffer, if it has one. The pool and the other images are
known as before. -/
theorem Tenancy.after_destroy (orderly : host.Orderly)
    (tenancy : host.Tenancy pool (front ++ image :: back)) :
    (image.destroy host).requests = host.requests ++ image.buffer.toList.map .destroyBuffer ∧
      (image.destroy host).Orderly ∧ (image.destroy host).Tenancy pool (front ++ back) ∧
      host.Serves pool (image.destroy host) := by
  have inside : image.pool = pool := tenancy.inside image (by simp)
  unfold Image.destroy
  cases given : image.buffer with
  | none =>
    rw [inside, Option.toList_none, List.map_nil, List.append_nil]
    exact tenancy.after_release orderly given
  | some buffer =>
    obtain ⟨sentOrderly, sentTenancy, sentServes⟩ := tenancy.after_destroyBuffer orderly given
    obtain ⟨requests, leftOrderly, left, serves⟩ := sentTenancy.after_release sentOrderly rfl
    simp only [inside, Option.toList_some, List.map_singleton]
    exact ⟨requests, leftOrderly, left, sentServes.trans serves⟩

/-- **An image is given its buffer**, under the next handle. -/
theorem Tenancy.after_present (orderly : host.Orderly)
    (tenancy : host.Tenancy pool (front ++ image :: back)) (fresh : image.buffer = none) :
    (host.acquire image.bufferRequest).2.Orderly ∧
      (host.acquire image.bufferRequest).2.Tenancy pool
        (front ++ { image with buffer := some (host.lastHandle + 1) } :: back) ∧
      host.Serves pool (host.acquire image.bufferRequest).2 := by
  have inside : image.pool = pool := tenancy.inside image (by simp)
  have before : (front ++ image :: back).filterMap Image.buffer
      = front.filterMap Image.buffer ++ back.filterMap Image.buffer := by
    simp [fresh]
  have owns : (front ++ { image with buffer := some (host.lastHandle + 1) } :: back).filterMap
        Image.buffer
      = front.filterMap Image.buffer ++ (host.lastHandle + 1) :: back.filterMap Image.buffer := by
    simp
  have request : (host.acquire image.bufferRequest).2.requests
      = host.requests ++ [image.bufferRequest (host.lastHandle + 1)] := rfl
  -- what is given up was made, and the next handle was not
  have notYet : .destroyBuffer (host.lastHandle + 1) ∉ host.requests := by
    intro member
    obtain ⟨_, there⟩ := orderly.disciplined.exists_madeFrom member
    exact Nat.not_succ_le_self _ (orderly.le_of_madeFrom there)
  refine ⟨?_, ⟨?_, ?_, ?_, ?_, ?_⟩, .of_append request (Or.inl (congrArg some inside)),
    Nat.le_succ _, fun _ _ => rfl⟩
  · refine orderly.of_request request ⟨orderly.unused, ?_⟩ ?_ (Nat.le_succ _) ?_
    · rw [inside]
      exact tenancy.live
    · intro id same
      cases same
      exact le_refl _
    · intro other member
      exact Nat.le_succ_of_le (orderly.holds_le other member)
  · rw [request]
    exact tenancy.live.append (by simp [Image.bufferRequest])
  · rw [holds_acquire, tenancy.count, List.length_append, List.length_append, List.length_cons,
      List.length_cons]
  · exact forall_mem_of_replaced tenancy.inside inside
  · intro buffer
    rw [owns, request, Image.bufferRequest, inside, liveBuffer_append_createBuffer_iff notYet,
      ← tenancy.buffers buffer, before, List.mem_append, List.mem_append, List.mem_cons]
    tauto
  · have nodup := tenancy.nodup
    rw [before] at nodup
    rw [owns, List.nodup_middle, List.nodup_cons]
    refine ⟨?_, nodup⟩
    intro member
    rw [← before, tenancy.buffers] at member
    exact Nat.not_succ_le_self _ (orderly.le_of_madeFrom member.1)

/-- **A pool begins** with nobody in it, under the next handle. -/
theorem Orderly.after_announceFresh (orderly : host.Orderly) (capacity : Nat) :
    (Pool.announceFresh capacity host).Orderly ∧
      (Pool.announceFresh capacity host).Tenancy (host.lastHandle + 1) [] ∧
      host.Serves (host.lastHandle + 1) (Pool.announceFresh capacity host) := by
  have request : (Pool.announceFresh capacity host).requests
      = host.requests ++ [.createPool (host.lastHandle + 1) (.ofNat capacity)] := rfl
  have holds : (Pool.announceFresh capacity host).holds = (host.lastHandle + 1) :: host.holds := rfl
  refine ⟨?_, ⟨⟨⟨.ofNat capacity, ?_⟩, ?_⟩, ?_, ?_, ?_, ?_⟩, .of_append request (Or.inl rfl),
    Nat.le_succ _, ?_⟩
  · refine orderly.of_request request orderly.unused ?_ (Nat.le_succ _) ?_
    · intro id same
      cases same
      exact le_refl _
    · intro other member
      rw [holds, List.mem_cons] at member
      rcases member with rfl | old
      · exact le_refl _
      · exact Nat.le_succ_of_le (orderly.holds_le other old)
  · rw [request]
    exact List.mem_append_right _ (List.mem_singleton_self _)
  · rw [request]
    intro member
    rcases List.mem_append.mp member with old | new
    · exact orderly.unnamed old rfl
    · cases List.mem_singleton.mp new
  · rw [holds, List.count_cons_self, List.count_eq_zero.mpr orderly.unheld]
    rfl
  · simp
  · intro buffer
    rw [request, liveBuffer_append_iff (by simp) (by simp)]
    constructor
    · intro member
      cases member
    · rintro ⟨⟨_, _, _, _, member⟩, -⟩
      exact absurd rfl (orderly.unnamed member)
  · exact List.nodup_nil
  · intro other apart
    rw [holds, List.count_cons_of_ne apart.symm]

/-- **A pool ends** with nobody in it: it is given up. -/
theorem Tenancy.after_last_release (orderly : host.Orderly) (tenancy : host.Tenancy pool []) :
    (host.release pool).requests = host.requests ++ [.destroyPool pool] ∧
      (host.release pool).Orderly ∧ host.Serves pool (host.release pool) := by
  -- without images the pool is held once, by itself
  have last : pool ∉ host.holds.erase pool := by
    rw [← List.count_eq_zero, List.count_erase_self, tenancy.count]
    rfl
  have requests := requests_release_of_not_mem last
  refine ⟨requests, ?_, .of_append requests (Or.inl rfl), ?_, ?_⟩
  · refine orderly.of_request requests ⟨tenancy.live, ?_⟩ ?_ ?_ ?_
    · -- a buffer that is still there would be that of an image
      intro buffer there
      cases (tenancy.buffers buffer).mpr there
    · intro id made
      cases made
    · exact Nat.le_of_eq (lastHandle_release host pool).symm
    · intro other member
      rw [holds_release] at member
      rw [lastHandle_release]
      exact orderly.holds_le other (List.mem_of_mem_erase member)
  · exact Nat.le_of_eq (lastHandle_release host pool).symm
  · intro other apart
    rw [holds_release, List.count_erase_of_ne apart]

/-- **A pool tells its new size**, if it has to grow. -/
theorem Tenancy.after_announceGrant {pool : Pool} (orderly : host.Orderly)
    (tenancy : host.Tenancy pool.handle images) (size : Nat) :
    (pool.announceGrant size host).Orderly ∧
      (pool.announceGrant size host).Tenancy pool.handle images ∧
      host.Sends (Request.Sizes pool.handle) (pool.announceGrant size host) ∧
      host.Serves pool.handle (pool.announceGrant size host) := by
  unfold Pool.announceGrant
  split
  · exact ⟨orderly, tenancy, .of_requests_eq rfl _, (Alike.refl host).serves pool.handle⟩
  · refine ⟨?_, tenancy.after_resize rfl rfl, .of_append rfl ?_, .of_append rfl (Or.inl rfl),
      le_refl _, fun _ _ => rfl⟩
    · refine orderly.of_request rfl tenancy.live ?_ (le_refl _) orderly.holds_le
      intro id made
      cases made
    · show pool.handle = pool.handle
      rfl

/-- **A pool gets a further holder.** -/
theorem Orderly.after_hold (orderly : host.Orderly) (tenancy : host.Tenancy pool images) :
    (host.hold pool).Orderly ∧ host.Serves pool (host.hold pool) := by
  refine ⟨⟨orderly.disciplined, orderly.made_le, ?_⟩, .of_requests_eq rfl _, le_refl _, ?_⟩
  · intro other member
    rw [holds_hold, List.mem_cons] at member
    rcases member with rfl | old
    · exact orderly.le_of_livePool tenancy.live
    · exact orderly.holds_le other old
  · intro other apart
    rw [holds_hold, List.count_cons_of_ne apart.symm]

/-- **Images end** in order: their buffers are given up in that order. -/
theorem Tenancy.after_destroy_all (orderly : host.Orderly) (tenancy : host.Tenancy pool images) :
    let left := images.foldl (fun host image => image.destroy host) host
    left.requests = host.requests ++ (images.filterMap Image.buffer).map .destroyBuffer ∧
      left.Orderly ∧ left.Tenancy pool [] ∧ host.Serves pool left := by
  induction images generalizing host with
  | nil => exact ⟨(List.append_nil _).symm, orderly, tenancy, (Alike.refl host).serves pool⟩
  | cons image rest ih =>
    have first : host.Tenancy pool ([] ++ image :: rest) := tenancy
    obtain ⟨requests, hereOrderly, here, serves⟩ := first.after_destroy orderly
    obtain ⟨laterRequests, leftOrderly, left, laterServes⟩ := ih hereOrderly here
    refine ⟨?_, leftOrderly, left, serves.trans laterServes⟩
    have buffers : (image :: rest).filterMap Image.buffer
        = image.buffer.toList ++ rest.filterMap Image.buffer := by
      cases given : image.buffer <;> simp [given]
    rw [List.foldl_cons, laterRequests, requests, buffers, List.map_append, List.append_assoc]

end Host

/-- The end of an image only gives things up. -/
theorem Image.sends_destroy (image : Image) (host : Host) :
    host.Sends Request.Releases (image.destroy host) := by
  unfold Image.destroy
  cases image.buffer with
  | none => exact host.sends_release image.pool
  | some buffer =>
    have releases : (Request.destroyBuffer buffer).Releases := trivial
    exact (Host.Sends.of_append rfl releases).trans (Host.sends_release _ image.pool)

/-! ## The beginning and the end of a theme -/

/-- **What a load does to a host**: it tells a new pool's sizes and nothing else, and the host knows
the pool and the images in it. -/
structure Host.Fills (before : Host) (pool : Pool) (images : List Image) (after : Host) : Prop where
  /-- The pool is new. -/
  handle : pool.handle = before.lastHandle + 1
  /-- The host is in order. -/
  orderly : after.Orderly
  /-- The host knows the pool. -/
  tenancy : after.Tenancy pool.handle images
  /-- Only sizes were sent. -/
  sizes : before.Sends (Request.Sizes pool.handle) after
  /-- No other pool is concerned. -/
  serves : before.Serves pool.handle after

/-- Storing keeps what a load does to a host. -/
theorem Host.kept_fills (before : Host) : Kept before.Fills where
  alike alike fills :=
    { handle := fills.handle, orderly := fills.orderly.of_alike alike
      tenancy := fills.tenancy.of_alike alike
      sizes := fills.sizes.trans (.of_requests_eq alike.requests _)
      serves := fills.serves.trans (alike.serves _) }
  backing _ fills := ⟨fills.handle, fills.orderly, fills.tenancy, fills.sizes, fills.serves⟩
  charge {pool images host frame fault} _ _ fills := by
    have handle := Pool.handle_filled pool frame
    obtain ⟨grantOrderly, grantTenancy, grantSizes, grantServes⟩ :=
      fills.tenancy.after_announceGrant fills.orderly frame.pixelLength
    obtain ⟨orderly, serves⟩ := grantOrderly.after_hold grantTenancy
    refine ⟨handle.trans fills.handle, orderly, ?_, ?_, ?_⟩
    · rw [handle]
      exact grantTenancy.after_hold rfl rfl
    · rw [handle]
      exact (fills.sizes.trans grantSizes).trans (.of_requests_eq rfl _)
    · rw [handle]
      exact (fills.serves.trans grantServes).trans serves
  abandon {pool images image host} fresh fills := by
    obtain ⟨requests, orderly, tenancy, serves⟩ := fills.tenancy.after_destroy fills.orderly
    -- an image that was not presented has nothing to give up
    rw [fresh, Option.toList_none, List.map_nil, List.append_nil] at requests
    rw [List.append_nil] at tenancy
    exact ⟨fills.handle, orderly, tenancy, fills.sizes.trans (.of_requests_eq requests _),
      fills.serves.trans serves⟩

namespace Theme

/-- **A load begins a tenancy**, and sends nothing but the sizes of its new pool. -/
theorem load_fills {host : Host} (orderly : host.Orderly) {name : Option String} {size : UInt32}
    {loader : Loader} {trouble : Trouble} {theme : Theme}
    (loaded : (load name size loader trouble host).outcome = .ok theme) :
    host.Fills theme.pool theme.images (load name size loader trouble host).host := by
  obtain ⟨freshOrderly, fresh, serves⟩ :=
    orderly.after_announceFresh (max (firstCapacity size) bytesPerPixel)
  have sizes : host.Sends (Request.Sizes (host.lastHandle + 1))
      (Pool.announceFresh (max (firstCapacity size) bytesPerPixel) host) := by
    refine .of_append rfl ?_
    show host.lastHandle + 1 = host.lastHandle + 1
    rfl
  exact (load_keeps host.kept_fills loaded ⟨rfl, freshOrderly, fresh, sizes, serves⟩).2

/-- A theme ends image by image, and then its pool ends. -/
theorem destroy_eq (theme : Theme) (host : Host) :
    theme.destroy host
      = theme.pool.destroy (theme.images.foldl (fun host image => image.destroy host) host) := by
  rw [destroy, images, List.foldl_flatMap]
  rfl

/-- **The end of a theme only gives things up.** -/
theorem sends_destroy (theme : Theme) (host : Host) :
    host.Sends Request.Releases (theme.destroy host) := by
  rw [destroy_eq, Pool.destroy]
  have images : ∀ (images : List Image) (host : Host), host.Sends Request.Releases
      (images.foldl (fun host image => image.destroy host) host) := by
    intro images
    induction images with
    | nil => exact fun host => .of_requests_eq rfl _
    | cons image later ih => exact fun host => (image.sends_destroy host).trans (ih _)
  exact (images theme.images host).trans (Host.sends_release (Host.log _ _) _)

/-- **The end of a theme** gives up its buffers, in order, and then its pool. -/
theorem destroy_spec {theme : Theme} {host : Host} (orderly : host.Orderly)
    (tenancy : host.Tenancy theme.pool.handle theme.images) :
    (theme.destroy host).requests
        = host.requests ++ theme.buffers.map .destroyBuffer ++ [.destroyPool theme.pool.handle] ∧
      (theme.destroy host).Orderly ∧ host.Serves theme.pool.handle (theme.destroy host) := by
  -- first the images end, then the end of the pool is logged, then the pool lets go of itself
  obtain ⟨requests, leftOrderly, left, serves⟩ := tenancy.after_destroy_all orderly
  have alike := Host.alike_log
    (theme.images.foldl (fun host image => image.destroy host) host)
    (.poolDestroyed theme.pool.used theme.pool.capacity)
  obtain ⟨last, endOrderly, endServes⟩ :=
    (left.of_alike alike).after_last_release (leftOrderly.of_alike alike)
  rw [destroy_eq, Pool.destroy]
  refine ⟨?_, endOrderly, (serves.trans (alike.serves _)).trans endServes⟩
  rw [last, Host.requests_log, requests, buffers]

end Theme

end CursorThemes
