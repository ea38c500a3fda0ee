import CursorThemes.Proofs.Usage

/-! # Allocations succeed or do nothing

A pool that is asked for bytes gives them out, or is left exactly as it was. A growth that fails has
made the file longer already, so this is more than a matter of return values: what was written has to
survive the way there and back.

* **`Backing.Within`** says that nothing was written behind a position. A file that is made longer
  and cut back is then the same file (`Backing.resize_resize_of_within`).
* **`Pool.eq_of_allocate_error`** follows for one allocation, and **`Pool.Usage.Contained.run`**
  says that its premises hold however a pool was used before.
* **`Pool.Usage.allocate_exact`** is the result: when an allocation succeeds, what it does then, and
  that it does nothing otherwise. -/

namespace CursorThemes

/-! ## Files that are made longer in vain -/

/-- A segment that stops before a cut is not touched by it. -/
theorem Segment.cut_eq_self {segment : Segment} {length : Nat}
    (inside : segment.start + segment.bytes.length ≤ length) : segment.cut length = segment := by
  rw [cut, List.take_of_length_le (by omega)]

namespace Backing

/-- **Nothing was written behind a position.** -/
def Within (file : Backing) (stop : Nat) : Prop :=
  ∀ segment ∈ file.segments, segment.start + segment.bytes.length ≤ stop

/-- What lies before a position lies before every later one. -/
theorem Within.mono {file : Backing} {stop later : Nat} (within : file.Within stop)
    (le : stop ≤ later) : file.Within later :=
  fun segment member => le_trans (within segment member) le

/-- Bytes that stop before the position may be written. -/
theorem Within.write {file : Backing} {stop : Nat} (within : file.Within stop) {start : Nat}
    {bytes : List UInt8} (inside : start + bytes.length ≤ stop) :
    (file.write start bytes).Within stop := by
  intro segment member
  rcases List.mem_cons.mp member with rfl | old
  · exact inside
  · exact within segment old

/-- A longer file holds what was written before. -/
theorem segments_resize_of_le {file : Backing} {length : Nat} (longer : file.length ≤ length) :
    (file.resize length).segments = file.segments := if_neg (Nat.not_lt.mpr longer)

/-- A file of another length has nothing written further behind. -/
theorem Within.resize {file : Backing} {stop : Nat} (within : file.Within stop) (length : Nat) :
    (file.resize length).Within stop := by
  by_cases shorter : length < file.length
  · intro segment member
    simp only [Backing.resize, if_pos shorter, List.mem_map] at member
    obtain ⟨whole, there, rfl⟩ := member
    have inside := within whole there
    simp only [Segment.cut, List.length_take]
    omega
  · rw [Within, segments_resize_of_le (Nat.le_of_not_lt shorter)]
    exact within

/-- **A file that is made longer and cut back is the same file.** -/
theorem resize_resize_of_within {file : Backing} (within : file.Within file.length) {length : Nat}
    (longer : file.length ≤ length) : (file.resize length).resize file.length = file := by
  have cut : file.segments.map (·.cut file.length) = file.segments := by
    rw [List.map_congr_left fun segment member => Segment.cut_eq_self (within segment member),
      List.map_id']
  rw [Backing.resize, segments_resize_of_le longer, cut, ite_self]

end Backing

namespace Pool

/-! ## Allocations that fail -/

variable {pool left : Pool} {host after : Host} {size : Nat} {fault : Option SystemCall}

/-- **An allocation that fails leaves the pool and the host as they were**, if the file can be
cut back. -/
theorem eq_of_allocate_error (small : pool.capacity ≤ maxPoolSize)
    (exact : pool.backing.length = pool.capacity) (within : pool.backing.Within pool.capacity)
    (cutsBack : SystemCall.cutsBack fault = true) {error : CursorError}
    (failed : pool.allocate size fault host = (.error error, left, after)) :
    left = pool ∧ after = host := by
  rcases allocate_error_cases failed with
    unchanged | ⟨refusal, -, rfl, rfl⟩ | ⟨refusal, uncut, rfl, -⟩
  · exact unchanged
  · -- the file was made longer before the mapping failed
    have longer : pool.backing.length ≤ grownCapacity pool.capacity size :=
      exact ▸ le_grownCapacity small size
    have restored := Backing.resize_resize_of_within (exact ▸ within) longer
    rw [exact] at restored
    exact ⟨by rw [restored], rfl⟩
  · cases cutsBack

/-- A pool that has to grow gets larger, and large enough. -/
theorem lt_grownCapacity {capacity used size : Nat} (full : ¬ used + size ≤ capacity)
    (room : used + size ≤ maxPoolSize) (inside : used ≤ capacity) :
    capacity < grownCapacity capacity size ∧ used + size ≤ grownCapacity capacity size := by
  unfold grownCapacity
  omega

/-- A grant writes nothing. -/
theorem within_granted {stop : Nat} (within : pool.backing.Within stop) (size : Nat) :
    (pool.granted size).backing.Within stop := by
  simp only [granted]
  split
  · exact within
  · exact within.resize _

/-- What fits into a range is written inside of what was given out. -/
theorem within_write {stop : Nat} (within : pool.backing.Within stop) {range : Allocation}
    (inside : range.stop ≤ stop) (start : Nat) (bytes : List UInt8) :
    let first := min start range.length
    (pool.backing.write (range.offset + first) (bytes.take (range.length - first))).Within stop := by
  have width : range.stop = range.offset + range.length := rfl
  refine within.write ?_
  rw [List.length_take]
  omega

/-! ## Pools in use -/

namespace Usage

/-- **A pool whose books are exact and that was written to only where it gave out bytes.** -/
structure Contained (usage : Usage) : Prop where
  /-- The books are exact. -/
  exact : usage.Exact
  /-- Nothing was written behind what was given out. -/
  within : usage.pool.backing.Within usage.pool.used

/-- Nothing was written to a new pool. -/
theorem contained_fresh (host : Host) {capacity : Nat} (pixel : bytesPerPixel ≤ capacity)
    (small : capacity ≤ maxPoolSize) :
    Contained
      { pool := .fresh (host.lastHandle + 1) capacity, host := announceFresh capacity host } := by
  refine ⟨exact_fresh host pixel small, ?_⟩
  intro segment member
  cases member

variable {usage : Usage}

/-- Nothing was written behind the capacity. -/
theorem Contained.within_capacity (contained : usage.Contained) :
    usage.pool.backing.Within usage.pool.capacity :=
  contained.within.mono contained.exact.sized.used_le

/-- **An allocation that is not granted is as good as not made.** -/
theorem Contained.allocate_of_not_grants (contained : usage.Contained) {size : Nat}
    {fault : Option SystemCall} (cutsBack : SystemCall.cutsBack fault = true)
    (denied : ¬ Grants usage.pool.capacity usage.pool.used size fault) :
    ∃ cause, usage.pool.allocate size fault usage.host
      = (.error (.allocation size usage.pool.capacity cause), usage.pool, usage.host) := by
  obtain ⟨cause, backing, after, refused, -⟩ :=
    Pool.allocate_of_not_grants contained.exact.sized denied usage.host
  obtain ⟨samePool, sameHost⟩ :=
    eq_of_allocate_error contained.exact.sized.capacity_le contained.exact.length_eq
      contained.within_capacity cutsBack refused
  exact ⟨cause, by rw [refused, samePool, sameHost]⟩

/-- Every use keeps what was written inside of what was given out. -/
theorem Contained.step (contained : usage.Contained) {use : Use} (cutsBack : use.cutsBack = true) :
    (usage.step use).Contained := by
  refine ⟨contained.exact.step cutsBack, ?_⟩
  cases use with
  | allocate size fault =>
    by_cases grants : Grants usage.pool.capacity usage.pool.used size fault
    · simp only [Usage.step, allocate_of_grants grants]
      exact (within_granted contained.within size).mono (Nat.le_add_right _ _)
    · obtain ⟨cause, refused⟩ := contained.allocate_of_not_grants cutsBack grants
      simp only [Usage.step, refused]
      exact contained.within
  | store range start bytes =>
    by_cases inside : range.stop ≤ usage.pool.used
    · simp only [Usage.step, store?_of_stop_le inside]
      exact within_write contained.within inside start bytes
    · have refused : usage.pool.store? range start bytes = none :=
        (withholds_of_lt_stop (Nat.lt_of_not_le inside)).write start bytes
      simp only [Usage.step, refused]
      exact contained.within

/-- **What is written stays inside of what was given out**, however often a pool is used. -/
theorem Contained.run (contained : usage.Contained) {uses : List Use}
    (cutsBack : ∀ use ∈ uses, use.cutsBack = true) : (usage.run uses).Contained := by
  induction uses generalizing usage with
  | nil => exact contained
  | cons use later ih =>
    exact ih (contained.step (cutsBack use List.mem_cons_self)) fun other member =>
      cutsBack other (List.mem_cons_of_mem _ member)

/-! ## One allocation of a pool in use -/

/-- **How a pool makes room for `size` more bytes.** If they are there, its capacity stays and nothing
is requested. Otherwise it gets twice its capacity and as many bytes more, as far as a pool can have
them; this is more than before and enough, and one request tells it to the service. -/
def MakesRoom (usage : Usage) (size : Nat) (left : Pool) (after : Host) : Prop :=
  if usage.pool.used + size ≤ usage.pool.capacity then
    left.capacity = usage.pool.capacity ∧ after.requests = usage.host.requests
  else
    left.capacity = min (2 * usage.pool.capacity + size) maxPoolSize ∧
      usage.pool.capacity < left.capacity ∧ usage.pool.used + size ≤ left.capacity ∧
      ∃ word : Int32, word.toInt = left.capacity ∧
        after.requests = usage.host.requests ++ [.resizePool usage.pool.handle word]

/-- A grant makes room. -/
theorem Exact.makesRoom (exact : usage.Exact) {size : Nat}
    (room : usage.pool.used + size ≤ maxPoolSize) :
    usage.MakesRoom size (usage.pool.granted size) (usage.pool.announceGrant size usage.host) := by
  rw [MakesRoom, capacity_granted]
  unfold capacityFor announceGrant
  split
  · exact ⟨rfl, rfl⟩
  · rename_i full
    obtain ⟨larger, enough⟩ := lt_grownCapacity full room exact.sized.used_le
    exact ⟨rfl, larger, enough, _, toInt_ofNat_of_le _ (Nat.min_le_right _ _), rfl⟩

/-- **An allocation is exact, and it is all or nothing.** Let a new pool be used in any way, and any
system calls have failed, as long as the file could be cut back. Then the pool gives out bytes exactly
if some are asked for, the sum stays within the largest pool, and the bytes are there or no system
call stands in the way of a growth. What is given out starts where the pool had stopped; no byte
before is touched, and the pool makes room as it should. A pool that does not give out the bytes says
how many were asked for and how large it is, and is left as it was, and so is the host: it can be
used as if it had not been asked. -/
theorem allocate_exact {size : Nat} {obstacles : Obstacles} {host announced : Host} {pool : Pool}
    (created : create size obstacles host = (.ok pool, announced)) {uses : List Use}
    (cutsBack : ∀ use ∈ uses, use.cutsBack = true) (requested : Nat) {fault : Option SystemCall}
    (recovers : SystemCall.cutsBack fault = true) :
    let before := Usage.run { pool, host := announced } uses
    let result := before.pool.allocate requested fault before.host
    ((∃ range, result.1 = .ok range) ↔
      0 < requested ∧ before.pool.used + requested ≤ maxPoolSize ∧
        (before.pool.used + requested ≤ before.pool.capacity ∨
          SystemCall.stopsGrowth fault = false)) ∧
    (∀ range, result.1 = .ok range →
      range = ⟨before.pool.used, requested⟩ ∧
      result.2.1.used = before.pool.used + requested ∧
      (∀ position < before.pool.used,
        result.2.1.backing.byteAt position = before.pool.backing.byteAt position) ∧
      before.MakesRoom requested result.2.1 result.2.2) ∧
    ∀ error, result.1 = .error error →
      (∃ cause, error = .allocation requested before.pool.capacity cause) ∧
      result.2 = (before.pool, before.host) ∧
      ∀ later, (before.step (.allocate requested fault)).run later = before.run later := by
  intro before result
  obtain ⟨small, rfl, rfl⟩ := eq_fresh_of_create created
  have contained : before.Contained :=
    (contained_fresh host (Nat.le_max_right _ _) small).run cutsBack
  by_cases grants : Grants before.pool.capacity before.pool.used requested fault
  · have given : result = (.ok ⟨before.pool.used, requested⟩, before.pool.granted requested,
        before.pool.announceGrant requested before.host) := allocate_of_grants grants before.host
    rw [given]
    refine ⟨iff_of_true ⟨_, rfl⟩ grants, ?_, ?_⟩
    · intro range same
      cases same
      exact ⟨rfl, rfl, (extends_granted contained.exact.sized requested).byteAt,
        contained.exact.makesRoom grants.2.1⟩
    · intro error failed
      cases failed
  · obtain ⟨cause, refused⟩ := contained.allocate_of_not_grants recovers grants
    have denied : result = (.error (.allocation requested before.pool.capacity cause), before.pool,
        before.host) := refused
    rw [denied]
    refine ⟨iff_of_false ?_ grants, ?_, ?_⟩
    · rintro ⟨range, same⟩
      cases same
    · intro range same
      cases same
    · intro error same
      cases same
      have unchanged : before.step (.allocate requested fault) = before := by
        simp only [Usage.step, refused]
      exact ⟨⟨cause, rfl⟩, rfl, fun later => by rw [unchanged]⟩

/-- A pool of one pixel, which was written to, cannot map its longer file. -/
theorem allocate_exact_of_failed_mapping :
    let uses : List Use := [.allocate 4 none, .store ⟨0, 4⟩ 0 [1, 2, 3, 4]]
    let before := Usage.run
      { pool := .fresh 1 bytesPerPixel, host := announceFresh bytesPerPixel {} } uses
    let result := before.pool.allocate 8 (some (.mapFile .outOfMemory)) before.host
    create 0 {} {} = (.ok (.fresh 1 bytesPerPixel), announceFresh bytesPerPixel {}) ∧
      (∀ use ∈ uses, use.cutsBack = true) ∧
      SystemCall.cutsBack (some (.mapFile .outOfMemory)) = true ∧
      result.1 = .error (.allocation 8 4 (.system .outOfMemory)) ∧
      result.2 = (before.pool, before.host) ∧
      result.2.1.bytes? ⟨0, 4⟩ = some [1, 2, 3, 4] := by
  intro uses before result
  have created : create 0 {} {} = (.ok (.fresh 1 bytesPerPixel), announceFresh bytesPerPixel {}) :=
    rfl
  have cutsBack : ∀ use ∈ uses, use.cutsBack = true := by decide
  have failed : result.1 = .error (.allocation 8 4 (.system .outOfMemory)) := rfl
  have recovers : SystemCall.cutsBack (some (.mapFile .outOfMemory)) = true := rfl
  obtain ⟨-, -, unchanged⟩ := allocate_exact created cutsBack 8 recovers
  obtain ⟨-, same, -⟩ := unchanged _ failed
  refine ⟨created, cutsBack, recovers, failed, same, ?_⟩
  rw [show result.2 = (before.pool, before.host) from same]
  decide

end Usage

end Pool

end CursorThemes
