import CursorThemes.Proofs.Geometry

/-! # Pools in use

What becomes of a pool that is asked for bytes and written to any number of times, whatever system
calls fail meanwhile.

* **`Allocation.Tiles`** says that ranges fill a stretch, one after the other and without a gap.
* **`Pool.Usage`** is a pool with its host and the record of what it gave out, and
  **`Pool.Usage.run`** uses it any number of times.
* **`Pool.Usage.Exact`** is the invariant: the file, the mapping, the capacity and what the service
  was told are one size, and the ranges given out tile what is used.
* **`Pool.Usage.bookkeeping`** is the result. -/

namespace CursorThemes

open RequestLog

/-! ## Ranges that tile a stretch -/

/-- **Ranges fill the stretch from `start` to `stop`**: each starts where the one before it stops. -/
def Allocation.Tiles : Nat → List Allocation → Nat → Prop
  | start, [], stop => start = stop
  | start, range :: later, stop => range.offset = start ∧ Tiles range.stop later stop

namespace Allocation

/-- Nothing fills an empty stretch. -/
@[simp] theorem tiles_nil {start stop : Nat} : Tiles start [] stop ↔ start = stop := Iff.rfl

/-- Cons reading of `Tiles`: the first range starts with the stretch, and the others fill the
rest. -/
@[simp] theorem tiles_cons {start stop : Nat} {range : Allocation} {later : List Allocation} :
    Tiles start (range :: later) stop ↔ range.offset = start ∧ Tiles range.stop later stop := Iff.rfl

/-- A further range goes on where the others stop. -/
theorem Tiles.append_singleton {start stop : Nat} {ranges : List Allocation}
    (tiles : Tiles start ranges stop) (length : Nat) :
    Tiles start (ranges ++ [⟨stop, length⟩]) (stop + length) := by
  induction ranges generalizing start with
  | nil => exact ⟨(tiles_nil.mp tiles).symm, rfl⟩
  | cons range later ih => exact ⟨tiles.1, ih tiles.2⟩

/-- A stretch is as long as the ranges that fill it, taken together. -/
theorem Tiles.add_sum_eq {start stop : Nat} {ranges : List Allocation}
    (tiles : Tiles start ranges stop) : start + (ranges.map Allocation.length).sum = stop := by
  induction ranges generalizing start with
  | nil => simpa using tiles
  | cons range later ih =>
    have rest := ih tiles.2
    rw [Allocation.stop, tiles.1] at rest
    rw [List.map_cons, List.sum_cons]
    omega

/-- Every range that fills a part of a stretch is inside of it. -/
theorem Tiles.bounds {start stop : Nat} {ranges : List Allocation}
    (tiles : Tiles start ranges stop) {range : Allocation} (member : range ∈ ranges) :
    start ≤ range.offset ∧ range.stop ≤ stop := by
  induction ranges generalizing start with
  | nil => cases member
  | cons first later ih =>
    -- the others start where the first one stops, and reach as far as the stretch
    have whole := tiles.2.add_sum_eq
    have offset := tiles.1
    have width : first.stop = first.offset + first.length := rfl
    rcases List.mem_cons.mp member with rfl | behind
    · omega
    · have inside := ih tiles.2 behind
      omega

/-- Of two ranges in a stretch the later one starts where the earlier one has stopped. -/
theorem Tiles.pairwise {start stop : Nat} {ranges : List Allocation}
    (tiles : Tiles start ranges stop) :
    ranges.Pairwise fun first second => first.stop ≤ second.offset := by
  induction ranges generalizing start with
  | nil => exact List.Pairwise.nil
  | cons range later ih =>
    exact List.pairwise_cons.mpr ⟨fun other member => (tiles.2.bounds member).1, ih tiles.2⟩

/-- A range does not overlap one that starts behind it. -/
theorem overlaps_eq_false_of_le {first second : Allocation} (apart : first.stop ≤ second.offset) :
    first.overlaps second = false := by
  rw [overlaps, Bool.and_eq_false_iff]
  exact Or.inr (decide_eq_false (by omega))

end Allocation

/-! ## Using a pool -/

/-- Whether a file that was made longer in vain can be cut back. -/
def SystemCall.cutsBack : Option SystemCall → Bool
  | some (.cutFile _ _) => false
  | none | some (.createFile _) | some (.extendFile _) | some (.mapFile _) => true

namespace Pool

/-- What can be done with a pool. -/
inductive Use where
  /-- Ask for the next `size` bytes. A system call may fail. -/
  | allocate (size : Nat) (fault : Option SystemCall)
  /-- Write bytes into a range, of this pool or another one, from its position `start` on. -/
  | store (range : Allocation) (start : Nat) (bytes : List UInt8)

/-- Whether nothing stands in the way of cutting the file back. -/
def Use.cutsBack : Use → Bool
  | allocate _ fault => SystemCall.cutsBack fault
  | store _ _ _ => true

/-- **A pool in use**, with its host and the record of what it gave out. -/
structure Usage where
  /-- The pool. -/
  pool : Pool
  /-- The host. -/
  host : Host
  /-- The sizes that were asked for with success, in order. -/
  sizes : List Nat := []
  /-- The ranges that were given out, in order. -/
  granted : List Allocation := []

namespace Usage

/-- The pool after one more use. What it refuses changes no record. -/
def step (usage : Usage) : Use → Usage
  | .allocate size fault =>
    match usage.pool.allocate size fault usage.host with
    | (.ok range, pool, host) =>
      { pool, host, sizes := usage.sizes ++ [size], granted := usage.granted ++ [range] }
    | (.error _, pool, host) => { usage with pool, host }
  | .store range start bytes =>
    match usage.pool.store? range start bytes with
    | some (_, pool) => { usage with pool }
    | none => usage

/-- **The pool after uses**, in order. -/
def run (usage : Usage) (uses : List Use) : Usage := uses.foldl step usage

/-! ## The books of a pool -/

/-- **The books of a pool are exact.** Its sizes agree, down to the length of the file; the service
was told its capacity; and what was given out is what was asked for and tiles what is used. -/
structure Exact (usage : Usage) : Prop where
  /-- The sizes of the pool agree. -/
  sized : usage.pool.Sized
  /-- The file is as long as the pool. -/
  length_eq : usage.pool.backing.length = usage.pool.capacity
  /-- The capacity was announced. -/
  announced : announced? usage.host.requests usage.pool.handle = some (.ofNat usage.pool.capacity)
  /-- Every range is as long as was asked for. -/
  lengths : usage.granted.map Allocation.length = usage.sizes
  /-- The ranges tile what is used. -/
  tiles : Allocation.Tiles 0 usage.granted usage.pool.used

/-- The books of a new pool are exact. -/
theorem exact_fresh (host : Host) {capacity : Nat} (pixel : bytesPerPixel ≤ capacity)
    (small : capacity ≤ maxPoolSize) :
    Exact { pool := .fresh (host.lastHandle + 1) capacity, host := announceFresh capacity host } :=
  ⟨sized_fresh _ pixel small, rfl, (layout_fresh host capacity).announced, rfl, rfl⟩

/-- A grant leaves the file as long as the pool. -/
theorem length_granted {pool : Pool} (exact : pool.backing.length = pool.capacity) (size : Nat) :
    (pool.granted size).backing.length = (pool.granted size).capacity := by
  simp only [Pool.granted]
  split
  · exact exact
  · rfl

/-- An allocation that fails leaves the file as long as it was, if it can be cut back. -/
theorem length_of_allocate_error {pool left : Pool} (exact : pool.backing.length = pool.capacity)
    {size : Nat} {fault : Option SystemCall} (cutsBack : SystemCall.cutsBack fault = true)
    {host after : Host} {error : CursorError}
    (failed : pool.allocate size fault host = (.error error, left, after)) :
    left.backing.length = pool.capacity := by
  rcases allocate_error_cases failed with ⟨rfl, -⟩ | ⟨refusal, -, rfl, -⟩ | ⟨refusal, uncut, rfl, -⟩
  · exact exact
  · -- the file was cut back to the capacity
    rfl
  · cases cutsBack

/-- Asking for bytes keeps the books exact. -/
theorem Exact.allocate {usage : Usage} (exact : usage.Exact) (size : Nat)
    {fault : Option SystemCall} (cutsBack : SystemCall.cutsBack fault = true) :
    (usage.step (.allocate size fault)).Exact := by
  by_cases grants : Grants usage.pool.capacity usage.pool.used size fault
  · have given := allocate_of_grants grants usage.host
    simp only [step, given]
    refine ⟨sized_granted exact.sized grants.2.1, length_granted exact.length_eq size, ?_, ?_, ?_⟩
    · rw [handle_granted, capacity_granted]
      exact announced?_announceGrant exact.announced size
    · rw [List.map_append, exact.lengths]
      rfl
    · rw [used_granted]
      exact exact.tiles.append_singleton size
  · obtain ⟨cause, backing, after, refused, alike, same⟩ :=
      allocate_of_not_grants exact.sized grants usage.host
    have length := length_of_allocate_error exact.length_eq cutsBack refused
    simp only [step, refused]
    refine ⟨exact.sized.withBacking same.length_le, length, ?_, exact.lengths, exact.tiles⟩
    rw [alike.requests]
    exact exact.announced

/-- Writing changes nothing but bytes of the file. -/
theorem exists_of_store? {pool after : Pool} {range : Allocation} {start count : Nat}
    {bytes : List UInt8} (stored : pool.store? range start bytes = some (count, after)) :
    ∃ backing : Backing, after = { pool with backing } ∧
      backing.length = pool.backing.length := by
  unfold store? at stored
  split at stored
  · cases stored
  · cases stored
    exact ⟨_, rfl, rfl⟩

/-- Writing keeps the books exact. -/
theorem Exact.store {usage : Usage} (exact : usage.Exact) (range : Allocation) (start : Nat)
    (bytes : List UInt8) : (usage.step (.store range start bytes)).Exact := by
  cases stored : usage.pool.store? range start bytes with
  | none =>
    simp only [step, stored]
    exact exact
  | some written =>
    obtain ⟨backing, same, length⟩ := exists_of_store? stored
    simp only [step, stored, same]
    have longEnough : usage.pool.capacity ≤ backing.length := by
      rw [length, exact.length_eq]
    exact ⟨exact.sized.withBacking longEnough, length.trans exact.length_eq, exact.announced,
      exact.lengths, exact.tiles⟩

/-- **Every use keeps the books exact.** -/
theorem Exact.step {usage : Usage} (exact : usage.Exact) {use : Use}
    (cutsBack : use.cutsBack = true) : (usage.step use).Exact := by
  cases use with
  | allocate size fault => exact exact.allocate size cutsBack
  | store range start bytes => exact exact.store range start bytes

/-- **The books stay exact**, however often a pool is used. -/
theorem Exact.run {usage : Usage} (exact : usage.Exact) {uses : List Use}
    (cutsBack : ∀ use ∈ uses, use.cutsBack = true) : (usage.run uses).Exact := by
  induction uses generalizing usage with
  | nil => exact exact
  | cons use later ih =>
    exact ih (exact.step (cutsBack use List.mem_cons_self)) fun other member =>
      cutsBack other (List.mem_cons_of_mem _ member)

end Usage

/-- A pool that was made is new, and within the largest pool. -/
theorem eq_fresh_of_create {size : Nat} {obstacles : Obstacles} {host announced : Host} {pool : Pool}
    (created : create size obstacles host = (.ok pool, announced)) :
    max size bytesPerPixel ≤ maxPoolSize ∧
      pool = fresh (host.lastHandle + 1) (max size bytesPerPixel) ∧
      announced = announceFresh (max size bytesPerPixel) host := by
  unfold create at created
  simp only at created
  split at created
  · cases created
  · rename_i small
    split at created
    · cases created
    · split at created
      · cases created
      · cases created
        exact ⟨Nat.le_of_not_lt small, rfl, rfl⟩

/-! ## Looking at ranges -/

/-- **A range is within reach of a pool**: all of it is mapped, as many bytes can be read as it is
long, and from any position on as many can be written as it has room for, without a byte outside of
it being touched. -/
structure Reaches (pool : Pool) (range : Allocation) : Prop where
  /-- The range stops inside of the mapping. -/
  mapped : range.stop ≤ pool.mapped
  /-- The bytes of the range can be read. -/
  read : ∃ bytes, pool.bytes? range = some bytes ∧ bytes.length = range.length
  /-- The range can be written to. -/
  write : ∀ start bytes, ∃ after,
    pool.store? range start bytes = some (min bytes.length (range.length - start), after) ∧
      ∀ position, position < range.offset ∨ range.stop ≤ position →
        after.backing.byteAt position = pool.backing.byteAt position

/-- **A range is out of reach of a pool**: it can be neither read nor written to. -/
structure Withholds (pool : Pool) (range : Allocation) : Prop where
  /-- The range cannot be read. -/
  read : pool.bytes? range = none
  /-- The range cannot be written to. -/
  write : ∀ start bytes, pool.store? range start bytes = none

/-- What was given out is within reach, if the sizes of the pool agree. -/
theorem reaches_of_stop_le {pool : Pool} (sized : pool.Sized) {range : Allocation}
    (inside : range.stop ≤ pool.used) : pool.Reaches range := by
  refine ⟨?_, ?_, ?_⟩
  · rw [sized.mapped_eq]
    exact le_trans inside sized.used_le
  · obtain ⟨view, seen⟩ := Option.isSome_iff_exists.mp (isSome_view?_iff.mpr inside)
    have read : pool.bytes? range = some view.toList := by rw [bytes?, seen, Option.map_some]
    exact ⟨view.toList, read, length_of_bytes? read⟩
  · intro start bytes
    have width : range.stop = range.offset + range.length := rfl
    have room : min (range.length - min start range.length) bytes.length
        = min bytes.length (range.length - start) := by omega
    have written := store?_of_stop_le inside start bytes
    simp only [List.length_take, room] at written
    refine ⟨_, written, ?_⟩
    · intro position outside
      rw [Backing.byteAt_write]
      split
      · rw [List.getElem?_eq_none]
        · rfl
        · rw [List.length_take]
          omega
      · rfl

/-- What was not given out is out of reach. -/
theorem withholds_of_lt_stop {pool : Pool} {range : Allocation} (outside : pool.used < range.stop) :
    pool.Withholds range :=
  ⟨by rw [bytes?, view?, if_pos outside, Option.map_none], fun _ _ => if_pos outside⟩

/-- **The books of a pool.** However a new pool is used, and whatever system calls fail as long as
the file can be cut back: the pool has room for a pixel and can be announced; the file, the mapping
and the size last announced are the capacity; what is used is the sum of the sizes granted, and the
ranges given out tile it, so that no two of them overlap. A range, be it of this pool or another
one, is within reach exactly if it stops inside of what is used. -/
theorem Usage.bookkeeping {size : Nat} {obstacles : Obstacles} {host announced : Host} {pool : Pool}
    (created : create size obstacles host = (.ok pool, announced)) {uses : List Use}
    (cutsBack : ∀ use ∈ uses, use.cutsBack = true) :
    let after := Usage.run { pool, host := announced } uses
    (bytesPerPixel ≤ after.pool.capacity ∧ after.pool.capacity ≤ maxPoolSize ∧
      after.pool.used ≤ after.pool.capacity) ∧
    (after.pool.mapped = after.pool.capacity ∧
      after.pool.backing.length = after.pool.capacity ∧
      (announced? after.host.requests after.pool.handle).map Int32.toInt
        = some (after.pool.capacity : Int)) ∧
    (after.granted.map Allocation.length = after.sizes ∧ after.pool.used = after.sizes.sum) ∧
    (Allocation.Tiles 0 after.granted after.pool.used ∧
      after.granted.Pairwise fun first second => first.overlaps second = false) ∧
    ∀ range : Allocation,
      (range.stop ≤ after.pool.used → after.pool.Reaches range) ∧
      (after.pool.used < range.stop → after.pool.Withholds range) := by
  intro after
  obtain ⟨small, rfl, rfl⟩ := eq_fresh_of_create created
  have exact : after.Exact :=
    (Usage.exact_fresh host (Nat.le_max_right _ _) small).run cutsBack
  have sized := exact.sized
  have sum := exact.tiles.add_sum_eq
  rw [Nat.zero_add, exact.lengths] at sum
  refine ⟨⟨sized.pixel_le, sized.capacity_le, sized.used_le⟩,
    ⟨sized.mapped_eq, exact.length_eq, ?_⟩, ⟨exact.lengths, sum.symm⟩, ⟨exact.tiles, ?_⟩, ?_⟩
  · rw [exact.announced, Option.map_some, toInt_ofNat_of_le _ sized.capacity_le]
  · exact exact.tiles.pairwise.imp Allocation.overlaps_eq_false_of_le
  · exact fun range => ⟨reaches_of_stop_le sized, withholds_of_lt_stop⟩

/-- A pool of one pixel gives out two ranges, fails to grow for a third and is written to. -/
theorem Usage.bookkeeping_of_growth :
    let uses : List Use :=
      [.allocate 4 none, .allocate 8 none, .allocate 100 (some (.mapFile .outOfMemory)),
        .store ⟨4, 8⟩ 2 [1, 2, 3], .allocate 2 none]
    let after := Usage.run
      { pool := .fresh 1 bytesPerPixel, host := announceFresh bytesPerPixel {} } uses
    create 0 {} {} = (.ok (.fresh 1 bytesPerPixel), announceFresh bytesPerPixel {}) ∧
      (∀ use ∈ uses, use.cutsBack = true) ∧
      after.granted = [⟨0, 4⟩, ⟨4, 8⟩, ⟨12, 2⟩] ∧ after.pool.capacity = 16 ∧
      (announced? after.host.requests after.pool.handle).map Int32.toInt = some 16 ∧
      after.pool.Reaches ⟨4, 8⟩ ∧ after.pool.Withholds ⟨12, 4⟩ := by
  intro uses after
  have created : create 0 {} {} = (.ok (.fresh 1 bytesPerPixel), announceFresh bytesPerPixel {}) :=
    rfl
  have cutsBack : ∀ use ∈ uses, use.cutsBack = true := by decide
  obtain ⟨-, ⟨-, -, announced⟩, -, -, ranges⟩ := Usage.bookkeeping created cutsBack
  refine ⟨created, cutsBack, rfl, rfl, announced, (ranges ⟨4, 8⟩).1 (by decide),
    (ranges ⟨12, 4⟩).2 (by decide)⟩

end Pool

end CursorThemes
