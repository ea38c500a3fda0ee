import CursorThemes.Cursor
import Mathlib.Data.Nat.Basic

/-! # What an allocation can do

A pool either grants the bytes that it is asked for, or it stays as it was in all but its file and
the log. This file says which of the two happens, and what comes of it:

* **`Pool.Grants`** is the condition for a grant, in terms of sizes only.
* **`Pool.allocate_of_grants`** and **`Pool.allocate_of_not_grants`** are the two ways out of an
  allocation.
* **`Pool.Sized`** is kept by both, and **`Pool.Extends`** relates the pool before to the pool
  after: nothing that was given out is touched.
* **`Obstacles.Stops`** says which of the steps to a new pool fails, and with which error. -/

namespace CursorThemes

/-! ## Hosts that differ in their logs -/

namespace Host

/-- Two hosts whose difference, if any, is what was logged. -/
structure Alike (before after : Host) : Prop where
  /-- The same handles were given out. -/
  lastHandle : after.lastHandle = before.lastHandle
  /-- The same requests were received. -/
  requests : after.requests = before.requests
  /-- The same pools are held. -/
  holds : after.holds = before.holds

/-- A host is like itself. -/
theorem Alike.refl (host : Host) : Alike host host := ⟨rfl, rfl, rfl⟩

/-- Logging a notice changes nothing else. -/
theorem alike_log (host : Host) (notice : Notice) : Alike host (host.log notice) := ⟨rfl, rfl, rfl⟩

/-- Logging notices changes nothing else. -/
theorem alike_logAll (host : Host) (notices : List Notice) : Alike host (host.logAll notices) :=
  ⟨rfl, rfl, rfl⟩

end Host

/-- **A file stands in for another one** up to a length: it is as long as that and has the same
bytes there. -/
structure Backing.StandsIn (before after : Backing) (length : Nat) : Prop where
  /-- It is long enough. -/
  length_le : length ≤ after.length
  /-- The bytes are the same. -/
  byteAt : ∀ position < length, after.byteAt position = before.byteAt position

/-- A file stands in for itself. -/
theorem Backing.StandsIn.refl {file : Backing} {length : Nat} (longEnough : length ≤ file.length) :
    file.StandsIn file length := ⟨longEnough, fun _ _ => rfl⟩

/-- A file of another length stands in for the file up to the lesser of the two lengths. -/
theorem Backing.standsIn_resize (file : Backing) {length target : Nat} (kept : length ≤ target) :
    file.StandsIn (file.resize target) length :=
  ⟨kept, fun _ inside => Backing.byteAt_resize file (lt_of_lt_of_le inside kept)⟩

/-- What stands in for a stand-in stands in for the file. -/
theorem Backing.StandsIn.trans {first second third : Backing} {length : Nat}
    (lower : first.StandsIn second length) (upper : second.StandsIn third length) :
    first.StandsIn third length :=
  ⟨upper.length_le, fun position inside =>
    (upper.byteAt position inside).trans (lower.byteAt position inside)⟩

/-! ## The condition for a grant -/

/-- Whether a failing system call stands in the way of a growth. A pool that grows has its file
already. -/
def SystemCall.stopsGrowth : Option SystemCall → Bool
  | none | some (.createFile _) => false
  | some (.extendFile _) | some (.mapFile _) | some (.cutFile _ _) => true

namespace Pool

/-- **When a pool gives out `size` bytes.** A pool of the given capacity, which has given out `used`
bytes, has them already, or it can grow: the sum stays within the largest pool and no system call
stands in the way. -/
def Grants (capacity used size : Nat) (fault : Option SystemCall) : Prop :=
  0 < size ∧ used + size ≤ maxPoolSize ∧
    (used + size ≤ capacity ∨ SystemCall.stopsGrowth fault = false)

instance (capacity used size : Nat) (fault : Option SystemCall) :
    Decidable (Grants capacity used size fault) :=
  inferInstanceAs (Decidable (_ ∧ _ ∧ _))

/-- Bytes that are not granted although they are few enough and some are asked for: a system call stands
in the way. -/
theorem stopsGrowth_of_not_grants {capacity used size : Nat} {fault : Option SystemCall}
    (denied : ¬ Grants capacity used size fault) (positive : 0 < size)
    (room : used + size ≤ maxPoolSize) : SystemCall.stopsGrowth fault = true := by
  by_contra free
  exact denied ⟨positive, room, Or.inr (by simpa using free)⟩

/-- The capacity of a pool that has room for `size` more bytes. -/
def capacityFor (capacity used size : Nat) : Nat :=
  if used + size ≤ capacity then capacity else grownCapacity capacity size

/-- The pool at the capacity that it grows to for `size` more bytes. -/
def grown (pool : Pool) (size : Nat) : Pool :=
  { pool with
    capacity := grownCapacity pool.capacity size
    mapped := grownCapacity pool.capacity size
    backing := pool.backing.resize (grownCapacity pool.capacity size) }

/-- The pool after `size` bytes were granted. -/
def granted (pool : Pool) (size : Nat) : Pool :=
  let roomy := if pool.used + size ≤ pool.capacity then pool else pool.grown size
  { roomy with used := pool.used + size }

/-- The host after `size` bytes were granted: it knows of the growth, if the pool had to grow. -/
def announceGrant (pool : Pool) (size : Nat) (host : Host) : Host :=
  if pool.used + size ≤ pool.capacity then host
  else
    (host.send (.resizePool pool.handle (.ofNat (grownCapacity pool.capacity size)))).log
      (.poolGrown pool.capacity (grownCapacity pool.capacity size))

@[simp] theorem handle_granted (pool : Pool) (size : Nat) :
    (pool.granted size).handle = pool.handle := by
  simp only [granted]
  split <;> rfl

@[simp] theorem used_granted (pool : Pool) (size : Nat) :
    (pool.granted size).used = pool.used + size := rfl

@[simp] theorem capacity_granted (pool : Pool) (size : Nat) :
    (pool.granted size).capacity = capacityFor pool.capacity pool.used size := by
  simp only [granted, capacityFor]
  split <;> rfl

/-! ## Sizes -/

/-- **The sizes of a pool agree**: what was given out is within the capacity, the capacity is within
what can be announced and not less than one pixel, and all of it is mapped. -/
structure Sized (pool : Pool) : Prop where
  /-- What was given out is there. -/
  used_le : pool.used ≤ pool.capacity
  /-- A pixel fits. -/
  pixel_le : bytesPerPixel ≤ pool.capacity
  /-- The capacity can be announced. -/
  capacity_le : pool.capacity ≤ maxPoolSize
  /-- All of the pool is mapped. -/
  mapped_eq : pool.mapped = pool.capacity
  /-- The file is there for all of it. -/
  capacity_le_length : pool.capacity ≤ pool.backing.length

/-- A pool that grows does not shrink. -/
theorem le_grownCapacity {capacity : Nat} (small : capacity ≤ maxPoolSize) (size : Nat) :
    capacity ≤ grownCapacity capacity size := by
  unfold grownCapacity
  omega

/-- A pool that grows for some bytes has room for them. -/
theorem add_le_capacityFor {capacity used size : Nat} (inside : used ≤ capacity)
    (room : used + size ≤ maxPoolSize) : used + size ≤ capacityFor capacity used size := by
  unfold capacityFor grownCapacity
  split <;> omega

/-- No pool grows past the largest one. -/
theorem capacityFor_le {capacity : Nat} (small : capacity ≤ maxPoolSize) (used size : Nat) :
    capacityFor capacity used size ≤ maxPoolSize := by
  unfold capacityFor grownCapacity
  split <;> omega

/-- A pool keeps its capacity or gets a larger one. -/
theorem le_capacityFor {capacity : Nat} (small : capacity ≤ maxPoolSize) (used size : Nat) :
    capacity ≤ capacityFor capacity used size := by
  unfold capacityFor
  split
  · exact le_refl capacity
  · exact le_grownCapacity small size

/-- The sizes of a pool still agree after a grant. -/
theorem sized_granted {pool : Pool} (sized : pool.Sized) {size : Nat}
    (room : pool.used + size ≤ maxPoolSize) : (pool.granted size).Sized := by
  refine ⟨?_, ?_, ?_, ?_, ?_⟩
  · rw [used_granted, capacity_granted]
    exact add_le_capacityFor sized.used_le room
  · rw [capacity_granted]
    exact le_trans sized.pixel_le (le_capacityFor sized.capacity_le _ _)
  · rw [capacity_granted]
    exact capacityFor_le sized.capacity_le _ _
  · simp only [granted]
    split
    · exact sized.mapped_eq
    · rfl
  · simp only [granted]
    split
    · exact sized.capacity_le_length
    · exact le_refl _

/-- Sizes do not depend on what is in the file. -/
theorem Sized.withBacking {pool : Pool} (sized : pool.Sized) {backing : Backing}
    (longEnough : pool.capacity ≤ backing.length) : Sized { pool with backing } :=
  ⟨sized.used_le, sized.pixel_le, sized.capacity_le, sized.mapped_eq, longEnough⟩

/-! ## Bytes that were given out stay -/

/-- **A pool extends another**: it is the same pool at the service, it has given out more, and every
byte that the other one had given out is unchanged. -/
structure Extends (before after : Pool) : Prop where
  /-- It is the same pool at the service. -/
  handle : after.handle = before.handle
  /-- Nothing is taken back. -/
  used_le : before.used ≤ after.used
  /-- The mapping does not get shorter. -/
  mapped_le : before.mapped ≤ after.mapped
  /-- What was given out is unchanged. -/
  byteAt : ∀ position < before.used,
    after.backing.byteAt position = before.backing.byteAt position

/-- A pool extends itself. -/
theorem Extends.refl (pool : Pool) : Extends pool pool :=
  ⟨rfl, le_refl _, le_refl _, fun _ _ => rfl⟩

/-- Extending is transitive. -/
theorem Extends.trans {first second third : Pool} (lower : Extends first second)
    (upper : Extends second third) : Extends first third := by
  refine ⟨upper.handle.trans lower.handle, le_trans lower.used_le upper.used_le,
    le_trans lower.mapped_le upper.mapped_le, ?_⟩
  intro position inside
  rw [upper.byteAt position (lt_of_lt_of_le inside lower.used_le), lower.byteAt position inside]

/-- Another file with the same bytes where they count. -/
theorem Extends.of_backing (pool : Pool) {backing : Backing}
    (same : ∀ position < pool.used, backing.byteAt position = pool.backing.byteAt position) :
    Extends pool { pool with backing } :=
  ⟨rfl, le_refl _, le_refl _, same⟩

/-- A grant extends the pool. -/
theorem extends_granted {pool : Pool} (sized : pool.Sized) (size : Nat) :
    Extends pool (pool.granted size) := by
  have longer := le_grownCapacity sized.capacity_le size
  refine ⟨handle_granted _ _, Nat.le_add_right _ _, ?_, ?_⟩
  · simp only [granted]
    split
    · exact le_refl _
    · exact le_trans (Nat.le_of_eq sized.mapped_eq) longer
  · intro position inside
    simp only [granted]
    split
    · rfl
    · -- only a growth touches the file, and it does not cut off what was given out
      exact Backing.byteAt_resize _ (by have := sized.used_le; omega)

/-- What can be read of a pool can be read of every pool that extends it. -/
theorem Extends.bytes?_eq {before after : Pool} (extended : Extends before after)
    {range : Allocation} {bytes : List UInt8} (read : before.bytes? range = some bytes) :
    after.bytes? range = some bytes := by
  unfold bytes? view? at read ⊢
  split at read
  · cases read
  · rename_i inside
    have := extended.used_le
    rw [if_neg (by omega)]
    rw [← read, Option.map_some, Option.map_some]
    simp only [View.toList, Backing.read_eq_map, Option.some.injEq, List.map_inj_left,
      List.mem_range'_1]
    intro position bounds
    refine extended.byteAt position ?_
    have : range.stop = range.offset + range.length := rfl
    omega

/-! ## The two ways out of an allocation -/

/-- A growth with room and no fault reaches the capacity it aims at, and announces it. -/
theorem grow_of_not_stopped {pool : Pool} {size : Nat} {fault : Option SystemCall}
    (room : pool.used + size ≤ maxPoolSize) (free : SystemCall.stopsGrowth fault = false)
    (host : Host) :
    pool.grow size fault host
      = (.ok (), pool.grown size,
          (host.send (.resizePool pool.handle (.ofNat (grownCapacity pool.capacity size)))).log
            (.poolGrown pool.capacity (grownCapacity pool.capacity size))) := by
  rw [grow, if_neg (by omega)]
  -- a pool that is there has its file, so that making one cannot fail any more
  rcases fault with - | error | error | error | ⟨error, uncut⟩
  · rfl
  · rfl
  · cases free
  · cases free
  · cases free

/-- A growth without room, or with a fault, changes nothing that counts. -/
theorem grow_of_stopped {pool : Pool} (sized : pool.Sized) {size : Nat}
    {fault : Option SystemCall}
    (stopped : pool.used + size ≤ maxPoolSize → SystemCall.stopsGrowth fault = true)
    (host : Host) :
    ∃ cause backing after, pool.grow size fault host = (.error cause, { pool with backing }, after) ∧
      Host.Alike host after ∧ pool.backing.StandsIn backing pool.capacity := by
  have longer := pool.backing.standsIn_resize (le_grownCapacity sized.capacity_le size)
  have unchanged := Backing.StandsIn.refl sized.capacity_le_length
  by_cases room : pool.used + size ≤ maxPoolSize
  · rw [grow, if_neg (by omega)]
    rcases fault with - | error | error | error | ⟨error, uncut⟩
    · cases stopped room
    · cases stopped room
    · exact ⟨_, _, _, rfl, Host.Alike.refl host, unchanged⟩
    · -- the file was made longer and cut back
      exact ⟨_, _, _, rfl, Host.Alike.refl host,
        longer.trans (Backing.standsIn_resize _ (le_refl _))⟩
    · -- the file stays longer than the pool, which is logged
      exact ⟨_, _, _, rfl, Host.alike_log host _, longer⟩
  · rw [grow, if_pos (by omega)]
    exact ⟨_, _, _, rfl, Host.Alike.refl host, unchanged⟩

/-- **A granted allocation** is the next `size` bytes. -/
theorem allocate_of_grants {pool : Pool} {size : Nat} {fault : Option SystemCall}
    (grants : Grants pool.capacity pool.used size fault) (host : Host) :
    pool.allocate size fault host
      = (.ok ⟨pool.used, size⟩, pool.granted size, pool.announceGrant size host) := by
  obtain ⟨positive, room, free⟩ := grants
  rw [allocate, if_neg (by omega)]
  by_cases fits : pool.used + size ≤ pool.capacity
  · rw [if_pos fits]
    simp only [take, granted, announceGrant, if_pos fits]
  · rw [if_neg fits, grow_of_not_stopped room (free.resolve_left fits)]
    simp only [take, grown, granted, announceGrant, if_neg fits]

/-- **An allocation that is not granted** fails, and leaves everything that counts as it was. -/
theorem allocate_of_not_grants {pool : Pool} (sized : pool.Sized) {size : Nat}
    {fault : Option SystemCall} (denied : ¬ Grants pool.capacity pool.used size fault)
    (host : Host) :
    ∃ cause backing after,
      pool.allocate size fault host
        = (.error (.allocation size pool.capacity cause), { pool with backing }, after) ∧
      Host.Alike host after ∧ pool.backing.StandsIn backing pool.capacity := by
  have small := sized.capacity_le
  rcases Nat.eq_zero_or_pos size with rfl | positive
  · exact ⟨_, _, _, if_pos rfl, Host.Alike.refl host, .refl sized.capacity_le_length⟩
  · -- what fits is granted, so the pool tried to grow, and could not
    have full : ¬ pool.used + size ≤ pool.capacity :=
      fun fits => denied ⟨positive, by omega, Or.inl fits⟩
    obtain ⟨cause, backing, after, grown, alike, same⟩ :=
      grow_of_stopped sized (stopsGrowth_of_not_grants denied positive) host
    refine ⟨cause, backing, after, ?_, alike, same⟩
    rw [allocate, if_neg (by omega), if_neg full, grown]

/-- **What a failed allocation leaves.** The pool and the host are as they were, unless the file was
made longer and could not be mapped. Then the file was cut back, or it could not even be cut back, which
is logged. -/
theorem allocate_error_cases {pool left : Pool} {size : Nat} {fault : Option SystemCall}
    {host after : Host} {error : CursorError}
    (failed : pool.allocate size fault host = (.error error, left, after)) :
    let longer := pool.backing.resize (grownCapacity pool.capacity size)
    (left = pool ∧ after = host) ∨
      (∃ refusal, fault = some (.mapFile refusal) ∧
        left = { pool with backing := longer.resize pool.capacity } ∧ after = host) ∨
      ∃ refusal uncut, fault = some (.cutFile refusal uncut) ∧
        left = { pool with backing := longer } ∧
        after = host.log (.fileNotCut pool.capacity uncut) := by
  intro longer
  unfold allocate at failed
  split at failed
  · cases failed
    exact Or.inl ⟨rfl, rfl⟩
  · split at failed
    · cases failed
    · split at failed
      · rename_i cause between host grown
        cases failed
        unfold grow at grown
        split at grown
        · cases grown
          exact Or.inl ⟨rfl, rfl⟩
        · rcases fault with - | refusal | refusal | refusal | ⟨refusal, uncut⟩
          · cases grown
          · cases grown
          · cases grown
            exact Or.inl ⟨rfl, rfl⟩
          · cases grown
            exact Or.inr (Or.inl ⟨refusal, rfl, rfl, rfl⟩)
          · cases grown
            exact Or.inr (Or.inr ⟨refusal, uncut, rfl, rfl, rfl⟩)
      · cases failed

/-- Writing all of a range that was given out. -/
theorem store?_whole {pool : Pool} {range : Allocation} (inside : range.stop ≤ pool.used)
    {bytes : List UInt8} (whole : bytes.length = range.length) :
    pool.store? range 0 bytes
      = some (bytes.length,
          { pool with backing := pool.backing.write range.offset bytes }) := by
  rw [store?_of_stop_le inside]
  simp [← whole]

end Pool

/-! ## A new pool -/

/-- **What stops the making of a pool**, and with which error: one of the system calls fails, or none
does and the service refuses the pool. The error is that of the step, whatever it is. -/
inductive Obstacles.Stops : Obstacles → SystemError → Prop
  /-- The file cannot be made. -/
  | file {error : SystemError} {refused : Option SystemError} :
    Stops ⟨some (.createFile error), refused⟩ error
  /-- The file cannot be made long enough. -/
  | length {error : SystemError} {refused : Option SystemError} :
    Stops ⟨some (.extendFile error), refused⟩ error
  /-- The file cannot be mapped. -/
  | mapping {error : SystemError} {refused : Option SystemError} :
    Stops ⟨some (.mapFile error), refused⟩ error
  /-- The file cannot be mapped. It could not be cut back either, but that is not tried. -/
  | uncut {error uncut : SystemError} {refused : Option SystemError} :
    Stops ⟨some (.cutFile error uncut), refused⟩ error
  /-- The service refuses the pool. -/
  | service {error : SystemError} : Stops ⟨none, some error⟩ error

namespace Obstacles

/-- There is one cause at most. -/
theorem Stops.unique {obstacles : Obstacles} {first second : SystemError}
    (one : obstacles.Stops first) (two : obstacles.Stops second) : first = second := by
  cases one <;> cases two <;> rfl

/-- The making of a pool is stopped, or nothing stands in its way. -/
theorem stops_or_clear (obstacles : Obstacles) :
    (∃ cause, obstacles.Stops cause) ∨ obstacles.fault = none ∧ obstacles.refused = none := by
  obtain ⟨fault, refused⟩ := obstacles
  cases fault with
  | some call =>
    refine Or.inl ?_
    cases call with
    | createFile error => exact ⟨error, .file⟩
    | extendFile error => exact ⟨error, .length⟩
    | mapFile error => exact ⟨error, .mapping⟩
    | cutFile error uncut => exact ⟨error, .uncut⟩
  | none =>
    cases refused with
    | some error => exact Or.inl ⟨error, .service⟩
    | none => exact Or.inr ⟨rfl, rfl⟩

end Obstacles

namespace Pool

/-- A pool of which nothing was given out. -/
def fresh (handle : Handle) (capacity : Nat) : Pool :=
  ⟨handle, capacity, 0, capacity, Backing.resize {} capacity⟩

/-- The host after it made a pool for a first holder. -/
def announceFresh (capacity : Nat) (host : Host) : Host :=
  ((host.acquire (.createPool · (.ofNat capacity))).2.log (.poolCreated capacity)).hold
    (host.lastHandle + 1)

/-- The sizes of a new pool agree. -/
theorem sized_fresh (handle : Handle) {capacity : Nat} (pixel : bytesPerPixel ≤ capacity)
    (small : capacity ≤ maxPoolSize) : (fresh handle capacity).Sized :=
  ⟨Nat.zero_le _, pixel, small, rfl, le_refl _⟩

/-- Making room for a pixel does not make a size too large. -/
theorem max_bytesPerPixel_le {size : Nat} (small : size ≤ maxPoolSize) :
    max size bytesPerPixel ≤ maxPoolSize :=
  Nat.max_le.mpr ⟨small, by decide⟩

/-- A pool that nothing stands in the way of is made. -/
theorem create_of_clear {size : Nat} (small : size ≤ maxPoolSize) {obstacles : Obstacles}
    (free : obstacles.fault = none) (accepted : obstacles.refused = none) (host : Host) :
    create size obstacles host
      = (.ok (fresh (host.lastHandle + 1) (max size bytesPerPixel)),
          announceFresh (max size bytesPerPixel) host) := by
  simp only [create, if_neg (Nat.not_lt.mpr (max_bytesPerPixel_le small)), free, accepted]
  rfl

/-- A pool that can be announced is not made if the making is stopped, and nobody hears of it. -/
theorem create_of_stops {size : Nat} (small : size ≤ maxPoolSize) {obstacles : Obstacles}
    {cause : SystemError} (stops : obstacles.Stops cause) (host : Host) :
    create size obstacles host = (.error (.creation (.system cause)), host) := by
  rw [create, if_neg (Nat.not_lt.mpr (max_bytesPerPixel_le small))]
  cases stops <;> rfl

end Pool

end CursorThemes
