import CursorThemes.Host
import CursorThemes.Pool.Backing

/-! # Pools of shared memory

A pool is a stretch of memory shared with the display server, given out from the front and never
taken back piece by piece.

* **`Pool.create`** makes the file, maps it and announces it to the service.
* **`Pool.allocate`** gives out the next bytes. When they do not fit, the pool first grows to twice
  its capacity plus what was asked for, as far as `maxPoolSize` allows. A refused growth leaves the
  pool and the service as they were.
* **`Pool.view?`** looks at what was given out, and **`Pool.store?`** writes to it.

Every system call may fail, and so may the request to the service. Which one does, and with which
error, is a parameter, so that all that can happen to a pool is a value of this file. -/

namespace CursorThemes

/-- A system call behind a pool that fails, and the error it fails with. -/
inductive SystemCall where
  /-- Making the anonymous file. -/
  | createFile (error : SystemError)
  /-- Making the file longer. -/
  | extendFile (error : SystemError)
  /-- Mapping the file into memory. -/
  | mapFile (error : SystemError)
  /-- Mapping the file into memory, and then cutting it back, which fails with an error of
  its own. -/
  | cutFile (error uncut : SystemError)
  deriving DecidableEq, Repr

/-- The error that the operation on the pool ends with. A file that could not be cut back is only
worth a notice. -/
def SystemCall.refusal : SystemCall → SystemError
  | createFile error | extendFile error | mapFile error | cutFile error _ => error

/-- What stands in the way of a new pool. -/
structure Obstacles where
  /-- The system call that fails, if one does. -/
  fault : Option SystemCall := none
  /-- The error with which the service refuses the pool, if it does. -/
  refused : Option SystemError := none
  deriving DecidableEq, Repr

/-- A range of bytes given out by a pool. -/
structure Allocation where
  /-- The position of the first byte. -/
  offset : Nat
  /-- The number of bytes. -/
  length : Nat
  deriving DecidableEq, Repr

namespace Allocation

/-- The position after the last byte. -/
def stop (range : Allocation) : Nat := range.offset + range.length

/-- Whether the range has no bytes. -/
def isEmpty (range : Allocation) : Bool := range.length == 0

/-- Whether each of two ranges starts before the other one stops. -/
def overlaps (a b : Allocation) : Bool :=
  decide (a.offset < b.stop) && decide (b.offset < a.stop)

end Allocation

/-- **A pool of shared memory.** -/
structure Pool where
  /-- The name of the pool at the service. -/
  handle : Handle
  /-- The number of bytes the pool can hold. -/
  capacity : Nat
  /-- The number of bytes given out. -/
  used : Nat
  /-- The number of bytes mapped into memory. -/
  mapped : Nat
  /-- The file behind the pool. -/
  backing : Backing
  deriving DecidableEq, Repr

namespace Pool

/-- The number of bytes that can be given out without growing. -/
def remaining (pool : Pool) : Nat := pool.capacity - pool.used

/-- **A new pool** of at least one pixel. The size is checked first; then the file is made, made
long enough and mapped; the service is asked last. -/
def create (size : Nat) (obstacles : Obstacles) (host : Host) : Except CursorError Pool × Host :=
  let capacity := max size bytesPerPixel
  if capacity > maxPoolSize then (.error (.creation (.oversized capacity)), host)
  else
    match obstacles.fault with
    | some call => (.error (.creation (.system call.refusal)), host)
    | none =>
      match obstacles.refused with
      -- a refused pool leaves no trace, for its handle is given out only with the request
      | some error => (.error (.creation (.system error)), host)
      | none =>
        let (handle, host) := host.acquire (.createPool · (.ofNat capacity))
        (.ok ⟨handle, capacity, 0, capacity, Backing.resize {} capacity⟩,
          (host.log (.poolCreated capacity)).hold handle)

/-- The capacity that a full pool grows to for `size` more bytes. -/
def grownCapacity (capacity size : Nat) : Nat := min (2 * capacity + size) maxPoolSize

/-- The pool with room for `size` more bytes, or why there cannot be any, and the pool that is left
then. When the longer file cannot be mapped it is cut back to what it was, if that can be done. -/
def grow (pool : Pool) (size : Nat) (fault : Option SystemCall) (host : Host) :
    Except PoolFailure Unit × Pool × Host :=
  if pool.used + size > maxPoolSize then (.error .exhausted, pool, host)
  else
    let target := grownCapacity pool.capacity size
    let longer := pool.backing.resize target
    match fault with
    | some (.extendFile error) => (.error (.system error), pool, host)
    | some (.mapFile error) =>
      -- the file is cut back to what stays mapped
      (.error (.system error), { pool with backing := longer.resize pool.capacity }, host)
    | some (.cutFile error uncut) =>
      (.error (.system error), { pool with backing := longer },
        host.log (.fileNotCut pool.capacity uncut))
    | _ =>
      (.ok (), { pool with capacity := target, mapped := target, backing := longer },
        (host.send (.resizePool pool.handle (.ofNat target))).log
          (.poolGrown pool.capacity target))

/-- The next `size` bytes of a pool that has them. -/
def take (pool : Pool) (size : Nat) : Allocation × Pool :=
  (⟨pool.used, size⟩, { pool with used := pool.used + size })

/-- **The next `size` bytes**, from a grown pool if they do not fit. An empty range is refused. -/
def allocate (pool : Pool) (size : Nat) (fault : Option SystemCall) (host : Host) :
    Except CursorError Allocation × Pool × Host :=
  if size = 0 then (.error (.allocation 0 pool.capacity .nothingRequested), pool, host)
  else if pool.used + size ≤ pool.capacity then
    let (range, pool) := pool.take size
    (.ok range, pool, host)
  else
    match pool.grow size fault host with
    | (.error cause, left, host) => (.error (.allocation size pool.capacity cause), left, host)
    | (.ok (), grown, host) =>
      let (range, grown) := grown.take size
      (.ok range, grown, host)

/-- The end of a pool: it is logged, and the pool lets go of its handle. -/
def destroy (pool : Pool) (host : Host) : Host :=
  (host.log (.poolDestroyed pool.used pool.capacity)).release pool.handle

/-! ## Looking at a pool and writing to it -/

/-- A range of a file, of which only what is asked for is read. -/
structure View where
  /-- The file. -/
  backing : Backing
  /-- The position of the first byte. -/
  offset : Nat
  /-- The number of bytes. -/
  length : Nat

namespace View

/-- All bytes of a view. -/
def toList (view : View) : List UInt8 := view.backing.read view.offset view.length

/-- At most `count` bytes of a view from position `start` on; both ends are held inside. -/
def window (view : View) (start count : Nat) : List UInt8 :=
  view.backing.read (view.offset + min start view.length)
    (min (start + count) view.length - min start view.length)

/-- A view has as many bytes as it says. -/
@[simp] theorem length_toList (view : View) : view.toList.length = view.length :=
  Backing.length_read _ _ _

/-- A window is a part of the view. -/
theorem window_eq (view : View) (start count : Nat) :
    view.window start count = (view.toList.drop start).take count := by
  apply List.ext_getElem
  · simp [window]
    omega
  · intro i inWindow inList
    have : min start view.length = start := by
      simp at inList
      omega
    simp [window, toList, Backing.read_eq_map, this, Nat.add_assoc]

end View

/-- The bytes of a range, if all of them were given out by now. A range of another pool is looked at
as a range of this one. -/
def view? (pool : Pool) (range : Allocation) : Option View :=
  if range.stop > pool.used then none else some ⟨pool.backing, range.offset, range.length⟩

/-- The bytes of a range, if all of them were given out by now. -/
def bytes? (pool : Pool) (range : Allocation) : Option (List UInt8) :=
  (pool.view? range).map View.toList

/-- Writes bytes into a range from its position `start` on, as many as the range has room for, and
says how many these are. -/
def store? (pool : Pool) (range : Allocation) (start : Nat) (bytes : List UInt8) :
    Option (Nat × Pool) :=
  if range.stop > pool.used then none
  else
    let first := min start range.length
    let room := range.length - first
    let count := bytes.length
    -- bytes that all fit are kept as they are, without a copy
    let kept := if count ≤ room then bytes else bytes.take room
    some (min count room, { pool with backing := pool.backing.write (range.offset + first) kept })

/-- What fits into a range is the front of the bytes. -/
theorem store?_of_stop_le {pool : Pool} {range : Allocation} (inside : range.stop ≤ pool.used)
    (start : Nat) (bytes : List UInt8) :
    let first := min start range.length
    let kept := bytes.take (range.length - first)
    pool.store? range start bytes
      = some (kept.length,
          { pool with backing := pool.backing.write (range.offset + first) kept }) := by
  have front : ∀ room, (if bytes.length ≤ room then bytes else bytes.take room) = bytes.take room := by
    intro room
    split
    · rename_i fits
      exact (List.take_of_length_le fits).symm
    · rfl
  simp only [store?, if_neg (Nat.not_lt.mpr inside), front, List.length_take, Nat.min_comm]

/-- A range can be looked at exactly if it stops before what is not given out yet. -/
theorem isSome_view?_iff {pool : Pool} {range : Allocation} :
    (pool.view? range).isSome ↔ range.stop ≤ pool.used := by
  unfold view?
  split <;> simp <;> omega

/-- What can be looked at has the length of the range. -/
theorem length_of_bytes? {pool : Pool} {range : Allocation} {bytes : List UInt8}
    (h : pool.bytes? range = some bytes) : bytes.length = range.length := by
  unfold bytes? view? at h
  split at h
  · cases h
  · cases h
    simp

end Pool

end CursorThemes
