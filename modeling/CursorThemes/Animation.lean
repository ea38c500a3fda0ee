import CursorThemes.Saturating

/-! # Frames of an animation

An animated cursor shows its images in turn, each for its own delay, over and over. This file says
which image is up at a given time:

* **`Animation.windowOf`** walks the delays and finds the window `[start, start + delay)` that holds
  a time within one period.
* **`Animation.select`** reduces an elapsed time to one period and asks `windowOf`; a cursor with
  one image, or whose period is empty, never changes.
* **`Animation.startOf`** is the unbounded start of each window, the definition that the selection
  is measured against.

Delays and elapsed times are 32-bit milliseconds. Starts are accumulated in 64 bits and only the
remaining time is narrowed again. -/

namespace CursorThemes

/-- Which image of a cursor is up, and how long it stays. -/
structure Shown where
  /-- The position of the image among those of its cursor. -/
  index : Nat
  /-- Milliseconds until the next image is due; `0` says that the image never changes. -/
  duration : UInt32
  deriving DecidableEq, Repr

namespace Animation

/-- The window that holds time `time`, among windows of the given lengths laid end to end from
`start`, the first of which has position `index`. A time past them all lands on the last one, which
then stays for good. -/
def windowOf (time start : UInt64) (index : Nat) : List UInt32 → Shown
  | [] => ⟨index - 1, 0⟩
  | delay :: later =>
    let stop := start + delay.toUInt64
    if time < stop then ⟨index, (stop - time).toUInt32⟩ else windowOf time stop (index + 1) later

/-- **The image shown `elapsed` milliseconds after an animation started.** Image `i` is up for
`delays[i]` milliseconds of every period of `total`; images without a delay are passed over. -/
def select (delays : List UInt32) (total elapsed : UInt32) : Shown :=
  if delays.length ≤ 1 ∨ total = 0 then ⟨0, 0⟩
  else windowOf (elapsed % total).toUInt64 0 0 delays

/-- The time within a period at which window `i` opens: the sum of all earlier delays, without any
bound. -/
def startOf : List UInt32 → Nat → Nat
  | _, 0 => 0
  | [], _ + 1 => 0
  | delay :: later, i + 1 => delay.toNat + startOf later i

/-- A past-the-end time lands on the image before position `index`. -/
@[simp] theorem windowOf_nil (time start : UInt64) (index : Nat) :
    windowOf time start index [] = ⟨index - 1, 0⟩ := rfl

/-- The first window opens with the period. -/
@[simp] theorem startOf_zero (delays : List UInt32) : startOf delays 0 = 0 := by
  cases delays <;> rfl

/-- A later window of a longer animation opens one delay later than in the rest of it. -/
@[simp] theorem startOf_cons_succ (delay : UInt32) (delays : List UInt32) (i : Nat) :
    startOf (delay :: delays) (i + 1) = delay.toNat + startOf delays i := rfl

/-- An empty period never changes. -/
@[simp] theorem select_zero (delays : List UInt32) (elapsed : UInt32) :
    select delays 0 elapsed = ⟨0, 0⟩ := if_pos (Or.inr rfl)

/-- The length of one loop over the delays, taken together from the left and held at the largest
word once it does not fit any more. -/
def loopLength (delays : List UInt32) : UInt32 :=
  delays.foldl satAdd 0

/-- All delays together, without any bound. -/
def total : List UInt32 → Nat
  | [] => 0
  | delay :: later => delay.toNat + total later

/-- A window behind all others would open when all delays have passed. -/
@[simp] theorem startOf_length (delays : List UInt32) :
    startOf delays delays.length = total delays := by
  induction delays with
  | nil => rfl
  | cons delay later ih => rw [List.length_cons, startOf_cons_succ, ih, total]

/-- A saturating sum of delays is their sum, cut at the largest word, wherever it starts. -/
theorem toNat_foldl_satAdd (delays : List UInt32) (start : UInt32) :
    (delays.foldl satAdd start).toNat = min (start.toNat + total delays) (UInt32.size - 1) := by
  induction delays generalizing start with
  | nil =>
    have := start.toNat_lt_size
    rw [List.foldl_nil, total]
    omega
  | cons delay later ih =>
    rw [List.foldl_cons, ih, toNat_satAdd, total]
    omega

/-- **A loop is as long as its delays together**, cut at the largest word. -/
theorem toNat_loopLength (delays : List UInt32) :
    (loopLength delays).toNat = min (total delays) (UInt32.size - 1) := by
  rw [loopLength, toNat_foldl_satAdd]
  congr 1
  exact Nat.zero_add _

end Animation

end CursorThemes
