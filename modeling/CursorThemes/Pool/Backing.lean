/-! # The file behind a pool

A pool lives in an anonymous file that may be as long as two gigabytes, of which little is ever
written. `Backing` keeps the length of the file and what was written, newest first; every other byte
of the file is zero.

* **`Backing.byteAt`** is the view: the byte at a position. `byteAt_write`, `byteAt_resize` and
  `byteAt_empty` say what each operation does to it.
* **`Backing.resize`** makes the file longer or shorter. What is cut off is gone: the positions read
  zero when the file becomes longer again. -/

namespace CursorThemes

/-- Bytes written at one go. -/
structure Segment where
  /-- The position of the first byte. -/
  start : Nat
  /-- The bytes. -/
  bytes : List UInt8
  deriving DecidableEq, Repr

namespace Segment

/-- The byte that a segment holds for a position, if it covers the position. -/
def byteAt? (segment : Segment) (position : Nat) : Option UInt8 :=
  if segment.start ≤ position then segment.bytes[position - segment.start]? else none

/-- The part of a segment before a position. -/
def cut (segment : Segment) (length : Nat) : Segment :=
  ⟨segment.start, segment.bytes.take (length - segment.start)⟩

/-- Whether a segment covers one of `count` positions from `start` on. -/
def meets (segment : Segment) (start count : Nat) : Bool :=
  decide (segment.start < start + count) && decide (start < segment.start + segment.bytes.length)

/-- A segment ready for many look-ups. -/
def packed (segment : Segment) : Nat × Array UInt8 := (segment.start, segment.bytes.toArray)

/-- Cutting keeps what lies before the cut and nothing else. -/
theorem byteAt?_cut (segment : Segment) (length position : Nat) :
    (segment.cut length).byteAt? position
      = if position < length then segment.byteAt? position else none := by
  unfold cut byteAt?
  by_cases covered : segment.start ≤ position
  · simp only [covered, if_true, List.getElem?_take]
    by_cases kept : position < length
    · rw [if_pos kept, if_pos (by omega)]
    · rw [if_neg kept, if_neg (by omega)]
  · simp [covered]

/-- A segment holds nothing for the positions of a range that it does not meet. -/
theorem byteAt?_of_not_meets {segment : Segment} {start count position : Nat}
    (apart : segment.meets start count = false) (first : start ≤ position)
    (last : position < start + count) : segment.byteAt? position = none := by
  unfold byteAt?
  split
  · simp only [meets, Bool.and_eq_false_iff, decide_eq_false_iff_not] at apart
    exact List.getElem?_eq_none (by omega)
  · rfl

/-- Segments that do not meet a range may be left out for its positions. -/
theorem findSome?_filter_meets (segments : List Segment) {start count position : Nat}
    (first : start ≤ position) (last : position < start + count) :
    (segments.filter (·.meets start count)).findSome? (·.byteAt? position)
      = segments.findSome? (·.byteAt? position) := by
  induction segments with
  | nil => rfl
  | cons segment later ih =>
    rw [List.filter_cons]
    cases meets : segment.meets start count with
    | true => simp only [if_true, List.findSome?_cons, ih]
    | false =>
      rw [if_neg Bool.false_ne_true, ih, List.findSome?_cons,
        byteAt?_of_not_meets meets first last]

end Segment

/-- **A file of which little is written.** -/
structure Backing where
  /-- The length of the file. -/
  length : Nat := 0
  /-- What was written and not cut off, newest first. -/
  segments : List Segment := []
  deriving DecidableEq, Repr

namespace Backing

/-- The byte at a position; zero where nothing was written. -/
def byteAt (file : Backing) (position : Nat) : UInt8 :=
  (file.segments.findSome? (·.byteAt? position)).getD 0

/-- The bytes from a position on, as many as asked for. -/
def read (file : Backing) (start count : Nat) : List UInt8 :=
  -- only what was written near the range is made ready for look-ups
  let near := (file.segments.filter (·.meets start count)).map Segment.packed
  (List.range' start count).map fun position =>
    (near.findSome? fun (first, bytes) =>
      if first ≤ position then bytes[position - first]? else none).getD 0

/-- Puts bytes into the file from a position on. -/
def write (file : Backing) (start : Nat) (bytes : List UInt8) : Backing :=
  { file with segments := ⟨start, bytes⟩ :: file.segments }

/-- Makes the file as long as asked for. -/
def resize (file : Backing) (length : Nat) : Backing :=
  { length, segments := if length < file.length then file.segments.map (·.cut length)
                        else file.segments }

/-- A new file holds nothing. -/
@[simp] theorem byteAt_empty (length position : Nat) : (⟨length, []⟩ : Backing).byteAt position = 0 :=
  rfl

@[simp] theorem length_resize (file : Backing) (length : Nat) :
    (file.resize length).length = length := rfl

@[simp] theorem length_write (file : Backing) (start : Nat) (bytes : List UInt8) :
    (file.write start bytes).length = file.length := rfl

/-- Reading looks at one position after the other. -/
theorem read_eq_map (file : Backing) (start count : Nat) :
    file.read start count = (List.range' start count).map file.byteAt := by
  simp only [read, List.map_inj_left, List.mem_range'_1, List.findSome?_map]
  rintro position ⟨first, last⟩
  rw [byteAt, ← Segment.findSome?_filter_meets file.segments first last]
  congr 2
  funext segment
  simp only [Segment.packed, Segment.byteAt?, List.getElem?_toArray, Function.comp_apply]

/-- As many bytes are read as were asked for. -/
@[simp] theorem length_read (file : Backing) (start count : Nat) :
    (file.read start count).length = count := by simp [read_eq_map]

/-- The byte at a position after writing: the one written there, or else the one before. -/
theorem byteAt_write (file : Backing) (start position : Nat) (bytes : List UInt8) :
    (file.write start bytes).byteAt position
      = if start ≤ position then (bytes[position - start]?).getD (file.byteAt position)
        else file.byteAt position := by
  unfold write byteAt Segment.byteAt?
  by_cases covered : start ≤ position
  · simp only [List.findSome?_cons, covered, if_true]
    cases bytes[position - start]? <;> rfl
  · simp [covered]

/-- Bytes before the end of the longer and of the shorter file are not touched by a change of
length. -/
theorem byteAt_resize (file : Backing) {length position : Nat} (kept : position < length) :
    (file.resize length).byteAt position = file.byteAt position := by
  unfold resize byteAt
  by_cases shorter : length < file.length
  · simp only [shorter, if_true, List.findSome?_map]
    congr 2
    funext segment
    simp [Segment.byteAt?_cut, kept]
  · simp [shorter]

/-- Reading what was just written gives it back. -/
theorem read_write (file : Backing) (start : Nat) (bytes : List UInt8) :
    (file.write start bytes).read start bytes.length = bytes := by
  apply List.ext_getElem
  · simp
  · intro i inRead inBytes
    simp [read_eq_map, byteAt_write, inBytes]

end Backing

end CursorThemes
