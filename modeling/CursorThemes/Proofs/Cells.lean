import CursorThemes.Proofs.Atomicity
import Mathlib.Data.List.Pairwise

/-! # A pool as a memory of cells

Every range that a pool gives out is a cell of its own: it reads what was last written through it, and
zero where nothing was. What is written to other cells does not show, and neither does the way the file
was made longer, mapped again or cut back meanwhile, whether or not that went well.

* **`Pool.lastWritten`** is what a history of uses has written through a range. It looks at nothing
  else.
* **`Pool.Usage.WritesOwn`** says that a pool is written to only through ranges that it gave out.
* **`Pool.byteAt_granted`** and **`Pool.byteAt_of_allocate_error`** say that asking for bytes changes
  no byte, and **`Pool.Usage.Remembers`** is the invariant that follows.
* **`Pool.Usage.cells`** is the result. -/

namespace CursorThemes

/-- Behind what was written every byte is zero. -/
theorem Backing.byteAt_of_within {file : Backing} {stop position : Nat} (within : file.Within stop)
    (behind : stop ≤ position) : file.byteAt position = 0 := by
  have nothing : file.segments.findSome? (·.byteAt? position) = none := by
    refine List.findSome?_eq_none_iff.mpr ?_
    intro segment member
    have inside := within segment member
    unfold Segment.byteAt?
    split
    · exact List.getElem?_eq_none (by omega)
    · rfl
  rw [byteAt, nothing, Option.getD_none]

namespace Pool

/-! ## What was written through a range -/

namespace Use

/-- The range that a use writes through. -/
def target? : Use → Option Allocation
  | allocate _ _ => none
  | store range _ _ => some range

/-- The byte that a use writes through a range to position `k` of it. -/
def byteFor? (range : Allocation) (k : Nat) : Use → Option UInt8
  | allocate _ _ => none
  | store target start bytes => if target = range ∧ start ≤ k then bytes[k - start]? else none

/-- A use that writes through another range, or not at all, has no byte for a range. -/
theorem byteFor?_of_target?_ne {range : Allocation} {use : Use} (other : use.target? ≠ some range)
    (k : Nat) : use.byteFor? range k = none := by
  cases use with
  | allocate size fault => rfl
  | store target start bytes => exact if_neg fun same => other (congrArg some same.1)

end Use

/-- The byte last written through a range to position `k` of it, if there is one. -/
def lastWritten? (uses : List Use) (range : Allocation) (k : Nat) : Option UInt8 :=
  uses.reverse.findSome? (·.byteFor? range k)

/-- **What was last written through a range** to position `k` of it; zero if nothing was. -/
def lastWritten (uses : List Use) (range : Allocation) (k : Nat) : UInt8 :=
  (lastWritten? uses range k).getD 0

/-- **The contents of a range** that is written to through itself only. -/
def contents (uses : List Use) (range : Allocation) : List UInt8 :=
  (List.range range.length).map (lastWritten uses range)

/-- Later uses count first. -/
theorem lastWritten?_append (earlier later : List Use) (range : Allocation) (k : Nat) :
    lastWritten? (earlier ++ later) range k
      = (lastWritten? later range k).or (lastWritten? earlier range k) := by
  rw [lastWritten?, List.reverse_append, List.findSome?_append, lastWritten?, lastWritten?]

/-- The last use counts first. -/
theorem lastWritten_append_singleton (uses : List Use) (use : Use) (range : Allocation) (k : Nat) :
    lastWritten (uses ++ [use]) range k
      = (use.byteFor? range k).getD (lastWritten uses range k) := by
  rw [lastWritten, lastWritten?_append, Option.getD_or, lastWritten, lastWritten?,
    List.reverse_singleton, List.findSome?_singleton]

/-- Uses that do not write through a range have written nothing through it. -/
theorem lastWritten?_eq_none {uses : List Use} {range : Allocation}
    (others : ∀ use ∈ uses, use.target? ≠ some range) (k : Nat) :
    lastWritten? uses range k = none :=
  List.findSome?_eq_none_iff.mpr fun use member =>
    Use.byteFor?_of_target?_ne (others use (List.mem_reverse.mp member)) k

/-- A range through which nothing was written is all zeros. -/
theorem contents_of_unwritten {uses : List Use} {range : Allocation}
    (others : ∀ use ∈ uses, use.target? ≠ some range) :
    contents uses range = List.replicate range.length 0 := by
  have zero : ∀ k, lastWritten uses range k = 0 := by
    intro k
    rw [lastWritten, lastWritten?_eq_none others, Option.getD_none]
  rw [contents, List.map_congr_left fun k _ => zero k, List.map_const', List.length_range]

/-- A range that was written from end to end has these bytes, if nothing was written through it
since. -/
theorem contents_of_whole {earlier later : List Use} {range : Allocation} {bytes : List UInt8}
    (whole : bytes.length = range.length)
    (others : ∀ use ∈ later, use.target? ≠ some range) :
    contents (earlier ++ .store range 0 bytes :: later) range = bytes := by
  apply List.ext_getElem
  · rw [contents, List.length_map, List.length_range, whole]
  · intro k inContents inBytes
    have written : (Use.store range 0 bytes).byteFor? range k = some bytes[k] := by
      rw [Use.byteFor?, if_pos ⟨rfl, Nat.zero_le k⟩, Nat.sub_zero, List.getElem?_eq_getElem inBytes]
    have last : lastWritten (earlier ++ .store range 0 bytes :: later) range k = bytes[k] := by
      rw [List.append_cons, lastWritten, lastWritten?_append, lastWritten?_eq_none others,
        Option.none_or, ← lastWritten, lastWritten_append_singleton, written, Option.getD_some]
    simpa only [contents, List.getElem_map, List.getElem_range] using last

/-! ## Bytes are changed by writing only -/

variable {pool : Pool}

/-- What fits into a range is written to the places of the range that it is meant for. -/
theorem byteAt_write_inside (file : Backing) {range : Allocation} {k : Nat} (inside : k < range.length)
    (start : Nat) (bytes : List UInt8) :
    let first := min start range.length
    (file.write (range.offset + first) (bytes.take (range.length - first))).byteAt (range.offset + k)
      = ((Use.store range start bytes).byteFor? range k).getD (file.byteAt (range.offset + k)) := by
  intro first
  rw [Backing.byteAt_write, Use.byteFor?]
  by_cases reached : start ≤ k
  · have whole : first = start := by omega
    have place : range.offset + k - (range.offset + start) = k - start := by omega
    rw [whole, if_pos (by omega), if_pos ⟨rfl, reached⟩, place, List.getElem?_take_of_lt (by omega)]
  · rw [if_neg (by omega), if_neg fun both => reached both.2, Option.getD_none]

/-- What fits into a range is not written anywhere else. -/
theorem byteAt_write_outside (file : Backing) {range : Allocation} {position : Nat}
    (apart : position < range.offset ∨ range.stop ≤ position) (start : Nat) (bytes : List UInt8) :
    let first := min start range.length
    (file.write (range.offset + first) (bytes.take (range.length - first))).byteAt position
      = file.byteAt position := by
  intro first
  have width : range.stop = range.offset + range.length := rfl
  rw [Backing.byteAt_write]
  split
  · rw [List.getElem?_eq_none, Option.getD_none]
    rw [List.length_take]
    omega
  · rfl

/-- **A grant changes no byte.** What it gives out was zero before, as far as it was there. -/
theorem byteAt_granted (sized : pool.Sized) (within : pool.backing.Within pool.used)
    (size position : Nat) :
    (pool.granted size).backing.byteAt position = pool.backing.byteAt position := by
  rcases Nat.lt_or_ge position pool.used with inside | behind
  · exact (extends_granted sized size).byteAt position inside
  · rw [Backing.byteAt_of_within within behind,
      Backing.byteAt_of_within (within_granted within size) behind]

section Refused

variable {left : Pool} {host after : Host} {size : Nat} {fault : Option SystemCall}
  {error : CursorError}

/-- An allocation that fails writes nothing. -/
theorem within_of_allocate_error {stop : Nat} (within : pool.backing.Within stop)
    (failed : pool.allocate size fault host = (.error error, left, after)) :
    left.backing.Within stop := by
  rcases allocate_error_cases failed with
    ⟨rfl, -⟩ | ⟨refusal, -, rfl, -⟩ | ⟨refusal, uncut, -, rfl, -⟩
  · exact within
  · exact (within.resize _).resize _
  · exact within.resize _

/-- **An allocation that fails changes no byte**, even if the file cannot be cut back. -/
theorem byteAt_of_allocate_error (sized : pool.Sized) (within : pool.backing.Within pool.used)
    (failed : pool.allocate size fault host = (.error error, left, after)) (position : Nat) :
    left.backing.byteAt position = pool.backing.byteAt position := by
  rcases Nat.lt_or_ge position pool.used with inside | behind
  · have kept : position < pool.capacity := lt_of_lt_of_le inside sized.used_le
    have reached : position < grownCapacity pool.capacity size :=
      lt_of_lt_of_le kept (le_grownCapacity sized.capacity_le size)
    rcases allocate_error_cases failed with
    ⟨rfl, -⟩ | ⟨refusal, -, rfl, -⟩ | ⟨refusal, uncut, -, rfl, -⟩
    · rfl
    · exact (Backing.byteAt_resize _ kept).trans (Backing.byteAt_resize _ reached)
    · exact Backing.byteAt_resize _ reached
  · rw [Backing.byteAt_of_within within behind,
      Backing.byteAt_of_within (within_of_allocate_error within failed) behind]

end Refused

/-! ## Pools that are written to through their own ranges -/

namespace Usage

/-- **A pool is written to through its own ranges**: whenever something is written, it is through a
range that the pool has given out by then. -/
def WritesOwn (usage : Usage) : List Use → Prop
  | [] => True
  | use :: later => (∀ range ∈ use.target?, range ∈ usage.granted) ∧ WritesOwn (usage.step use) later

instance decidableWritesOwn : ∀ (usage : Usage) (uses : List Use), Decidable (usage.WritesOwn uses)
  | _, [] => inferInstanceAs (Decidable True)
  | usage, use :: later =>
    have := decidableWritesOwn (usage.step use) later
    inferInstanceAs (Decidable (_ ∧ _))

/-- **A pool remembers what was written through its ranges.** Its sizes agree; nothing was written
behind what it gave out; its ranges tile that; and every range reads what was last written
through it. -/
structure Remembers (usage : Usage) (history : List Use) : Prop where
  /-- The sizes of the pool agree. -/
  sized : usage.pool.Sized
  /-- Nothing was written behind what was given out. -/
  within : usage.pool.backing.Within usage.pool.used
  /-- The ranges tile what is used. -/
  tiles : Allocation.Tiles 0 usage.granted usage.pool.used
  /-- Everything was written through one of the ranges. -/
  own : ∀ use ∈ history, ∀ range ∈ use.target?, range ∈ usage.granted
  /-- Every range has its contents. -/
  byteAt : ∀ range ∈ usage.granted, ∀ k < range.length,
    usage.pool.backing.byteAt (range.offset + k) = lastWritten history range k

/-- A new pool has nothing to remember. -/
theorem remembers_fresh (host : Host) {capacity : Nat} (pixel : bytesPerPixel ≤ capacity)
    (small : capacity ≤ maxPoolSize) :
    Remembers
      { pool := .fresh (host.lastHandle + 1) capacity, host := announceFresh capacity host } [] := by
  have contained := contained_fresh host pixel small
  exact ⟨contained.exact.sized, contained.within, contained.exact.tiles, nofun, nofun⟩

variable {usage : Usage} {history : List Use}

/-- Two ranges of a pool lie apart, unless they are the same. -/
theorem Remembers.apart (remembers : usage.Remembers history) {first second : Allocation}
    (isFirst : first ∈ usage.granted) (isSecond : second ∈ usage.granted) (different : first ≠ second) :
    first.stop ≤ second.offset ∨ second.stop ≤ first.offset := by
  have apart : usage.granted.Pairwise fun a b => a.stop ≤ b.offset ∨ b.stop ≤ a.offset :=
    remembers.tiles.pairwise.imp Or.inl
  have : Std.Symm fun a b : Allocation => a.stop ≤ b.offset ∨ b.stop ≤ a.offset :=
    ⟨fun _ _ => Or.symm⟩
  exact apart.forall isFirst isSecond different

/-- Nothing was written through a range that stops behind what was given out. -/
theorem Remembers.unwritten (remembers : usage.Remembers history) {range : Allocation}
    (outside : usage.pool.used < range.stop) (k : Nat) : lastWritten history range k = 0 := by
  have others : ∀ use ∈ history, use.target? ≠ some range := by
    intro use member through
    have inside := (remembers.tiles.bounds (remembers.own use member range through)).2
    omega
  rw [lastWritten, lastWritten?_eq_none others, Option.getD_none]

/-- Asking for bytes leaves the contents of all ranges, and gives out zeros. -/
theorem Remembers.allocate (remembers : usage.Remembers history) (size : Nat)
    (fault : Option SystemCall) :
    (usage.step (.allocate size fault)).Remembers (history ++ [.allocate size fault]) := by
  have same : ∀ range k, lastWritten (history ++ [.allocate size fault]) range k
      = lastWritten history range k := lastWritten_append_singleton history _
  have through : ∀ {granted : List Allocation}, (∀ range ∈ usage.granted, range ∈ granted) →
      ∀ use ∈ history ++ [.allocate size fault], ∀ range ∈ use.target?, range ∈ granted := by
    intro granted kept use member range target
    rcases List.mem_append.mp member with old | new
    · exact kept range (remembers.own use old range target)
    · rw [List.mem_singleton.mp new] at target
      cases target
  by_cases grants : Grants usage.pool.capacity usage.pool.used size fault
  · simp only [step, allocate_of_grants grants]
    refine ⟨sized_granted remembers.sized grants.2.1,
      (within_granted remembers.within size).mono (Nat.le_add_right _ _),
      remembers.tiles.append_singleton size, through fun _ => List.mem_append_left _, ?_⟩
    intro range member k inside
    rw [byteAt_granted remembers.sized remembers.within, same]
    rcases List.mem_append.mp member with old | new
    · exact remembers.byteAt range old k inside
    · -- nobody had the new range before, so nothing was written there by whatever way
      obtain rfl := List.mem_singleton.mp new
      rw [remembers.unwritten (Nat.lt_add_of_pos_right grants.1)]
      exact Backing.byteAt_of_within remembers.within (Nat.le_add_right _ _)
  · obtain ⟨cause, backing, after, refused, -, stands⟩ :=
      Pool.allocate_of_not_grants remembers.sized grants usage.host
    have unchanged := byteAt_of_allocate_error remembers.sized remembers.within refused
    have within := within_of_allocate_error remembers.within refused
    simp only [step, refused]
    refine ⟨remembers.sized.withBacking stands.length_le, within, remembers.tiles,
      through fun _ => id, ?_⟩
    intro range member k inside
    rw [same]
    exact (unchanged _).trans (remembers.byteAt range member k inside)

/-- Writing through a range changes the contents of that range only. -/
theorem Remembers.store (remembers : usage.Remembers history) {target : Allocation}
    (own : target ∈ usage.granted) (start : Nat) (bytes : List UInt8) :
    (usage.step (.store target start bytes)).Remembers (history ++ [.store target start bytes]) := by
  have inside := (remembers.tiles.bounds own).2
  have within := within_write remembers.within inside start bytes
  simp only [step, store?_of_stop_le inside]
  refine ⟨remembers.sized.withBacking remembers.sized.capacity_le_length, within, remembers.tiles,
    ?_, ?_⟩
  · intro use member range through
    rcases List.mem_append.mp member with old | new
    · exact remembers.own use old range through
    · rw [List.mem_singleton.mp new] at through
      cases through
      exact own
  · intro range member k position
    rw [lastWritten_append_singleton]
    by_cases same : target = range
    · subst same
      rw [byteAt_write_inside _ position, remembers.byteAt target member k position]
    · have silent : (Use.store target start bytes).byteFor? range k = none :=
        if_neg fun through => same through.1
      have width : range.stop = range.offset + range.length := rfl
      have apart := remembers.apart own member same
      rw [byteAt_write_outside _ (by omega), silent, remembers.byteAt range member k position,
        Option.getD_none]

/-- **Every use is remembered**, if it does not write through a foreign range. -/
theorem Remembers.step (remembers : usage.Remembers history) {use : Use}
    (own : ∀ range ∈ use.target?, range ∈ usage.granted) :
    (usage.step use).Remembers (history ++ [use]) := by
  cases use with
  | allocate size fault => exact remembers.allocate size fault
  | store target start bytes => exact remembers.store (own target rfl) start bytes

/-- **A pool remembers what was written**, however often it is used. -/
theorem Remembers.run (remembers : usage.Remembers history) {uses : List Use}
    (own : usage.WritesOwn uses) : (usage.run uses).Remembers (history ++ uses) := by
  induction uses generalizing usage history with
  | nil => rwa [List.append_nil]
  | cons use later ih =>
    rw [List.append_cons]
    exact ih (remembers.step own.1) own.2

/-- What is remembered of a range is what is read from it. -/
theorem Remembers.bytes?_eq (remembers : usage.Remembers history) {range : Allocation}
    (member : range ∈ usage.granted) :
    usage.pool.bytes? range = some (contents history range) := by
  have inside := (remembers.tiles.bounds member).2
  rw [bytes?, view?, if_neg (Nat.not_lt.mpr inside), Option.map_some, View.toList,
    Backing.read_eq_map, List.range'_eq_map_range, List.map_map, contents]
  congr 1
  refine List.map_congr_left fun k position => ?_
  exact remembers.byteAt range member k (List.mem_range.mp position)

/-- **A pool is a memory of independent cells.** Let a new pool be asked for bytes and written to
through its own ranges in any way, and let any system calls fail meanwhile, even those that cut the
file back. Then every range that was given out is within reach, in a file that is long enough, and
reads the byte last written through it at each of its positions, and zero where there is none. So a
range through which nothing was written reads zeros, and one that was written from end to end reads
what was written. -/
theorem cells {size : Nat} {obstacles : Obstacles} {host announced : Host} {pool : Pool}
    (created : create size obstacles host = (.ok pool, announced)) {uses : List Use}
    (own : WritesOwn { pool, host := announced } uses) :
    let after := Usage.run { pool, host := announced } uses
    ∀ range ∈ after.granted,
      after.pool.Reaches range ∧ after.pool.mapped ≤ after.pool.backing.length ∧
      after.pool.bytes? range = some ((List.range range.length).map (lastWritten uses range)) ∧
      ((∀ use ∈ uses, use.target? ≠ some range) →
        after.pool.bytes? range = some (List.replicate range.length 0)) ∧
      ∀ earlier bytes later, uses = earlier ++ .store range 0 bytes :: later →
        bytes.length = range.length → (∀ use ∈ later, use.target? ≠ some range) →
        after.pool.bytes? range = some bytes := by
  intro after range member
  obtain ⟨small, rfl, rfl⟩ := eq_fresh_of_create created
  have remembers : after.Remembers uses :=
    (remembers_fresh host (Nat.le_max_right _ _) small).run own
  have sized := remembers.sized
  have read := remembers.bytes?_eq member
  refine ⟨reaches_of_stop_le sized (remembers.tiles.bounds member).2,
    sized.mapped_eq ▸ sized.capacity_le_length, read, ?_, ?_⟩
  · intro others
    rw [read, contents_of_unwritten others]
  · rintro earlier bytes later rfl whole others
    rw [read, contents_of_whole whole others]

/-- A pool of one pixel is written to, cannot map its longer file nor cut it back, grows all the same,
and is written to again. -/
theorem cells_of_growth :
    let uses : List Use :=
      [.allocate 4 none, .store ⟨0, 4⟩ 0 [1, 2, 3, 4],
        .allocate 90 (some (.cutFile .outOfMemory .fileTooLarge)), .allocate 3 none, .allocate 2 none, .store ⟨4, 3⟩ 1 [5, 6, 7, 8], .store ⟨0, 4⟩ 2 [9]]
    let after := Usage.run
      { pool := .fresh 1 bytesPerPixel, host := announceFresh bytesPerPixel {} } uses
    create 0 {} {} = (.ok (.fresh 1 bytesPerPixel), announceFresh bytesPerPixel {}) ∧
      WritesOwn { pool := .fresh 1 bytesPerPixel, host := announceFresh bytesPerPixel {} } uses ∧
      after.granted = [⟨0, 4⟩, ⟨4, 3⟩, ⟨7, 2⟩] ∧
      after.pool.bytes? ⟨0, 4⟩ = some [1, 2, 9, 4] ∧ after.pool.bytes? ⟨4, 3⟩ = some [0, 5, 6] ∧
      after.pool.bytes? ⟨7, 2⟩ = some [0, 0] := by
  intro uses after
  have created : create 0 {} {} = (.ok (.fresh 1 bytesPerPixel), announceFresh bytesPerPixel {}) :=
    rfl
  have own : WritesOwn { pool := .fresh 1 bytesPerPixel, host := announceFresh bytesPerPixel {} }
      uses := by decide
  have ranges : after.granted = [⟨0, 4⟩, ⟨4, 3⟩, ⟨7, 2⟩] := by decide
  have read := cells created own
  obtain ⟨-, -, first, -⟩ := read ⟨0, 4⟩ (by decide)
  obtain ⟨-, -, second, -⟩ := read ⟨4, 3⟩ (by decide)
  obtain ⟨-, -, -, third, -⟩ := read ⟨7, 2⟩ (by decide)
  exact ⟨created, own, ranges, first, second, third (by decide)⟩

end Usage

end Pool

end CursorThemes
