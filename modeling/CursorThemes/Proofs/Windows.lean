import CursorThemes.Proofs.Allocation
import Mathlib.Order.Monotone.Basic

/-! # Windows of an animation

The delays of an animation lay windows end to end. At a time within one period the image is up whose
window holds the time, and it stays for the rest of the window.

* **`Animation.Covers`** says that a window holds a time, in unbounded numbers.
  **`Animation.Covers.eq`** and **`Animation.exists_covers`** say that there is one such window for
  each time before the end.
* **`Animation.windowOf_of_covers`** and **`Animation.windowOf_of_total_le`** say what the walk over
  the delays comes to, and **`Animation.toNat_of_getElem?_sums`** that its sums do not leave the range.
* **`Cursor.Timed`** is a cursor whose loop is measured by its images, as every stored cursor is.
* **`Animation.select_window`** is the result. -/

namespace CursorThemes

namespace Animation

/-! ## Where windows open -/

/-- A window ends one delay after it opens. -/
theorem startOf_succ {delays : List UInt32} {i : Nat} {delay : UInt32}
    (there : delays[i]? = some delay) : startOf delays (i + 1) = startOf delays i + delay.toNat := by
  induction delays generalizing i with
  | nil => cases there
  | cons first later ih =>
    cases i with
    | zero =>
      cases there
      simp
    | succ i => rw [startOf_cons_succ, ih there, startOf_cons_succ, Nat.add_assoc]

/-- Behind the last window nothing is added. -/
theorem startOf_of_length_le {delays : List UInt32} {i : Nat} (behind : delays.length ≤ i) :
    startOf delays i = total delays := by
  induction delays generalizing i with
  | nil => cases i <;> rfl
  | cons first later ih =>
    cases i with
    | zero => cases behind
    | succ i => rw [startOf_cons_succ, ih (Nat.le_of_succ_le_succ behind), total]

/-- A window does not end before it opens. -/
theorem startOf_le_succ (delays : List UInt32) (i : Nat) :
    startOf delays i ≤ startOf delays (i + 1) := by
  cases there : delays[i]? with
  | none =>
    have behind := List.getElem?_eq_none_iff.mp there
    rw [startOf_of_length_le behind, startOf_of_length_le (Nat.le_succ_of_le behind)]
  | some delay =>
    rw [startOf_succ there]
    exact Nat.le_add_right _ _

/-- Later windows open later. -/
theorem startOf_mono (delays : List UInt32) : Monotone (startOf delays) :=
  monotone_nat_of_le_succ (startOf_le_succ delays)

/-- No window opens after the end. -/
theorem startOf_le_total (delays : List UInt32) (i : Nat) : startOf delays i ≤ total delays := by
  rcases Nat.le_total i delays.length with within | behind
  · exact (startOf_mono delays within).trans (Nat.le_of_eq (startOf_length delays))
  · exact Nat.le_of_eq (startOf_of_length_le behind)

/-! ## Windows that hold a time -/

/-- **Window `i` holds a time**: it has opened by then and goes on. -/
structure Covers (delays : List UInt32) (time i : Nat) : Prop where
  /-- The window has opened. -/
  opened : startOf delays i ≤ time
  /-- The window has not ended. -/
  goesOn : time < startOf delays (i + 1)

variable {delays : List UInt32} {i : Nat}

section Covers

variable {time j : Nat}

/-- The first window holds a time exactly if its delay has not passed. -/
theorem covers_cons_zero_iff {delay : UInt32} :
    Covers (delay :: delays) time 0 ↔ time < delay.toNat := by
  constructor
  · intro covers
    simpa using covers.goesOn
  · intro early
    exact ⟨Nat.zero_le _, by simpa using early⟩

/-- A later window holds a time exactly if it holds what is left of it after the first delay. -/
theorem covers_cons_succ_iff {delay : UInt32} :
    Covers (delay :: delays) time (i + 1) ↔
      delay.toNat ≤ time ∧ Covers delays (time - delay.toNat) i := by
  constructor
  · rintro ⟨opened, goesOn⟩
    rw [startOf_cons_succ] at opened goesOn
    exact ⟨by omega, by omega, by omega⟩
  · rintro ⟨passed, opened, goesOn⟩
    refine ⟨?_, ?_⟩
    · rw [startOf_cons_succ]
      omega
    · rw [startOf_cons_succ]
      omega

/-- **No two windows hold one time.** -/
theorem Covers.eq (first : Covers delays time i) (second : Covers delays time j) : i = j := by
  have ordered : ∀ {a b}, Covers delays time a → Covers delays time b → a ≤ b := by
    intro a b covers other
    by_contra later
    have ended : startOf delays (b + 1) ≤ startOf delays a :=
      startOf_mono delays (Nat.lt_of_not_le later)
    have opened := covers.opened
    have goesOn := other.goesOn
    omega
  exact Nat.le_antisymm (ordered first second) (ordered second first)

/-- A window that holds a time is one of the animation, and has a delay. -/
theorem Covers.exists_delay (covers : Covers delays time i) :
    ∃ delay, delays[i]? = some delay ∧ startOf delays (i + 1) = startOf delays i + delay.toNat ∧
      0 < delay.toNat := by
  have opened := covers.opened
  have goesOn := covers.goesOn
  cases there : delays[i]? with
  | none =>
    have behind := List.getElem?_eq_none_iff.mp there
    rw [startOf_of_length_le (Nat.le_succ_of_le behind)] at goesOn
    rw [startOf_of_length_le behind] at opened
    omega
  | some delay =>
    have width := startOf_succ there
    exact ⟨delay, rfl, width, by omega⟩

/-- A window that holds a time ends within the animation. -/
theorem Covers.lt_total (covers : Covers delays time i) : time < total delays :=
  lt_of_lt_of_le covers.goesOn (startOf_le_total delays (i + 1))

/-- **Every time before the end is in a window.** -/
theorem exists_covers (early : time < total delays) : ∃ i, Covers delays time i := by
  induction delays generalizing time with
  | nil => cases early
  | cons delay later ih =>
    rw [total] at early
    by_cases first : time < delay.toNat
    · exact ⟨0, covers_cons_zero_iff.mpr first⟩
    · have left : time - delay.toNat < total later := by omega
      obtain ⟨i, covers⟩ := ih left
      exact ⟨i + 1, covers_cons_succ_iff.mpr ⟨Nat.le_of_not_lt first, covers⟩⟩

end Covers

/-! ## The walk over the delays -/

/-- A sum that is still a time gets no larger than a double word when a delay is added. -/
theorem toNat_add_delay {sum : UInt64} (small : sum.toNat < UInt32.size) (delay : UInt32) :
    (sum + delay.toUInt64).toNat = sum.toNat + delay.toNat := by
  have short := delay.toNat_lt_size
  rw [UInt64.toNat_add, UInt32.toNat_toUInt64, Nat.mod_eq_of_lt]
  have : UInt32.size = 2 ^ 32 := rfl
  omega

/-- **The sums of the walk**, in order: what was added up so far, and the delay that is added. -/
def sums (time start : UInt64) : List UInt32 → List (UInt64 × UInt32)
  | [] => []
  | delay :: later =>
    let stop := start + delay.toUInt64
    (start, delay) :: if time < stop then [] else sums time stop later

/-- The walk stops at the image for which it took the last sum. -/
theorem index_windowOf (time start : UInt64) (index : Nat) (delays : List UInt32) :
    (windowOf time start index delays).index = index + (sums time start delays).length - 1 := by
  induction delays generalizing start index with
  | nil => rfl
  | cons delay later ih =>
    rw [windowOf, sums]
    split
    · rfl
    · rw [ih, List.length_cons]
      omega

/-- The walk takes a sum, if there is a delay. -/
theorem length_sums_pos (time start : UInt64) {delays : List UInt32} (some : delays ≠ []) :
    0 < (sums time start delays).length := by
  cases delays with
  | nil => exact absurd rfl some
  | cons delay later => exact Nat.succ_pos _

section Walk

variable {time start : UInt64}

/-- **No sum of the walk leaves the range.** What was added up before window `i` is the sum of the
delays in unbounded numbers, and so is what comes of it when the next delay is added. -/
theorem toNat_of_getElem?_sums (small : time.toNat < UInt32.size)
    (started : start.toNat ≤ time.toNat) {sum : UInt64} {delay : UInt32} {i : Nat}
    (taken : (sums time start delays)[i]? = some (sum, delay)) :
    delays[i]? = some delay ∧ sum.toNat = start.toNat + startOf delays i ∧
      (sum + delay.toUInt64).toNat = sum.toNat + delay.toNat := by
  induction delays generalizing start i with
  | nil => cases taken
  | cons first later ih =>
    have stop := toNat_add_delay (lt_of_le_of_lt started small) first
    rw [sums] at taken
    cases i with
    | zero =>
      cases taken
      exact ⟨rfl, rfl, stop⟩
    | succ i =>
      rw [List.getElem?_cons_succ] at taken
      split at taken
      · cases taken
      · rename_i passed
        rw [UInt64.lt_iff_toNat_lt] at passed
        obtain ⟨there, before, after⟩ := ih (Nat.le_of_not_lt passed) taken
        refine ⟨there, ?_, after⟩
        rw [before, stop, startOf_cons_succ, Nat.add_assoc]

/-- **The walk finds the window that holds the time**, and what is left of it. -/
theorem windowOf_of_covers (small : time.toNat < UInt32.size) (started : start.toNat ≤ time.toNat)
    (covers : Covers delays (time.toNat - start.toNat) i) (index : Nat) :
    (windowOf time start index delays).index = index + i ∧
      (windowOf time start index delays).duration.toNat
        = start.toNat + startOf delays (i + 1) - time.toNat := by
  induction delays generalizing start i index with
  | nil =>
    have early := covers.lt_total
    cases early
  | cons delay later ih =>
    have stop := toNat_add_delay (lt_of_le_of_lt started small) delay
    rw [windowOf]
    cases i with
    | zero =>
      have early := covers_cons_zero_iff.mp covers
      have ahead : time < start + delay.toUInt64 := by
        rw [UInt64.lt_iff_toNat_lt, stop]
        omega
      rw [if_pos ahead]
      refine ⟨rfl, ?_⟩
      -- what is left of a window is at most its delay, so that nothing is cut off
      have short := delay.toNat_lt_size
      have : UInt32.size = 2 ^ 32 := rfl
      rw [UInt64.toNat_toUInt32, UInt64.toNat_sub_of_le _ _ (UInt64.le_of_lt ahead), stop,
        Nat.mod_eq_of_lt (by omega), startOf_cons_succ, startOf_zero, Nat.add_zero]
    | succ i =>
      obtain ⟨passed, rest⟩ := covers_cons_succ_iff.mp covers
      have behind : ¬ time < start + delay.toUInt64 := by
        rw [UInt64.lt_iff_toNat_lt, stop]
        omega
      rw [if_neg behind]
      rw [Nat.sub_sub, ← stop] at rest
      obtain ⟨atIndex, left⟩ := ih (by omega) rest (index + 1)
      rw [atIndex, left, stop, startOf_cons_succ]
      omega

/-- **A time past all windows** lands on the last image. -/
theorem windowOf_of_total_le (small : time.toNat < UInt32.size)
    (late : start.toNat + total delays ≤ time.toNat) (index : Nat) :
    windowOf time start index delays = ⟨index + delays.length - 1, 0⟩ := by
  induction delays generalizing start index with
  | nil => rfl
  | cons delay later ih =>
    rw [total] at late
    have early : start.toNat < UInt32.size := by omega
    have stop := toNat_add_delay early delay
    have behind : ¬ time < start + delay.toUInt64 := by
      rw [UInt64.lt_iff_toNat_lt, stop]
      omega
    rw [windowOf, if_neg behind, ih (by omega), List.length_cons]
    congr 1
    omega

end Walk

/-! ## The selection -/

section Selection

variable {period elapsed : UInt32}

/-- An animation with several images and a period walks over its delays. -/
theorem select_eq_windowOf (several : 1 < delays.length) (positive : period ≠ 0) :
    select delays period elapsed = windowOf (elapsed % period).toUInt64 0 0 delays :=
  if_neg (by simp [positive, several])

/-- The time within a period, in unbounded numbers. -/
theorem toNat_mod_toUInt64 (elapsed period : UInt32) :
    (elapsed % period).toUInt64.toNat = elapsed.toNat % period.toNat := by
  rw [UInt32.toNat_toUInt64, UInt32.toNat_mod]

/-- The time within a period is a word. -/
theorem toNat_mod_toUInt64_lt (elapsed period : UInt32) :
    (elapsed % period).toUInt64.toNat < UInt32.size := by
  rw [UInt32.toNat_toUInt64]
  exact UInt32.toNat_lt_size _

/-- **The image whose window holds the time is selected**, for what is left of the window. -/
theorem select_of_covers (several : 1 < delays.length) (positive : period ≠ 0)
    (covers : Covers delays (elapsed.toNat % period.toNat) i) :
    (select delays period elapsed).index = i ∧
      (select delays period elapsed).duration.toNat
        = startOf delays (i + 1) - elapsed.toNat % period.toNat := by
  rw [← toNat_mod_toUInt64] at covers ⊢
  rw [select_eq_windowOf several positive]
  have started : (0 : UInt64).toNat ≤ (elapsed % period).toUInt64.toNat := Nat.zero_le _
  obtain ⟨index, duration⟩ := windowOf_of_covers (toNat_mod_toUInt64_lt _ _) started covers 0
  exact ⟨index.trans (Nat.zero_add i), duration.trans (by rw [UInt64.toNat_zero, Nat.zero_add])⟩

/-- **The last image is selected for good** at a time past all windows. -/
theorem select_of_total_le (several : 1 < delays.length) (positive : period ≠ 0)
    (late : total delays ≤ elapsed.toNat % period.toNat) :
    select delays period elapsed = ⟨delays.length - 1, 0⟩ := by
  rw [← toNat_mod_toUInt64] at late
  rw [select_eq_windowOf several positive,
    windowOf_of_total_le (toNat_mod_toUInt64_lt _ _) (by rwa [UInt64.toNat_zero, Nat.zero_add]) 0,
    Nat.zero_add]

end Selection

end Animation

/-! ## Stored cursors -/

namespace Cursor

/-- **The loop of a cursor is measured by its images**, of which there are some. -/
structure Timed (cursor : Cursor) : Prop where
  /-- There is an image. -/
  images_ne : cursor.images ≠ []
  /-- The loop is as long as the delays of the images. -/
  totalDelay : cursor.totalDelay = Animation.loopLength (cursor.images.map Image.delay)

/-- An image has the delay of its frame. -/
theorem delay_of_storeFrame {pool left : Pool} {name : String} {frame : Frame}
    {fault : Option SystemCall} {host after : Host} {image : Image}
    (stored : storeFrame pool name frame fault host = (.ok image, left, after)) :
    image.delay = frame.delay := by
  unfold storeFrame at stored
  split at stored
  · cases stored
  · split at stored
    · cases stored
    · split at stored
      · cases stored
      · cases stored
        rfl

/-- Images have the delays of their frames. -/
theorem map_delay_of_storeFrames {pool left : Pool} {name : String} {frames : List Frame}
    {faults : Nat → Option SystemCall} {host after : Host} {images : List Image}
    (stored : storeFrames pool name faults host frames = (.ok images, left, after)) :
    images.map Image.delay = frames.map Frame.delay := by
  induction frames generalizing pool host faults images after with
  | nil =>
    cases stored
    rfl
  | cons frame later ih =>
    rw [storeFrames] at stored
    split at stored
    · cases stored
    · rename_i image between middle first
      split at stored
      · cases stored
      · rename_i rest final last others
        cases stored
        rw [List.map_cons, List.map_cons, delay_of_storeFrame first, ih others]

/-- **The loop of a stored cursor is measured by its images.** -/
theorem timed_of_store {pool : Pool} {sprite : Sprite} {faults : Nat → Option SystemCall}
    {host : Host} {cursor : Cursor} (stored : (store pool sprite faults host).1 = .ok cursor) :
    cursor.Timed := by
  unfold store at stored
  split at stored
  · cases stored
  · split at stored
    · cases stored
    · rename_i some
      split at stored
      · cases stored
      · rename_i images between middle copied
        cases stored
        have delays := map_delay_of_storeFrames copied
        refine ⟨?_, by rw [← delays]⟩
        rintro rfl
        simp only [List.map_nil, List.nil_eq, List.map_eq_nil_iff] at delays
        exact some (List.isEmpty_iff.mpr delays)

variable {cursor : Cursor}

/-- The loop of a cursor is not longer than its windows. -/
theorem Timed.totalDelay_le (timed : cursor.Timed) :
    cursor.totalDelay.toNat ≤ Animation.total (cursor.images.map Image.delay) := by
  rw [timed.totalDelay, Animation.toNat_loopLength]
  exact Nat.min_le_left _ _

/-- **No time is past the windows of a cursor**, if it has a loop. -/
theorem Timed.lt_total (timed : cursor.Timed) (positive : cursor.totalDelay ≠ 0) (elapsed : UInt32) :
    elapsed.toNat % cursor.totalDelay.toNat
      < Animation.total (cursor.images.map Image.delay) := by
  have nonempty : 0 < cursor.totalDelay.toNat :=
    UInt32.lt_iff_toNat_lt.mp (UInt32.pos_iff_ne_zero.mpr positive)
  exact lt_of_lt_of_le (Nat.mod_lt _ nonempty) timed.totalDelay_le

/-- **The image that is up is one of the images.** -/
theorem Timed.index_shownAt_lt (timed : cursor.Timed) (elapsed : UInt32) :
    (cursor.shownAt elapsed).index < cursor.images.length := by
  have some := List.length_pos_iff.mpr timed.images_ne
  have same : (cursor.images.map Image.delay).length = cursor.images.length := List.length_map _
  rw [shownAt]
  by_cases still : (cursor.images.map Image.delay).length ≤ 1 ∨ cursor.totalDelay = 0
  · rw [Animation.select, if_pos still]
    exact some
  · rw [not_or, Nat.not_le] at still
    obtain ⟨i, covers⟩ := Animation.exists_covers (timed.lt_total still.2 elapsed)
    obtain ⟨delay, there, -⟩ := covers.exists_delay
    rw [(Animation.select_of_covers still.1 still.2 covers).1, ← same]
    exact (List.getElem?_eq_some_iff.mp there).1

end Cursor

namespace Animation

/-- **A selection follows the windows.** An animation with at most one image, or without a period,
shows its first image for good. Any other one shows, at a time within the period that is before the
end of all windows, the image whose window holds the time, which is one only and has a delay, for what
is left of the window; this is at least one millisecond and at most the delay. At a time past all
windows it shows the last image for good. The walk takes one sum for each image up to the one shown;
each sum is that of unbounded numbers.

A stored cursor has a loop that is as long as its delays together, cut at the largest word. So no time
within the loop is past its windows, and the image shown is always one of its images. -/
theorem select_window :
    (∀ (delays : List UInt32) (period elapsed : UInt32),
      let time := elapsed.toNat % period.toNat
      let shown := select delays period elapsed
      let taken := sums (elapsed % period).toUInt64 0 delays
      (delays.length ≤ 1 ∨ period = 0 → shown = ⟨0, 0⟩) ∧
      (1 < delays.length → period ≠ 0 →
        (time < total delays →
          (∀ i, Covers delays time i ↔ i = shown.index) ∧
          ∃ delay, delays[shown.index]? = some delay ∧ 0 < delay.toNat ∧
            shown.duration.toNat = startOf delays (shown.index + 1) - time ∧
            1 ≤ shown.duration.toNat ∧ shown.duration.toNat ≤ delay.toNat) ∧
        (total delays ≤ time → shown = ⟨delays.length - 1, 0⟩) ∧
        taken.length = shown.index + 1 ∧
        ∀ i sum delay, taken[i]? = some (sum, delay) →
          delays[i]? = some delay ∧ sum.toNat = startOf delays i ∧
            (sum + delay.toUInt64).toNat = sum.toNat + delay.toNat)) ∧
    ∀ (pool : Pool) (sprite : Sprite) (faults : Nat → Option SystemCall) (host : Host)
      (cursor : Cursor), (Cursor.store pool sprite faults host).1 = .ok cursor →
      let delays := cursor.images.map Image.delay
      cursor.totalDelay.toNat = min (total delays) (UInt32.size - 1) ∧
      ∀ elapsed : UInt32,
        (cursor.totalDelay ≠ 0 → elapsed.toNat % cursor.totalDelay.toNat < total delays) ∧
        (cursor.shownAt elapsed).index < cursor.images.length := by
  refine ⟨?_, ?_⟩
  · intro delays period elapsed time shown taken
    refine ⟨fun still => if_pos still, fun several positive => ⟨?_, ?_, ?_, ?_⟩⟩
    · intro early
      obtain ⟨i, covers⟩ := exists_covers early
      obtain ⟨delay, there, width, long⟩ := covers.exists_delay
      obtain ⟨index, duration⟩ := select_of_covers several positive covers
      have opened := covers.opened
      have goesOn := covers.goesOn
      refine ⟨?_, delay, ?_, long, ?_, ?_, ?_⟩
      · intro other
        rw [index]
        exact ⟨fun covered => covered.eq covers, fun same => same ▸ covers⟩
      · rw [index, there]
      · rw [duration, index]
      · rw [duration]
        omega
      · rw [duration]
        omega
    · exact select_of_total_le several positive
    · have walked := index_windowOf (elapsed % period).toUInt64 0 0 delays
      rw [← select_eq_windowOf several positive] at walked
      have nonempty := length_sums_pos (elapsed % period).toUInt64 0
        (List.length_pos_iff.mp (Nat.lt_of_succ_lt several))
      change (sums (elapsed % period).toUInt64 0 delays).length
        = (select delays period elapsed).index + 1
      omega
    · intro i sum delay there
      have unbounded := toNat_of_getElem?_sums (toNat_mod_toUInt64_lt _ _) (Nat.zero_le _) there
      rwa [UInt64.toNat_zero, Nat.zero_add] at unbounded
  · intro pool sprite faults host cursor stored delays
    have timed := Cursor.timed_of_store stored
    refine ⟨?_, fun elapsed => ⟨fun positive => timed.lt_total positive elapsed,
      timed.index_shownAt_lt elapsed⟩⟩
    rw [timed.totalDelay, toNat_loopLength]

/-- An image without a delay is passed over, a period that is too long ends on the last image, and a
loop that does not fit into a word is cut. -/
theorem select_window_of_uneven_delays :
    let wait : Sprite :=
      ⟨"wait", [⟨1, 1, 0, 0, 0xffffffff, [0, 0, 0, 255]⟩, ⟨1, 1, 0, 0, 7, [9, 9, 9, 255]⟩]⟩
    select [100, 0, 100] 200 300 = ⟨2, 100⟩ ∧ Covers [100, 0, 100] 100 2 ∧
      select [1, 2] 9 8 = ⟨1, 0⟩ ∧
      ∃ cursor, (Cursor.store (.fresh 1 8) wait (fun _ => none) {}).1 = .ok cursor ∧
        cursor.totalDelay.toNat = 0xffffffff ∧
        (cursor.shownAt 0xffffffff).index < cursor.images.length := by
  intro wait
  obtain ⟨windows, cursors⟩ := select_window
  obtain ⟨-, several⟩ := windows [100, 0, 100] 200 300
  obtain ⟨covers, -⟩ := (several (by decide) (by decide)).1 (by decide)
  obtain ⟨-, overstated⟩ := windows [1, 2] 9 8
  have last := (overstated (by decide) (by decide)).2.1 (by decide)
  obtain ⟨length, shown⟩ := cursors (.fresh 1 8) wait (fun _ => none) {} _ rfl
  exact ⟨by decide, (covers 2).mpr (by decide), last, _, rfl, length, (shown _).2⟩

end Animation

end CursorThemes
