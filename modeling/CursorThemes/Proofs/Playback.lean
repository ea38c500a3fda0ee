import CursorThemes.Proofs.Windows
import Mathlib.Algebra.BigOperators.Group.List.Basic
import Mathlib.Algebra.Order.Ring.Nat
import Mathlib.Data.List.Rotate

/-! # Playing an animation

A client shows an image, sleeps for what is left of its window, and redraws. The windows follow one
another without a gap, also where one period goes over into the next, so that such a client shows every
image with a delay in its turn and for all of its delay.

* **`Animation.IsNext`** says which image comes next, and **`Animation.Covers.exists_next`** that its
  window opens where the last one ends.
* **`Animation.slots`** are the images with a delay, each with all of it, and
  **`Animation.getElem?_slots_next`** goes from one to the next.
* **`Cursor.redrawAt`** is when the client redraws, and **`Cursor.Animated.exists_slot`** says what it
  shows each time.
* **`Cursor.playback`** is the result. -/

namespace CursorThemes

namespace Animation

/-! ## The next image -/

/-- Whether image `k` is passed over on the way from image `i` to image `j`, which starts over at the
end if it has to. -/
def IsPassed (i j k : Nat) : Prop := if i < j then i < k ∧ k < j else i < k ∨ k < j

/-- **Image `j` is the next after image `i`** in cyclic order that has a delay. -/
structure IsNext (delays : List UInt32) (i j : Nat) : Prop where
  /-- The image has a delay. -/
  delay : ∃ delay, delays[j]? = some delay ∧ 0 < delay.toNat
  /-- The images that are passed over have none. -/
  passed : ∀ k delay, IsPassed i j k → delays[k]? = some delay → delay.toNat = 0

variable {delays : List UInt32} {i j : Nat}

/-- No image is next before another one. -/
theorem IsNext.not_lt {other : Nat} (next : IsNext delays i j) (second : IsNext delays i other) :
    ¬ j < other := by
  intro before
  obtain ⟨delay, there, long⟩ := next.delay
  obtain ⟨otherDelay, otherThere, otherLong⟩ := second.delay
  by_cases ahead : i < other
  · by_cases near : i < j
    · have none := second.passed j delay (by rw [IsPassed, if_pos ahead]; omega) there
      omega
    · have none := next.passed other otherDelay (by rw [IsPassed, if_neg near]; omega) otherThere
      omega
  · have none := second.passed j delay (by rw [IsPassed, if_neg ahead]; omega) there
    omega

/-- **There is one next image at most.** -/
theorem IsNext.eq {other : Nat} (next : IsNext delays i j) (second : IsNext delays i other) :
    j = other :=
  Nat.le_antisymm (Nat.le_of_not_lt (second.not_lt next)) (Nat.le_of_not_lt (next.not_lt second))

/-- Windows that open together have no delays between them. -/
theorem delay_eq_zero_of_startOf_eq {k : Nat} {delay : UInt32} (there : delays[k]? = some delay)
    (after : i ≤ k) (before : k < j) (same : startOf delays j ≤ startOf delays i) :
    delay.toNat = 0 := by
  have first := startOf_mono delays after
  have last : startOf delays (k + 1) ≤ startOf delays j := startOf_mono delays before
  have width := startOf_succ there
  omega

/-- **Where a window ends the next one opens**, be it in the next period. -/
theorem Covers.exists_next {time : Nat} (covers : Covers delays time i) :
    ∃ j, startOf delays j = startOf delays (i + 1) % total delays ∧
      Covers delays (startOf delays (i + 1) % total delays) j ∧ IsNext delays i j := by
  have opened := covers.opened
  have goesOn := covers.goesOn
  have some : 0 < total delays := Nat.lt_of_le_of_lt (Nat.zero_le _) covers.lt_total
  obtain ⟨j, next⟩ := exists_covers (Nat.mod_lt (startOf delays (i + 1)) some)
  obtain ⟨delay, there, -, long⟩ := next.exists_delay
  have nextOpened := next.opened
  have nextGoesOn := next.goesOn
  rcases Nat.lt_or_ge (startOf delays (i + 1)) (total delays) with within | last
  · -- the window is followed by others of the same period
    rw [Nat.mod_eq_of_lt within] at nextOpened nextGoesOn next ⊢
    have ahead : i < j := by
      by_contra back
      have : startOf delays (j + 1) ≤ startOf delays (i + 1) := startOf_mono delays (by omega)
      omega
    have meets : startOf delays (i + 1) ≤ startOf delays j := startOf_mono delays ahead
    refine ⟨j, by omega, next, ⟨delay, there, long⟩, ?_⟩
    intro k passed between inside
    rw [IsPassed, if_pos ahead] at between
    exact delay_eq_zero_of_startOf_eq inside between.1 between.2 nextOpened
  · -- no later window has a length, and the first one with a length is next
    have full : startOf delays (i + 1) = total delays :=
      Nat.le_antisymm (startOf_le_total delays _) last
    rw [full, Nat.mod_self] at nextOpened nextGoesOn next ⊢
    have back : ¬ i < j := by
      intro ahead
      have : startOf delays (i + 1) ≤ startOf delays j := startOf_mono delays ahead
      omega
    refine ⟨j, by omega, next, ⟨delay, there, long⟩, ?_⟩
    intro k passed between inside
    rw [IsPassed, if_neg back] at between
    rcases between with after | before
    · exact delay_eq_zero_of_startOf_eq inside after (List.getElem?_eq_some_iff.mp inside).1
        (by rw [startOf_length, full])
    · exact delay_eq_zero_of_startOf_eq inside (Nat.zero_le k) before (by rwa [startOf_zero])

/-! ## Slots -/

/-- **The images with a delay**, in order, each with all of its delay. -/
def slots (delays : List UInt32) : List Shown :=
  (delays.zipIdx.filter fun entry => entry.1 != 0).map fun entry => ⟨entry.2, entry.1⟩

/-- The slots are those of the images with a delay. -/
theorem mem_slots_iff {slot : Shown} :
    slot ∈ slots delays ↔ delays[slot.index]? = some slot.duration ∧ slot.duration ≠ 0 := by
  obtain ⟨index, duration⟩ := slot
  simp only [slots, List.mem_map, List.mem_filter, bne_iff_ne, Prod.exists,
    List.mem_zipIdx_iff_getElem?, Shown.mk.injEq]
  constructor
  · rintro ⟨delay, i, ⟨there, long⟩, rfl, rfl⟩
    exact ⟨there, long⟩
  · rintro ⟨there, long⟩
    exact ⟨duration, index, ⟨there, long⟩, rfl, rfl⟩

/-- The slots are in the order of the images. -/
theorem pairwise_slots (delays : List UInt32) :
    (slots delays).Pairwise fun a b => a.index < b.index := by
  have ordered : delays.zipIdx.Pairwise fun a b => a.2 < b.2 := by
    rw [← List.pairwise_map, List.zipIdx_map_snd]
    exact List.pairwise_lt_range'
  rw [slots, List.pairwise_map]
  exact ordered.filter _

/-- The delays of an animation are those of its slots. -/
theorem sum_duration_slots (delays : List UInt32) :
    ((slots delays).map fun slot => slot.duration.toNat).sum = total delays := by
  have kept : ∀ entries : List (UInt32 × Nat),
      ((entries.filter fun entry => entry.1 != 0).map fun entry => entry.1.toNat).sum
        = total (entries.map Prod.fst) := by
    intro entries
    induction entries with
    | nil => rfl
    | cons entry later ih =>
      rw [List.map_cons, total, ← ih]
      by_cases still : entry.1 = 0
      · simp [still]
      · simp [still]
  have whole := kept delays.zipIdx
  rw [List.zipIdx_map_fst] at whole
  rw [slots, List.map_map]
  exact whole

/-- The places of slots are in the order of the images. -/
theorem index_lt_iff_of_getElem?_slots {a b : Nat} {first second : Shown}
    (isFirst : (slots delays)[a]? = some first) (isSecond : (slots delays)[b]? = some second) :
    first.index < second.index ↔ a < b := by
  obtain ⟨inFirst, rfl⟩ := List.getElem?_eq_some_iff.mp isFirst
  obtain ⟨inSecond, rfl⟩ := List.getElem?_eq_some_iff.mp isSecond
  have ordered := List.pairwise_iff_getElem.mp (pairwise_slots delays)
  constructor
  · intro less
    by_contra back
    rcases Nat.lt_or_eq_of_le (Nat.le_of_not_lt back) with after | rfl
    · have := ordered b a inSecond inFirst after
      omega
    · omega
  · exact ordered a b inFirst inSecond

/-- The image of a slot is not passed over on the way to the next image. -/
theorem IsNext.not_isPassed {r : Nat} {slot : Shown} (next : IsNext delays i j)
    (there : (slots delays)[r]? = some slot) : ¬ IsPassed i j slot.index := by
  intro passed
  obtain ⟨inDelays, long⟩ := mem_slots_iff.mp (List.mem_of_getElem? there)
  exact long (UInt32.toNat_inj.mp (next.passed slot.index slot.duration passed inDelays))

/-- **The slot of the next image is the next slot**, where the first one comes after the last. -/
theorem getElem?_slots_next {r : Nat} {slot : Shown} {delay : UInt32}
    (here : (slots delays)[r]? = some slot) (next : IsNext delays slot.index j)
    (there : delays[j]? = some delay) :
    (slots delays)[(r + 1) % (slots delays).length]? = some ⟨j, delay⟩ := by
  have long : delay ≠ 0 := by
    obtain ⟨same, sameThere, positive⟩ := next.delay
    obtain rfl := Option.some.inj (there.symm.trans sameThere)
    rintro rfl
    exact absurd positive (by decide)
  have member : ⟨j, delay⟩ ∈ slots delays := mem_slots_iff.mpr ⟨there, long⟩
  obtain ⟨q, atQ⟩ := List.mem_iff_getElem?.mp member
  have inHere := (List.getElem?_eq_some_iff.mp here).1
  have inQ := (List.getElem?_eq_some_iff.mp atQ).1
  by_cases ahead : slot.index < j
  · have after : r < q := (index_lt_iff_of_getElem?_slots here atQ).mp ahead
    -- no slot is between the two, for its image would be passed over
    have adjacent : r + 1 = q := by
      by_contra apart
      have between := List.getElem?_eq_getElem (l := slots delays) (i := r + 1) (by omega)
      refine next.not_isPassed between ?_
      rw [IsPassed, if_pos ahead, index_lt_iff_of_getElem?_slots here between,
        index_lt_iff_of_getElem?_slots between atQ]
      omega
    rw [Nat.mod_eq_of_lt (by omega), adjacent]
    exact atQ
  · have last : r + 1 = (slots delays).length := by
      by_contra more
      have later := List.getElem?_eq_getElem (l := slots delays) (i := r + 1) (by omega)
      refine next.not_isPassed later ?_
      rw [IsPassed, if_neg ahead, index_lt_iff_of_getElem?_slots here later]
      omega
    have first : q = 0 := by
      by_contra more
      have earlier := List.getElem?_eq_getElem (l := slots delays) (i := 0) (by omega)
      refine next.not_isPassed earlier ?_
      rw [IsPassed, if_neg ahead, index_lt_iff_of_getElem?_slots earlier atQ]
      omega
    rw [last, Nat.mod_self, ← first]
    exact atQ

end Animation

/-! ## A client that redraws in time -/

/-- What is shown is an image and a time. -/
theorem Shown.eq_of_toNat {shown : Shown} {i : Nat} {left : UInt32} (index : shown.index = i)
    (duration : shown.duration.toNat = left.toNat) : shown = ⟨i, left⟩ := by
  obtain ⟨at_, stays⟩ := shown
  rw [Shown.mk.injEq]
  exact ⟨index, UInt32.toNat_inj.mp duration⟩

namespace Cursor

/-- **An animated cursor**: it has several images, and a loop that is exactly as long as their delays
together. -/
structure Animated (cursor : Cursor) : Prop where
  /-- There are several images. -/
  several : 1 < (cursor.images.map Image.delay).length
  /-- There is a loop. -/
  positive : cursor.totalDelay ≠ 0
  /-- The loop is as long as the delays. -/
  exact : cursor.totalDelay.toNat = Animation.total (cursor.images.map Image.delay)

/-- A stored cursor is animated if it has several images whose delays make up a word. -/
theorem Timed.animated {cursor : Cursor} (timed : cursor.Timed) (several : 2 ≤ cursor.images.length)
    (some : 0 < Animation.total (cursor.images.map Image.delay))
    (fits : Animation.total (cursor.images.map Image.delay) < UInt32.size) : cursor.Animated := by
  have exact : cursor.totalDelay.toNat = Animation.total (cursor.images.map Image.delay) := by
    rw [timed.totalDelay, Animation.toNat_loopLength]
    omega
  refine ⟨by rwa [List.length_map], ?_, exact⟩
  intro none
  rw [none] at exact
  exact absurd some (by rw [← exact]; decide)

/-- The time at which a client that started at `start` redraws for the `n`th time, if it sleeps each
time for as long as it is told. -/
def redrawAt (cursor : Cursor) (start : Nat) : Nat → Nat
  | 0 => start
  | n + 1 =>
    let time := cursor.redrawAt start n
    time + (cursor.shownAt (.ofNat time)).duration.toNat

/-- **What a client shows** from its `n`th redraw on. -/
def redraw (cursor : Cursor) (start n : Nat) : Shown :=
  cursor.shownAt (.ofNat (cursor.redrawAt start n))

variable {cursor : Cursor} {elapsed : UInt32} {i : Nat}

/-- The window that holds a time of an animated cursor. -/
theorem Animated.exists_covers (animated : cursor.Animated) (elapsed : UInt32) :
    ∃ i, Animation.Covers (cursor.images.map Image.delay)
      (elapsed.toNat % cursor.totalDelay.toNat) i := by
  refine Animation.exists_covers ?_
  rw [← animated.exact]
  exact Nat.mod_lt _ (Nat.pos_of_ne_zero fun zero => animated.positive (UInt32.toNat_inj.mp zero))

/-- What is shown while a window holds the time. -/
theorem Animated.shownAt_of_covers (animated : cursor.Animated)
    (covers : Animation.Covers (cursor.images.map Image.delay)
      (elapsed.toNat % cursor.totalDelay.toNat) i) :
    (cursor.shownAt elapsed).index = i ∧
      (cursor.shownAt elapsed).duration.toNat
        = Animation.startOf (cursor.images.map Image.delay) (i + 1)
          - elapsed.toNat % cursor.totalDelay.toNat :=
  Animation.select_of_covers animated.several animated.positive covers

/-- **An image stays up** for as long as it was said to. -/
theorem Animated.shownAt_add_of_lt (animated : cursor.Animated) {k : UInt32}
    (early : k < (cursor.shownAt elapsed).duration)
    (inRange : elapsed.toNat + k.toNat < UInt32.size) :
    cursor.shownAt (elapsed + k)
      = ⟨(cursor.shownAt elapsed).index, (cursor.shownAt elapsed).duration - k⟩ := by
  obtain ⟨i, covers⟩ := animated.exists_covers elapsed
  obtain ⟨index, duration⟩ := animated.shownAt_of_covers covers
  have opened := covers.opened
  have ends := Animation.startOf_le_total (cursor.images.map Image.delay) (i + 1)
  have shorter : k.toNat < (cursor.shownAt elapsed).duration.toNat := UInt32.lt_iff_toNat_lt.mp early
  have time : (elapsed + k).toNat % cursor.totalDelay.toNat
      = elapsed.toNat % cursor.totalDelay.toNat + k.toNat := by
    rw [UInt32.toNat_add, Nat.mod_eq_of_lt inRange, ← Nat.mod_add_mod, Nat.mod_eq_of_lt]
    rw [animated.exact] at duration ⊢
    omega
  have still : Animation.Covers (cursor.images.map Image.delay)
      ((elapsed + k).toNat % cursor.totalDelay.toNat) i := by
    rw [time]
    exact ⟨Nat.le_add_right_of_le opened, by omega⟩
  obtain ⟨sameIndex, left⟩ := animated.shownAt_of_covers still
  refine Shown.eq_of_toNat (sameIndex.trans index.symm) ?_
  rw [left, time, UInt32.toNat_sub_of_le _ _ (UInt32.le_of_lt early), duration]
  omega

/-- **After an image comes the next one**, for all of its delay. -/
theorem Animated.shownAt_add_duration (animated : cursor.Animated)
    (inRange : elapsed.toNat + (cursor.shownAt elapsed).duration.toNat < UInt32.size) :
    let next := cursor.shownAt (elapsed + (cursor.shownAt elapsed).duration)
    Animation.IsNext (cursor.images.map Image.delay) (cursor.shownAt elapsed).index next.index ∧
      (cursor.images.map Image.delay)[next.index]? = some next.duration := by
  intro next
  obtain ⟨i, covers⟩ := animated.exists_covers elapsed
  obtain ⟨index, duration⟩ := animated.shownAt_of_covers covers
  have goesOn := covers.goesOn
  obtain ⟨j, opens, holds, isNext⟩ := covers.exists_next
  have time : (elapsed + (cursor.shownAt elapsed).duration).toNat % cursor.totalDelay.toNat
      = Animation.startOf (cursor.images.map Image.delay) (i + 1)
        % Animation.total (cursor.images.map Image.delay) := by
    rw [UInt32.toNat_add, Nat.mod_eq_of_lt inRange, ← Nat.mod_add_mod, duration, ← animated.exact]
    congr 1
    omega
  rw [← time] at opens holds
  obtain ⟨nextIndex, left⟩ := animated.shownAt_of_covers holds
  obtain ⟨delay, there, width, -⟩ := holds.exists_delay
  have whole : next.duration = delay := by
    refine UInt32.toNat_inj.mp (left.trans ?_)
    rw [width, opens]
    omega
  have same : next.index = j := nextIndex
  rw [same, whole, index]
  exact ⟨isNext, there⟩

/-! ## Runs of redraws -/

/-- A client does not go back in time. -/
theorem redrawAt_le_succ (cursor : Cursor) (start n : Nat) :
    cursor.redrawAt start n ≤ cursor.redrawAt start (n + 1) := Nat.le_add_right _ _

/-- What is shown on a redraw is what comes after the image before. -/
theorem redraw_succ (cursor : Cursor) (start n : Nat) :
    cursor.redraw start (n + 1)
      = cursor.shownAt (.ofNat (cursor.redrawAt start n) + (cursor.redraw start n).duration) := by
  rw [redraw, redrawAt, UInt32.ofNat_add, UInt32.ofNat_toNat, redraw]

/-- Redraws are as far apart as the images between them stay. -/
theorem redrawAt_add (cursor : Cursor) (start n count : Nat) :
    cursor.redrawAt start (n + count)
      = cursor.redrawAt start n
        + ((List.range count).map fun k => (cursor.redraw start (n + k)).duration.toNat).sum := by
  induction count with
  | zero => rfl
  | succ count ih =>
    rw [← Nat.add_assoc, redrawAt, ih, List.range_succ, List.map_append, List.sum_append,
      List.map_singleton, List.sum_singleton, ← Nat.add_assoc, redraw, ih]

/-- The image that is shown at any time has a slot. -/
theorem Animated.exists_first (animated : cursor.Animated) (elapsed : UInt32) :
    ∃ (first : Nat) (slot : Shown),
      (Animation.slots (cursor.images.map Image.delay))[first]? = some slot ∧
      slot.index = (cursor.shownAt elapsed).index := by
  obtain ⟨i, covers⟩ := animated.exists_covers elapsed
  obtain ⟨index, -⟩ := animated.shownAt_of_covers covers
  obtain ⟨delay, there, -, long⟩ := covers.exists_delay
  have member : (⟨i, delay⟩ : Shown) ∈ Animation.slots (cursor.images.map Image.delay) := by
    refine Animation.mem_slots_iff.mpr ⟨there, ?_⟩
    rintro rfl
    exact absurd long (by decide)
  obtain ⟨first, found⟩ := List.mem_iff_getElem?.mp member
  exact ⟨first, _, found, index.symm⟩

/-- **Every redraw comes to the next slot.** Only the first image may have been up for a while. -/
theorem Animated.exists_slot (animated : cursor.Animated) {start first : Nat} {slot : Shown}
    (isFirst : (Animation.slots (cursor.images.map Image.delay))[first]? = some slot)
    (shown : slot.index = (cursor.redraw start 0).index) (n : Nat)
    (inRange : cursor.redrawAt start n < UInt32.size) :
    let slots := Animation.slots (cursor.images.map Image.delay)
    ∃ current, slots[(first + n) % slots.length]? = some current ∧
      current.index = (cursor.redraw start n).index ∧ (0 < n → current = cursor.redraw start n) := by
  intro slots
  induction n with
  | zero =>
    have inSlots := (List.getElem?_eq_some_iff.mp isFirst).1
    refine ⟨slot, ?_, shown, fun none => absurd none (Nat.lt_irrefl 0)⟩
    rw [Nat.add_zero, Nat.mod_eq_of_lt inSlots]
    exact isFirst
  | succ n ih =>
    have before := Nat.lt_of_le_of_lt (cursor.redrawAt_le_succ start n) inRange
    obtain ⟨current, here, sameIndex, -⟩ := ih before
    have time : (UInt32.ofNat (cursor.redrawAt start n)).toNat = cursor.redrawAt start n :=
      UInt32.toNat_ofNat_of_lt' before
    have ends : (UInt32.ofNat (cursor.redrawAt start n)).toNat
        + (cursor.redraw start n).duration.toNat < UInt32.size := by rwa [time]
    obtain ⟨isNext, whole⟩ := animated.shownAt_add_duration ends
    rw [← redraw, ← redraw_succ] at isNext whole
    have reached := Animation.getElem?_slots_next here (sameIndex ▸ isNext) whole
    refine ⟨cursor.redraw start (n + 1), ?_, rfl, fun _ => rfl⟩
    rw [← Nat.add_assoc, ← Nat.mod_add_mod]
    exact reached

/-- **As many redraws as there are slots come to all slots in turn**, and take one loop. -/
theorem redraws_of_slots {start first n : Nat}
    (shown : ∀ k < (Animation.slots (cursor.images.map Image.delay)).length,
      let slots := Animation.slots (cursor.images.map Image.delay)
      slots[(first + (n + k)) % slots.length]? = some (cursor.redraw start (n + k))) :
    let slots := Animation.slots (cursor.images.map Image.delay)
    (List.range slots.length).map (fun k => cursor.redraw start (n + k)) = slots.rotate (first + n) ∧
      cursor.redrawAt start (n + slots.length)
        = cursor.redrawAt start n + Animation.total (cursor.images.map Image.delay) := by
  intro slots
  have turn : (List.range slots.length).map (fun k => cursor.redraw start (n + k))
      = slots.rotate (first + n) := by
    apply List.ext_getElem
    · rw [List.length_map, List.length_range, List.length_rotate]
    · intro k inTurn inSlots
      rw [List.length_rotate] at inSlots
      obtain ⟨_, same⟩ := List.getElem?_eq_some_iff.mp (shown k inSlots)
      rw [List.getElem_map, List.getElem_range, List.getElem_rotate, ← same]
      congr 2
      omega
  refine ⟨turn, ?_⟩
  have durations : (List.range slots.length).map (fun k => (cursor.redraw start (n + k)).duration.toNat)
      = (slots.rotate (first + n)).map fun slot => slot.duration.toNat := by
    rw [← turn, List.map_map]
    rfl
  rw [redrawAt_add, durations, List.map_rotate, (List.rotate_perm _ _).sum_eq,
    Animation.sum_duration_slots]

/-- **A client that sleeps until the next image is due plays an animation as it should.** Let a stored
cursor have several images, whose delays together are not zero and fit into a word, and let the elapsed
time stay within a word. The image shown at a time stays up for as long as was said, and what is left
gets less by the time that has passed. Then comes the next image in cyclic order that has a delay, for
all of its delay. So a client that starts at any time and redraws when the next image is due is shown
the images with a delay in turn, from the one that was up, each of them for all of its delay, and no
others; every loop shows each of them once, and takes as long as all delays together. -/
theorem playback {pool : Pool} {sprite : Sprite} {faults : Nat → Option SystemCall} {host : Host}
    {cursor : Cursor} (stored : (store pool sprite faults host).1 = .ok cursor)
    (several : 2 ≤ cursor.images.length)
    (moves : 0 < Animation.total (cursor.images.map Image.delay))
    (fits : Animation.total (cursor.images.map Image.delay) < UInt32.size) :
    let delays := cursor.images.map Image.delay
    let slots := Animation.slots delays
    (∀ elapsed : UInt32,
      let shown := cursor.shownAt elapsed
      let next := cursor.shownAt (elapsed + shown.duration)
      (∀ k : UInt32, k < shown.duration → elapsed.toNat + k.toNat < UInt32.size →
        cursor.shownAt (elapsed + k) = ⟨shown.index, shown.duration - k⟩) ∧
      (elapsed.toNat + shown.duration.toNat < UInt32.size →
        (∀ j, Animation.IsNext delays shown.index j ↔ j = next.index) ∧
          delays[next.index]? = some next.duration)) ∧
    ∀ start : UInt32, ∃ first : Nat,
      (slots[first]?.map Shown.index = some (cursor.shownAt start).index) ∧
      (∀ n, 0 < n → cursor.redrawAt start.toNat n < UInt32.size →
        slots[(first + n) % slots.length]? = some (cursor.redraw start.toNat n)) ∧
      ∀ n, 0 < n → (∀ k < slots.length, cursor.redrawAt start.toNat (n + k) < UInt32.size) →
        (List.range slots.length).map (fun k => cursor.redraw start.toNat (n + k))
          = slots.rotate (first + n) ∧
        cursor.redrawAt start.toNat (n + slots.length)
          = cursor.redrawAt start.toNat n + Animation.total delays := by
  intro delays slots
  have animated := (timed_of_store stored).animated several moves fits
  refine ⟨fun elapsed => ⟨fun k => animated.shownAt_add_of_lt, fun inRange => ?_⟩, fun start => ?_⟩
  · obtain ⟨isNext, whole⟩ := animated.shownAt_add_duration inRange
    exact ⟨fun j => ⟨fun other => other.eq isNext, fun same => same ▸ isNext⟩, whole⟩
  · obtain ⟨first, slot, isFirst, sameIndex⟩ := animated.exists_first start
    have shown : slot.index = (cursor.redraw start.toNat 0).index := by
      rw [redraw, redrawAt, UInt32.ofNat_toNat, sameIndex]
    have reached : ∀ n, 0 < n → cursor.redrawAt start.toNat n < UInt32.size →
        slots[(first + n) % slots.length]? = some (cursor.redraw start.toNat n) := by
      intro n later inRange
      obtain ⟨current, here, -, same⟩ := animated.exists_slot isFirst shown n inRange
      rwa [same later] at here
    refine ⟨first, ?_, reached, ?_⟩
    · rw [isFirst, Option.map_some, sameIndex]
    · intro n later inRange
      exact redraws_of_slots fun k inSlots =>
        reached (n + k) (Nat.add_pos_left later k) (inRange k inSlots)

/-- An animation with an image in the middle that has no delay is joined in its last image, and played
for a loop. -/
theorem playback_of_three_images :
    let watch : Sprite := ⟨"watch", [⟨1, 1, 0, 0, 100, [0, 0, 0, 255]⟩, ⟨1, 1, 0, 0, 0, [1, 1, 1, 255]⟩,
      ⟨1, 1, 0, 0, 50, [2, 2, 2, 255]⟩]⟩
    let cursor : Cursor := ⟨"watch", [⟨1, 1, 0, 0, 100, ⟨0, 4⟩, 1, none⟩,
      ⟨1, 1, 0, 0, 0, ⟨4, 4⟩, 1, none⟩, ⟨1, 1, 0, 0, 50, ⟨8, 4⟩, 1, none⟩], 150⟩
    (store (.fresh 1 12) watch (fun _ => none) {}).1 = .ok cursor ∧ 2 ≤ cursor.images.length ∧
      Animation.total (cursor.images.map Image.delay) = 150 ∧
      cursor.shownAt 120 = ⟨2, 30⟩ ∧ cursor.shownAt (120 + 7) = ⟨2, 30 - 7⟩ ∧
      Animation.IsNext [100, 0, 50] 2 (cursor.shownAt (120 + 30)).index ∧
      ∃ first, (List.range 2).map (fun k => cursor.redraw 120 (1 + k))
        = (Animation.slots [100, 0, 50]).rotate (first + 1) := by
  intro watch cursor
  have stored : (store (.fresh 1 12) watch (fun _ => none) {}).1 = .ok cursor := rfl
  have several : 2 ≤ cursor.images.length := by decide
  have shown : cursor.shownAt 120 = ⟨2, 30⟩ := by decide
  obtain ⟨single, played⟩ := playback stored several (by decide) (by decide)
  obtain ⟨stays, goesOn⟩ := single 120
  rw [shown] at stays goesOn
  obtain ⟨isNext, -⟩ := goesOn (by decide)
  obtain ⟨first, -, -, loops⟩ := played 120
  obtain ⟨turn, -⟩ := loops 1 (by decide) (by decide)
  exact ⟨stored, several, rfl, shown, stays 7 (by decide) (by decide), (isNext _).mpr rfl, first, turn⟩

end Cursor

end CursorThemes
