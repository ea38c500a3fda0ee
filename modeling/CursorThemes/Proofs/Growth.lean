import CursorThemes.Proofs.Atomicity
import Mathlib.Data.List.Chain

/-! # How often a pool grows

A pool that grows more than doubles its capacity, or reaches the largest capacity there is and never
grows again. So it grows a limited number of times, whatever it is asked for.

* **`Pool.Outgrows`** is what one growth does to a capacity, and **`Pool.Climbs`** what several do.
* **`Pool.Climbs.succ_mul_two_pow_le`** is the potential argument: every growth but the last one at
  least doubles the capacity and one more.
* **`Pool.Usage.Ascends`** relates a pool in use to itself later on, and
  **`Pool.Usage.exists_ascends_run`** says that it does so whatever system calls fail.
* **`Pool.Usage.grows_at_most`** is the result for a pool in use, and **`Session.resizes_at_most`** for
  every pool of a session. -/

namespace CursorThemes

namespace Pool

/-! ## Capacities that climb -/

/-- **A capacity outgrows another one**: it is larger and can be announced, and it is more than twice
the other one, or the largest one. -/
structure Outgrows (before after : Nat) : Prop where
  /-- It is larger. -/
  lt : before < after
  /-- It can be announced. -/
  le : after ≤ maxPoolSize
  /-- It is more than twice the other one, or the largest one. -/
  doubles : 2 * before < after ∨ after = maxPoolSize

/-- A pool that has to grow, and has room to, outgrows its capacity. -/
theorem outgrows_grownCapacity {capacity used size : Nat} (full : ¬ used + size ≤ capacity)
    (room : used + size ≤ maxPoolSize) (inside : used ≤ capacity) :
    Outgrows capacity (grownCapacity capacity size) := by
  refine ⟨(lt_grownCapacity full room inside).1, Nat.min_le_right _ _, ?_⟩
  unfold grownCapacity
  omega

/-- **Capacities climb** from `low` to `high` by way of a list that ends with `high`: each outgrows the
one before it. -/
def Climbs : Nat → List Nat → Nat → Prop
  | low, [], high => low = high
  | low, next :: later, high => Outgrows low next ∧ Climbs next later high

namespace Climbs

variable {low middle high : Nat} {capacities later : List Nat}

/-- Without a growth the capacity stays. -/
@[simp] theorem nil_iff : Climbs low [] high ↔ low = high := Iff.rfl

/-- Cons reading of `Climbs`: the first growth, and the others from there on. -/
@[simp] theorem cons_iff {next : Nat} :
    Climbs low (next :: later) high ↔ Outgrows low next ∧ Climbs next later high := Iff.rfl

/-- Capacities climb on from where they are. -/
theorem trans (first : Climbs low capacities middle) (second : Climbs middle later high) :
    Climbs low (capacities ++ later) high := by
  induction capacities generalizing low with
  | nil =>
    cases nil_iff.mp first
    exact second
  | cons next rest ih => exact ⟨first.1, ih first.2⟩

/-- Each capacity outgrows the one before it. -/
theorem isChain (climbs : Climbs low capacities high) : (low :: capacities).IsChain Outgrows := by
  induction capacities generalizing low with
  | nil => exact List.isChain_singleton low
  | cons next rest ih => exact List.isChain_cons_cons.mpr ⟨climbs.1, ih climbs.2⟩

/-- The capacities get larger and larger. -/
theorem pairwise_lt (climbs : Climbs low capacities high) :
    (low :: capacities).Pairwise (· < ·) :=
  List.isChain_iff_pairwise.mp (climbs.isChain.imp fun _ _ outgrows => outgrows.lt)

/-- All capacities can be announced. -/
theorem le_of_mem (climbs : Climbs low capacities high) {capacity : Nat}
    (member : capacity ∈ capacities) : capacity ≤ maxPoolSize := by
  induction capacities generalizing low with
  | nil => cases member
  | cons next rest ih =>
    rcases List.mem_cons.mp member with rfl | behind
    · exact climbs.1.le
    · exact ih climbs.2 behind

/-- Nothing outgrows the largest capacity. -/
theorem eq_of_largest (climbs : Climbs maxPoolSize capacities high) : high = maxPoolSize := by
  cases capacities with
  | nil => exact (nil_iff.mp climbs).symm
  | cons next rest => exact absurd climbs.1.le (Nat.not_le.mpr climbs.1.lt)

/-- **Every growth but the last one doubles** the capacity and one more, or does better. -/
theorem succ_mul_two_pow_le {next : Nat} (climbs : Climbs low (next :: later) high) :
    (low + 1) * 2 ^ later.length ≤ maxPoolSize := by
  -- one more is needed for the doubling to be exact: a growth for one byte takes `low` to `2 * low + 1`
  induction later generalizing low next with
  | nil =>
    have reached := climbs.1.le
    have larger := climbs.1.lt
    rw [List.length_nil, Nat.pow_zero]
    omega
  | cons third rest ih =>
    obtain ⟨outgrows, further⟩ := climbs
    -- the next capacity is outgrown in its turn, so that it is not the largest one
    have notLargest : next < maxPoolSize := lt_of_lt_of_le further.1.lt further.1.le
    have doubled : 2 * (low + 1) ≤ next + 1 := by
      have twice := outgrows.doubles.resolve_right (Nat.ne_of_lt notLargest)
      omega
    calc (low + 1) * 2 ^ (third :: rest).length
        = 2 * (low + 1) * 2 ^ rest.length := by rw [List.length_cons, Nat.pow_succ]; ring
      _ ≤ (next + 1) * 2 ^ rest.length := Nat.mul_le_mul_right _ doubled
      _ ≤ maxPoolSize := ih further

/-- **A pool with room for a pixel grows no more than 29 times.** -/
theorem length_le (climbs : Climbs low capacities high) (pixel : bytesPerPixel ≤ low) :
    capacities.length ≤ 29 := by
  cases capacities with
  | nil => exact Nat.zero_le _
  | cons next later =>
    have bound := climbs.succ_mul_two_pow_le
    by_contra many
    have exponent : 29 ≤ later.length := by
      rw [List.length_cons] at many
      omega
    have power : 2 ^ 29 ≤ 2 ^ later.length := Nat.pow_le_pow_right (by decide) exponent
    have product : (bytesPerPixel + 1) * 2 ^ 29 ≤ (low + 1) * 2 ^ later.length :=
      Nat.mul_le_mul (Nat.succ_le_succ pixel) power
    exact absurd (le_trans product bound) (by decide)

/-- **The words for the capacities** of a pool with room for a pixel are at most 29, and they are
positive and get larger and larger. -/
theorem words_increase (climbs : Climbs low capacities high) (pixel : bytesPerPixel ≤ low) :
    (capacities.map Int32.ofNat).length ≤ 29 ∧
      (∀ word ∈ capacities.map Int32.ofNat, 0 < word.toInt) ∧
      ((low : Int) :: (capacities.map Int32.ofNat).map Int32.toInt).Pairwise (· < ·) := by
  have numbers : (capacities.map Int32.ofNat).map Int32.toInt = capacities.map Nat.cast := by
    rw [List.map_map]
    exact List.map_congr_left fun capacity member => toInt_ofNat_of_le _ (climbs.le_of_mem member)
  have larger : ((low : Int) :: (capacities.map Int32.ofNat).map Int32.toInt).Pairwise (· < ·) := by
    rw [numbers, ← List.map_cons, List.pairwise_map]
    exact climbs.pairwise_lt.imp fun lt => Int.ofNat_lt.mpr lt
  refine ⟨?_, ?_, larger⟩
  · rw [List.length_map]
    exact climbs.length_le pixel
  · intro word member
    have above := (List.pairwise_cons.mp larger).1 word.toInt (List.mem_map_of_mem member)
    omega

end Climbs

/-! ## Growths of a pool in use -/

/-- **A pool grows for `size` more bytes**: it does not have them, and the growth that it tries then
succeeds. -/
def Grows (pool : Pool) (size : Nat) (fault : Option SystemCall) (host : Host) : Prop :=
  0 < size ∧ pool.capacity < pool.used + size ∧ (pool.grow size fault host).1 = .ok ()

/-- A pool grows exactly for what it does not have and grants. -/
theorem grows_iff {pool : Pool} (sized : pool.Sized) {size : Nat} {fault : Option SystemCall}
    {host : Host} :
    pool.Grows size fault host ↔
      ¬ pool.used + size ≤ pool.capacity ∧ Grants pool.capacity pool.used size fault := by
  rw [Nat.not_le]
  constructor
  · rintro ⟨positive, full, grown⟩
    refine ⟨full, ?_⟩
    -- what is not granted although it is asked for would have been stopped
    by_contra denied
    obtain ⟨cause, backing, after, stopped, -⟩ :=
      grow_of_stopped sized (stopsGrowth_of_not_grants denied positive) host
    rw [stopped] at grown
    cases grown
  · rintro ⟨full, positive, room, free⟩
    refine ⟨positive, full, ?_⟩
    rw [grow_of_not_stopped room (free.resolve_left (Nat.not_le.mpr full)) host]

namespace Usage

variable {usage : Usage}

/-- **A pool in use ascends**: its capacity climbs by way of some capacities, and each of them was told
to the service by one request, in order. Nothing else was requested. -/
structure Ascends (before : Usage) (capacities : List Nat) (after : Usage) : Prop where
  /-- The sizes of the pool agree. -/
  sized : after.pool.Sized
  /-- It is the same pool at the service. -/
  handle : after.pool.handle = before.pool.handle
  /-- The capacity climbs. -/
  climbs : Climbs before.pool.capacity capacities after.pool.capacity
  /-- Each capacity was announced. -/
  requests : after.host.requests = before.host.requests
    ++ capacities.map fun capacity => .resizePool before.pool.handle (.ofNat capacity)

/-- A pool ascends by no growth if neither its capacity nor the requests change. -/
theorem Ascends.of_same {before after : Usage} (sized : after.pool.Sized)
    (handle : after.pool.handle = before.pool.handle)
    (capacity : after.pool.capacity = before.pool.capacity)
    (requests : after.host.requests = before.host.requests) : Ascends before [] after :=
  ⟨sized, handle, capacity.symm, by rw [requests, List.map_nil, List.append_nil]⟩

/-- A pool ascends on from where it is. -/
theorem Ascends.trans {first second third : Usage} {capacities later : List Nat}
    (lower : Ascends first capacities second) (upper : Ascends second later third) :
    Ascends first (capacities ++ later) third := by
  refine ⟨upper.sized, upper.handle.trans lower.handle, lower.climbs.trans upper.climbs, ?_⟩
  rw [upper.requests, lower.requests, lower.handle, List.map_append, List.append_assoc]

/-- **A growth** takes a pool to one capacity more. -/
theorem ascends_of_grows (sized : usage.pool.Sized) {size : Nat} {fault : Option SystemCall}
    (grows : usage.pool.Grows size fault usage.host) :
    Ascends usage [(usage.step (.allocate size fault)).pool.capacity]
      (usage.step (.allocate size fault)) := by
  obtain ⟨full, grants⟩ := (grows_iff sized).mp grows
  simp only [step, allocate_of_grants grants]
  refine ⟨sized_granted sized grants.2.1, handle_granted _ _, ?_, ?_⟩
  · rw [capacity_granted, capacityFor, if_neg full]
    exact ⟨outgrows_grownCapacity full grants.2.1 sized.used_le, rfl⟩
  · rw [capacity_granted, capacityFor, announceGrant, if_neg full, if_neg full]
    rfl

/-- **An allocation without a growth** leaves the capacity, and requests nothing. -/
theorem ascends_of_not_grows (sized : usage.pool.Sized) {size : Nat} {fault : Option SystemCall}
    (still : ¬ usage.pool.Grows size fault usage.host) :
    Ascends usage [] (usage.step (.allocate size fault)) := by
  -- either the bytes are there, or the allocation fails, whether a growth was tried or not
  by_cases grants : Grants usage.pool.capacity usage.pool.used size fault
  · have fits : usage.pool.used + size ≤ usage.pool.capacity :=
      by_contra fun full => still ((grows_iff sized).mpr ⟨full, grants⟩)
    simp only [step, allocate_of_grants grants]
    refine .of_same (sized_granted sized grants.2.1) (handle_granted _ _) ?_ ?_
    · rw [capacity_granted, capacityFor, if_pos fits]
    · rw [announceGrant, if_pos fits]
  · obtain ⟨cause, backing, after, refused, alike, same⟩ :=
      allocate_of_not_grants sized grants usage.host
    simp only [step, refused]
    exact .of_same (sized.withBacking same.length_le) rfl rfl alike.requests

/-- Writing leaves the capacity, and requests nothing. -/
theorem ascends_store (sized : usage.pool.Sized) (range : Allocation) (start : Nat)
    (bytes : List UInt8) : Ascends usage [] (usage.step (.store range start bytes)) := by
  cases stored : usage.pool.store? range start bytes with
  | none =>
    simp only [step, stored]
    exact .of_same sized rfl rfl rfl
  | some written =>
    obtain ⟨backing, same, length⟩ := exists_of_store? stored
    simp only [step, stored, same]
    exact .of_same (sized.withBacking (length ▸ sized.capacity_le_length)) rfl rfl rfl

/-- **Every use lets a pool ascend**, whatever system call fails. -/
theorem exists_ascends_step (sized : usage.pool.Sized) (use : Use) :
    ∃ capacities, Ascends usage capacities (usage.step use) := by
  cases use with
  | allocate size fault =>
    by_cases grows : usage.pool.Grows size fault usage.host
    · exact ⟨_, ascends_of_grows sized grows⟩
    · exact ⟨[], ascends_of_not_grows sized grows⟩
  | store range start bytes => exact ⟨[], ascends_store sized range start bytes⟩

/-- **A pool ascends**, however it is used. -/
theorem exists_ascends_run (sized : usage.pool.Sized) (uses : List Use) :
    ∃ capacities, Ascends usage capacities (usage.run uses) := by
  -- all that a use needs of the ones before it is that the sizes agree
  induction uses generalizing usage with
  | nil => exact ⟨[], .of_same sized rfl rfl rfl⟩
  | cons use later ih =>
    obtain ⟨capacities, ascends⟩ := exists_ascends_step sized use
    obtain ⟨further, rest⟩ := ih ascends.sized
    exact ⟨capacities ++ further, ascends.trans rest⟩

/-- **The largest pool does not grow**, however it is used further. -/
theorem not_grows_of_largest (sized : usage.pool.Sized) (largest : usage.pool.capacity = maxPoolSize)
    (later : List Use) (size : Nat) (fault : Option SystemCall) :
    ¬ (usage.run later).pool.Grows size fault (usage.run later).host := by
  obtain ⟨capacities, ascends⟩ := exists_ascends_run sized later
  have climbs := ascends.climbs
  rw [largest] at climbs
  have stays := climbs.eq_of_largest
  intro grows
  obtain ⟨full, grants⟩ := (grows_iff ascends.sized).mp grows
  have room := grants.2.1
  omega

/-- **A pool grows no more than 29 times.** Let a new pool be used in any way, and any system calls
fail. A growth makes it more than twice as large, or as large as a pool can be, and is told to the
service by one request; an allocation without a growth changes neither the capacity nor the requests.
A pool that is as large as can be never grows again. So the service is told of at most 29 sizes of the
pool after the one that it was made with, and they are positive and get larger and larger. -/
theorem grows_at_most {size : Nat} {obstacles : Obstacles} {host announced : Host} {pool : Pool}
    (created : create size obstacles host = (.ok pool, announced)) (uses : List Use) :
    let usage := Usage.run { pool, host := announced } uses
    (∀ requested fault,
      let after := usage.step (.allocate requested fault)
      (usage.pool.Grows requested fault usage.host →
        Outgrows usage.pool.capacity after.pool.capacity ∧
          ∃ word : Int32, word.toInt = after.pool.capacity ∧
            after.host.requests = usage.host.requests ++ [.resizePool pool.handle word]) ∧
      (¬ usage.pool.Grows requested fault usage.host →
        after.pool.capacity = usage.pool.capacity ∧
          after.host.requests = usage.host.requests)) ∧
    (usage.pool.capacity = maxPoolSize → ∀ later requested fault,
      ¬ (usage.run later).pool.Grows requested fault (usage.run later).host) ∧
    ∃ sizes : List Int32,
      usage.host.requests = announced.requests ++ sizes.map (.resizePool pool.handle) ∧
      sizes.length ≤ 29 ∧ (∀ word ∈ sizes, 0 < word.toInt) ∧
      ((pool.capacity : Int) :: sizes.map Int32.toInt).Pairwise (· < ·) := by
  intro usage
  obtain ⟨small, rfl, rfl⟩ := eq_fresh_of_create created
  obtain ⟨capacities, ascends⟩ : ∃ capacities, Ascends _ capacities usage :=
    exists_ascends_run (sized_fresh _ (Nat.le_max_right _ _) small) uses
  refine ⟨?_, not_grows_of_largest ascends.sized, capacities.map Int32.ofNat, ?_,
    ascends.climbs.words_increase (Nat.le_max_right _ _)⟩
  · intro requested fault after
    constructor
    · intro grows
      have grown := ascends_of_grows ascends.sized grows
      refine ⟨grown.climbs.1, _, toInt_ofNat_of_le _ grown.climbs.1.le, ?_⟩
      rw [grown.requests, ascends.handle]
      rfl
    · intro still
      have same := ascends_of_not_grows ascends.sized still
      exact ⟨same.climbs.symm, by rw [same.requests, List.map_nil, List.append_nil]⟩
  · rw [ascends.requests, List.map_map]
    rfl

/-- A pool of one pixel that is filled again and again, and asked for one byte more until the longer
file can be mapped, grows 29 times. -/
theorem grows_at_most_of_full :
    let uses : List Use := .allocate 4 none :: (List.range 29).flatMap fun n =>
      [.allocate 1 (some (.mapFile .outOfMemory)),
        .allocate 1 (some (.cutFile .outOfMemory .fileTooLarge)), .allocate 1 none,
        .allocate (5 * 2 ^ n - 1) none]
    let usage := Usage.run
      { pool := .fresh 1 bytesPerPixel, host := announceFresh bytesPerPixel {} } uses
    create 0 {} {} = (.ok (.fresh 1 bytesPerPixel), announceFresh bytesPerPixel {}) ∧
      usage.pool.capacity = maxPoolSize ∧
      (∀ later requested fault,
        ¬ (usage.run later).pool.Grows requested fault (usage.run later).host) ∧
      ∃ sizes : List Int32, usage.host.requests
          = (announceFresh bytesPerPixel {}).requests ++ sizes.map (.resizePool 1) ∧
        sizes.length = 29 ∧ (∀ word ∈ sizes, 0 < word.toInt) ∧
        (4 :: sizes.map Int32.toInt).Pairwise (· < ·) := by
  intro uses
  have created : create 0 {} {} = (.ok (.fresh 1 bytesPerPixel), announceFresh bytesPerPixel {}) :=
    rfl
  have largest : (Usage.run { pool := .fresh 1 bytesPerPixel, host := announceFresh bytesPerPixel {} }
      uses).pool.capacity = maxPoolSize := by decide +kernel
  have sent : (Usage.run { pool := .fresh 1 bytesPerPixel, host := announceFresh bytesPerPixel {} }
      uses).host.requests.length = 30 := by decide +kernel
  obtain ⟨-, still, sizes, requests, -, positive, larger⟩ := grows_at_most created uses
  refine ⟨created, largest, still largest, sizes, requests, ?_, positive, larger⟩
  -- one of the requests made the pool
  have first : (announceFresh bytesPerPixel {}).requests.length = 1 := rfl
  rw [requests, List.length_append, List.length_map] at sent
  omega

end Usage

end Pool

/-! ## Growths of the pools of a session -/

/-- The size that a request resizes a pool to, if it does. -/
def Request.resizes? (pool : Handle) : Request → Option Int32
  | resizePool id size => if id = pool then some size else none
  | createPool _ _ | createBuffer _ _ _ _ _ _ | destroyPool _ | destroyBuffer _ => none

/-- **The sizes that a pool was resized to** in a log, in order. -/
def RequestLog.resized (log : List Request) (pool : Handle) : List Int32 :=
  log.filterMap (Request.resizes? pool)

open RequestLog

/-- A request that does not name a pool does not resize it. -/
theorem Request.resizes?_eq_none {pool : Handle} {request : Request}
    (unnamed : request.pool? ≠ some pool) : request.resizes? pool = none := by
  cases request with
  | resizePool id _ => exact if_neg fun same => unnamed (congrArg some same)
  | createPool _ _ => rfl
  | createBuffer _ _ _ _ _ _ => rfl
  | destroyPool _ => rfl
  | destroyBuffer _ => rfl

/-- What gives something up resizes no pool. -/
theorem Request.Releases.resizes?_eq_none {request : Request} (releases : request.Releases)
    (pool : Handle) : request.resizes? pool = none := by
  cases request with
  | createPool _ _ => exact releases.elim
  | resizePool _ _ => exact releases.elim
  | createBuffer _ _ _ _ _ _ => exact releases.elim
  | destroyPool _ => rfl
  | destroyBuffer _ => rfl

/-- Requests that do not resize a pool. -/
theorem RequestLog.resized_append_of_silent {log later : List Request} {pool : Handle}
    (silent : ∀ request ∈ later, request.resizes? pool = none) :
    resized (log ++ later) pool = resized log pool := by
  rw [resized, resized, List.filterMap_append, List.filterMap_eq_nil_iff.mpr silent,
    List.append_nil]

/-- A request that resizes a pool. -/
theorem RequestLog.resized_append_resizePool (log : List Request) (pool : Handle) (size : Int32) :
    resized (log ++ [.resizePool pool size]) pool = resized log pool ++ [size] := by
  have tells : (Request.resizePool pool size).resizes? pool = some size := if_pos rfl
  rw [resized, resized, List.filterMap_append, List.filterMap_cons_some tells, List.filterMap_nil]

/-- **A pool was resized as its capacity climbed** to what it is, from room for a pixel. -/
def RequestLog.Climbed (log : List Request) (pool : Handle) (capacity : Nat) : Prop :=
  ∃ first capacities, bytesPerPixel ≤ first ∧ Pool.Climbs first capacities capacity ∧
    resized log pool = capacities.map Int32.ofNat

/-- A pool that is not named was not resized. -/
theorem RequestLog.climbed_of_unnamed {log : List Request} {pool : Handle}
    (unnamed : ∀ request ∈ log, request.pool? ≠ some pool) {capacity : Nat}
    (pixel : bytesPerPixel ≤ capacity) : Climbed log pool capacity :=
  ⟨capacity, [], pixel, rfl, List.filterMap_eq_nil_iff.mpr fun request member =>
    Request.resizes?_eq_none (unnamed request member)⟩

/-- Requests that do not resize a pool leave what it has climbed. -/
theorem RequestLog.Climbed.append {log later : List Request} {pool : Handle} {capacity : Nat}
    (climbed : Climbed log pool capacity)
    (silent : ∀ request ∈ later, request.resizes? pool = none) :
    Climbed (log ++ later) pool capacity := by
  rw [Climbed, resized_append_of_silent silent]
  exact climbed

/-- **Storing lets a pool climb.** -/
theorem Pool.kept_climbed :
    Kept fun pool _ host => Climbed host.requests pool.handle pool.capacity where
  alike alike climbed := by
    rw [alike.requests]
    exact climbed
  backing _ climbed := climbed
  charge {pool images host frame fault} sized charges climbed := by
    obtain ⟨first, capacities, pixel, climbs, sizes⟩ := climbed
    rw [Host.requests_hold, handle_filled, capacity_filled]
    unfold announceGrant capacityFor
    split
    · exact ⟨first, capacities, pixel, climbs, sizes⟩
    · rename_i full
      have outgrows := outgrows_grownCapacity full charges.2.2.1 sized.used_le
      refine ⟨first, capacities ++ [grownCapacity pool.capacity frame.pixelLength], pixel,
        climbs.trans ⟨outgrows, rfl⟩, ?_⟩
      rw [Host.requests_log, Host.requests_send, resized_append_resizePool, sizes, List.map_append,
        List.map_singleton]
  abandon {pool images image host} _ climbed := by
    obtain ⟨sent, requests, releases⟩ := image.sends_destroy host
    rw [requests]
    exact climbed.append fun request member => (releases request member).resizes?_eq_none _

namespace Session

/-- **All pools of a session climb**, those that are gone included. -/
theorem lasting_climbed :
    Lasting fun session => session.Sound ∧
      ∀ pool, ∃ capacity, Climbed session.host.requests pool capacity where
  drop {session place theme} there holds := by
    obtain ⟨sound, climbed⟩ := holds
    refine ⟨lasting_sound.drop there sound, fun pool => ?_⟩
    obtain ⟨capacity, before⟩ := climbed pool
    obtain ⟨sent, requests, releases⟩ := theme.sends_destroy session.host
    rw [host_settle, requests]
    exact ⟨capacity, before.append fun request member =>
      (releases request member).resizes?_eq_none pool⟩
  fill {session place name size loader trouble theme} free loaded holds := by
    obtain ⟨sound, climbed⟩ := holds
    refine ⟨lasting_sound.fill free loaded sound, fun pool => ?_⟩
    have fills := Theme.load_fills sound.orderly loaded
    rw [host_settle]
    by_cases new : pool = theme.pool.handle
    · -- the pool is new, so that it starts with its first capacity and climbs while it is filled
      subst new
      refine ⟨_, (Theme.load_keeps Pool.kept_climbed loaded ?_).2⟩
      refine .append (climbed_of_unnamed (fun request member => sound.orderly.unnamed member)
        (Nat.le_max_right _ _)) fun request member => ?_
      rw [List.mem_singleton.mp member]
      rfl
    · obtain ⟨capacity, before⟩ := climbed pool
      obtain ⟨sent, requests, concerns⟩ := fills.serves.sends
      rw [requests]
      exact ⟨capacity, before.append fun request member =>
        Request.resizes?_eq_none ((concerns request member).pool?_ne new)⟩
  handOut {session place theme i j image} there found fresh holds := by
    obtain ⟨sound, climbed⟩ := holds
    refine ⟨lasting_sound.handOut there found fresh sound, fun pool => ?_⟩
    obtain ⟨capacity, before⟩ := climbed pool
    refine ⟨capacity, before.append fun request member => ?_⟩
    rw [List.mem_singleton.mp member]
    rfl

/-- **No pool is resized more than 29 times**, whatever themes are loaded, presented and dropped at one
host, and whatever fails. The sizes are positive and get larger and larger. -/
theorem resizes_at_most (actions : List Action) (pool : Handle) :
    let sizes := resized (run {} actions).host.requests pool
    sizes.length ≤ 29 ∧ (∀ word ∈ sizes, 0 < word.toInt) ∧
      (sizes.map Int32.toInt).Pairwise (· < ·) := by
  intro sizes
  have start : ∀ pool, ∃ capacity, Climbed (Session.host {}).requests pool capacity :=
    fun pool => ⟨bytesPerPixel, climbed_of_unnamed (List.forall_mem_nil _) (le_refl _)⟩
  obtain ⟨-, climbed⟩ := lasting_climbed.run ⟨sound_default, start⟩ actions
  -- a pool that was never made counts as one that has not climbed yet
  obtain ⟨capacity, first, capacities, pixel, climbs, same⟩ := climbed pool
  obtain ⟨few, positive, larger⟩ := climbs.words_increase pixel
  rw [← same] at few positive larger
  exact ⟨few, positive, (List.pairwise_cons.mp larger).2⟩

end Session

end CursorThemes
