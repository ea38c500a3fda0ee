import CursorThemes.Proofs.Storing

/-! # When a load fails

A load fails if its pool cannot be made, and for no other reason: whatever goes wrong later costs it
cursors only.

* **`Pool.create_cases`** has the two ways out of making a pool: a step to it fails, with an error
  (`Obstacles.Stops`), or none does. **`Theme.capacity_of_create`** finds the first capacity of a
  theme within what can be announced.
* **`Theme.asked_addDeliveries`** says that a loader is asked until it has nothing left.
* **`Theme.load_fails_iff`** is the result. -/

namespace CursorThemes

namespace Pool

/-- A pool is made unless the making is stopped. -/
theorem create_of_not_stops {size : Nat} (small : size ≤ maxPoolSize) {obstacles : Obstacles}
    (free : ∀ cause, ¬ obstacles.Stops cause) (host : Host) :
    create size obstacles host
      = (.ok (fresh (host.lastHandle + 1) (max size bytesPerPixel)),
          announceFresh (max size bytesPerPixel) host) := by
  rcases obstacles.stops_or_clear with ⟨cause, stops⟩ | ⟨faultless, accepted⟩
  · exact absurd stops (free cause)
  · exact create_of_clear small faultless accepted host

/-- **The two ways out of making a pool** that can be announced. -/
theorem create_cases {size : Nat} (small : size ≤ maxPoolSize) (obstacles : Obstacles)
    (host : Host) :
    (∃ cause, obstacles.Stops cause ∧
      create size obstacles host = (.error (.creation (.system cause)), host)) ∨
    (∀ cause, ¬ obstacles.Stops cause) ∧
      create size obstacles host
        = (.ok (fresh (host.lastHandle + 1) (max size bytesPerPixel)),
            announceFresh (max size bytesPerPixel) host) := by
  by_cases stopped : ∃ cause, obstacles.Stops cause
  · obtain ⟨cause, stops⟩ := stopped
    exact Or.inl ⟨cause, stops, create_of_stops small stops host⟩
  · have free := not_exists.mp stopped
    exact Or.inr ⟨free, create_of_not_stops small free host⟩

end Pool

namespace Theme

/-- A loader is asked for a sprite until it has nothing left. -/
theorem asked_addDeliveries (deliveries : List Delivery) (theme : Theme)
    (faults : Nat → Nat → Option SystemCall) (host : Host) :
    (addDeliveries faults theme host deliveries).2.1
      = List.replicate (deliveries.length + 1) .next := by
  induction deliveries generalizing theme host faults with
  | nil => rfl
  | cons delivery later ih =>
    rw [List.length_cons, List.replicate_succ, ← ih]
    rfl

/-- The first capacity of a theme holds a pixel and can be announced. -/
theorem capacity_of_create {size : UInt32} {obstacles : Obstacles} {host announced : Host}
    {pool : Pool}
    (made : Pool.create (firstCapacity size) obstacles host = (.ok pool, announced)) :
    4 ≤ pool.capacity ∧ pool.capacity ≤ 2147483647 := by
  rcases Pool.create_cases (firstCapacity_le size) obstacles host with ⟨_, _, failed⟩ | ⟨_, created⟩
  · rw [failed] at made
    cases made
  · rw [created] at made
    cases made
    exact ⟨Nat.le_max_right _ _, Pool.max_bytesPerPixel_le (firstCapacity_le size)⟩

/-- The first capacity of a theme is never refused for its size. -/
theorem create_ne_oversized (size : UInt32) (obstacles : Obstacles) (host : Host)
    (capacity : Nat) :
    (Pool.create (firstCapacity size) obstacles host).1 ≠ .error (.creation (.oversized capacity)) := by
  rcases Pool.create_cases (firstCapacity_le size) obstacles host with ⟨_, _, failed⟩ | ⟨_, created⟩
  · rw [failed]
    intro same
    cases same
  · rw [created]
    intro same
    cases same

/-- A load whose pool can be made comes to a theme and asks its loader for everything. -/
theorem load_of_not_stops {trouble : Trouble} (free : ∀ cause, ¬ trouble.creation.Stops cause)
    (name : Option String) (size : UInt32) (loader : Loader) (host : Host) :
    (∃ theme, (load name size loader trouble host).outcome = .ok theme) ∧
      (load name size loader trouble host).asked
        = .theme (name.getD standardName) size ::
          List.replicate ((loader (name.getD standardName) size).deliveries.length + 1) .next := by
  rw [load, Pool.create_of_not_stops (firstCapacity_le size) free host]
  exact ⟨⟨_, rfl⟩, congrArg _ (asked_addDeliveries _ _ _ _)⟩

/-- **A load fails exactly if its pool cannot be made**, and then with the error of the step that
failed; the loader is not asked for anything, and the host is as it was. For no size is the first
capacity one that cannot be announced. In every other case the load comes to a theme, whatever fails
while sprites and built-in cursors are stored, and it asks its loader once for the theme, of the
standard name if none is given, and then for sprites until there are none left. -/
theorem load_fails_iff (name : Option String) (size : UInt32) (loader : Loader)
    (trouble : Trouble) (host : Host) :
    let loading := load name size loader trouble host
    let requested := name.getD standardName
    (∀ error, loading.outcome = .error error ↔
      ∃ cause, trouble.creation.Stops cause ∧ error = .creation (.system cause)) ∧
    (∀ error, loading.outcome = .error error → loading.asked = [] ∧ loading.host = host) ∧
    ((∀ cause, ¬ trouble.creation.Stops cause) →
      (∃ theme, loading.outcome = .ok theme) ∧
      loading.asked = .theme requested size ::
        List.replicate ((loader requested size).deliveries.length + 1) .next) ∧
    (∀ obstacles pool announced,
      Pool.create (firstCapacity size) obstacles host = (.ok pool, announced) →
      4 ≤ pool.capacity ∧ pool.capacity ≤ 2147483647) ∧
    ∀ obstacles capacity,
      (Pool.create (firstCapacity size) obstacles host).1
        ≠ .error (.creation (.oversized capacity)) := by
  intro loading requested
  -- what a load does is settled by whether its pool can be made
  have outcome : (∃ cause, trouble.creation.Stops cause ∧
      loading = ⟨.error (.creation (.system cause)), [], host⟩) ∨
      (∀ cause, ¬ trouble.creation.Stops cause) ∧ ∃ theme, loading.outcome = .ok theme := by
    by_cases stopped : ∃ cause, trouble.creation.Stops cause
    · obtain ⟨cause, stops⟩ := stopped
      exact Or.inl ⟨cause, stops, load_of_stops stops name size loader host⟩
    · have free := not_exists.mp stopped
      exact Or.inr ⟨free, (load_of_not_stops free name size loader host).1⟩
  refine ⟨?_, ?_, fun free => load_of_not_stops free name size loader host,
    fun _ _ _ => capacity_of_create, fun obstacles => create_ne_oversized size obstacles host⟩
  · intro error
    rcases outcome with ⟨cause, stops, failed⟩ | ⟨free, theme, loaded⟩
    · rw [failed]
      constructor
      · intro same
        cases same
        exact ⟨cause, stops, rfl⟩
      · rintro ⟨other, alsoStops, rfl⟩
        rw [stops.unique alsoStops]
    · rw [loaded]
      constructor
      · intro same
        cases same
      · rintro ⟨cause, stops, -⟩
        exact absurd stops (free cause)
  · intro error failing
    rcases outcome with ⟨cause, stops, failed⟩ | ⟨free, theme, loaded⟩
    · rw [failed]
      exact ⟨rfl, rfl⟩
    · rw [loaded] at failing
      cases failing

end Theme

end CursorThemes
