import CursorThemes.Xcursor.File

/-! # The nearest nominal size

A cursor file may hold its pictures at several nominal sizes. `Xcursor.nearest` keeps all pictures of
one of them: the one nearest to the size asked for, and of two that are as near the one that comes
first in the file. -/

namespace CursorThemes.Xcursor

/-- How far apart two sizes are. -/
def distance (a b : UInt32) : Nat := max a.toNat b.toNat - min a.toNat b.toNat

/-- The nearest to `size` among `best` and later sizes; the earlier of two that are as near. -/
def nearestFrom (size best : UInt32) : List UInt32 → UInt32
  | [] => best
  | nominal :: later =>
    nearestFrom size (if distance nominal size < distance best size then nominal else best) later

/-- The nominal size nearest to `size`, if there are any. -/
def nearestSize? (size : UInt32) : List UInt32 → Option UInt32
  | [] => none
  | nominal :: later => some (nearestFrom size nominal later)

/-- **The frames of the nominal size nearest to `size`**, in the order of the file. -/
def nearest (size : UInt32) (pictures : List Picture) : List Frame :=
  match nearestSize? size (pictures.map Picture.nominal) with
  | none => []
  | some nominal => (pictures.filter (·.nominal == nominal)).map Picture.frame

/-- No pictures have no nearest ones. -/
@[simp] theorem nearest_nil (size : UInt32) : nearest size [] = [] := rfl

/-- There is a nearest size exactly if there is any. -/
theorem nearestSize?_eq_none_iff {size : UInt32} {sizes : List UInt32} :
    nearestSize? size sizes = none ↔ sizes = [] := by
  cases sizes <;> simp [nearestSize?]

/-- The nearest size is one of the sizes. -/
theorem nearestFrom_mem (size best : UInt32) (later : List UInt32) :
    nearestFrom size best later ∈ best :: later := by
  induction later generalizing best with
  | nil => exact List.mem_singleton_self best
  | cons nominal later ih =>
    rw [nearestFrom]
    rcases List.mem_cons.mp (ih (if distance nominal size < distance best size then nominal
      else best)) with kept | other
    · rw [kept]
      split <;> simp
    · exact List.mem_cons_of_mem _ (List.mem_cons_of_mem _ other)

/-- **Which size is selected**: none is nearer to the size asked for, and those before it are less
near. -/
def Selects (size : UInt32) (sizes : List UInt32) (nominal : UInt32) : Prop :=
  ∃ before after, sizes = before ++ nominal :: after ∧
    (∀ other ∈ before, distance nominal size < distance other size) ∧
    ∀ other ∈ after, distance nominal size ≤ distance other size

/-- No size is nearer than the one that is selected. -/
theorem Selects.least {size nominal : UInt32} {sizes : List UInt32}
    (selected : Selects size sizes nominal) :
    ∀ other ∈ sizes, distance nominal size ≤ distance other size := by
  obtain ⟨before, after, rfl, less, least⟩ := selected
  intro other member
  rcases List.mem_append.mp member with early | late
  · exact Nat.le_of_lt (less other early)
  · rcases List.mem_cons.mp late with rfl | late
    · exact Nat.le_refl _
    · exact least other late

/-- The nearest of sizes is the one that is selected among them. -/
theorem selects_nearestFrom (size best : UInt32) (later : List UInt32) :
    Selects size (best :: later) (nearestFrom size best later) := by
  induction later generalizing best with
  | nil => exact ⟨[], [], rfl, by simp, by simp⟩
  | cons nominal later ih =>
    rw [nearestFrom]
    by_cases nearer : distance nominal size < distance best size
    · -- what is selected of the rest is at least as near as its first one, and so nearer than `best`
      rw [if_pos nearer]
      have less := (ih nominal).least nominal List.mem_cons_self
      obtain ⟨before, after, split, lessNear, least⟩ := ih nominal
      refine ⟨best :: before, after, by rw [split, List.cons_append], ?_, least⟩
      exact List.forall_mem_cons.mpr ⟨Nat.lt_of_le_of_lt less nearer, lessNear⟩
    · rw [if_neg nearer]
      obtain ⟨before, after, split, lessNear, least⟩ := ih best
      cases before with
      | nil =>
        -- `best` itself is selected, also if the next one is as near
        obtain ⟨same, rfl⟩ := List.cons.inj split
        refine ⟨[], nominal :: later, by rw [← same, List.nil_append], lessNear, ?_⟩
        exact List.forall_mem_cons.mpr ⟨same ▸ Nat.le_of_not_lt nearer, least⟩
      | cons first before =>
        obtain ⟨rfl, rest⟩ := List.cons.inj split
        have far := lessNear best List.mem_cons_self
        refine ⟨best :: nominal :: before, after, congrArg (best :: nominal :: ·) rest, ?_, least⟩
        refine List.forall_mem_cons.mpr ⟨far, List.forall_mem_cons.mpr ⟨by omega, ?_⟩⟩
        exact fun other member => lessNear other (List.mem_cons_of_mem best member)

/-- **The nearest size is the one that is selected.** -/
theorem selects_of_nearestSize? {size nominal : UInt32} {sizes : List UInt32}
    (found : nearestSize? size sizes = some nominal) : Selects size sizes nominal := by
  cases sizes with
  | nil => cases found
  | cons best later =>
    cases found
    exact selects_nearestFrom size best later

/-- The nearest pictures are those of the selected size. -/
theorem exists_selects_of_ne_nil (size : UInt32) {pictures : List Picture} (some : pictures ≠ []) :
    ∃ nominal, Selects size (pictures.map Picture.nominal) nominal ∧
      nearest size pictures = (pictures.filter (·.nominal == nominal)).map Picture.frame := by
  cases found : nearestSize? size (pictures.map Picture.nominal) with
  | none =>
    rw [nearestSize?_eq_none_iff, List.map_eq_nil_iff] at found
    exact absurd found some
  | some nominal => exact ⟨nominal, selects_of_nearestSize? found, by rw [nearest, found]⟩

/-- Only no pictures have no nearest ones. -/
theorem nearest_eq_nil_iff {size : UInt32} {pictures : List Picture} :
    nearest size pictures = [] ↔ pictures = [] := by
  constructor
  · intro none
    cases pictures with
    | nil => rfl
    | cons first later =>
      -- a picture of the nearest size is among those that are kept
      have found := nearestFrom_mem size first.nominal (later.map Picture.nominal)
      rw [← List.map_cons] at found
      obtain ⟨picture, listed, same⟩ := List.mem_map.mp found
      simp only [nearest, List.map_cons, nearestSize?, List.map_eq_nil_iff,
        List.filter_eq_nil_iff] at none
      exact absurd (beq_iff_eq.mpr same) (none picture listed)
  · rintro rfl
    exact nearest_nil size

end CursorThemes.Xcursor
