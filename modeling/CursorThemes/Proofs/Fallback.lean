import CursorThemes.Proofs.Accounting
import CursorThemes.Proofs.Rasters
import Mathlib.Algebra.Order.Ring.Nat

/-! # Falling back on the built-in cursors

A theme that got no cursor from its loader is given the built-in ones, in the pool as it is by then:
bytes taken for cursors that were abandoned stay taken. What becomes of the built-in cursors
is a matter of room alone.

* **`Sprite.fitting`** takes sprites in order, each if it still fits into the largest pool, and
  **`Account.stored_enterAll_of_still`** says that a load does the same with sprites of one frame.
* **`Theme.load_falls_back`** is the result: when nothing fails, a theme has what could be stored of
  its loader, or the built-in cursors that fit.
* **`Theme.exists_load_without_cursors`** shows that there may be room for none of them. -/

namespace CursorThemes

/-! ## What fits into the largest pool -/

namespace Sprite

/-- The number of bytes that the frames of a sprite call for. -/
def weight (sprite : Sprite) : Nat := (sprite.frames.map Frame.pixelLength).sum

/-- **The sprites that fit** when `used` bytes of the largest pool are taken: one after the other, each
if there is room for it. -/
def fitting (used : Nat) : List Sprite → List Sprite
  | [] => []
  | sprite :: later =>
    if used + sprite.weight ≤ maxPoolSize then sprite :: fitting (used + sprite.weight) later
    else fitting used later

/-- What fits is a part of what is offered, in the same order. -/
theorem fitting_sublist (used : Nat) (sprites : List Sprite) :
    (fitting used sprites).Sublist sprites := by
  induction sprites generalizing used with
  | nil => exact List.Sublist.slnil
  | cons sprite later ih =>
    rw [fitting]
    split
    · exact (ih _).cons_cons sprite
    · exact (ih _).cons sprite

/-- All sprites fit exactly if there is room for them together. -/
theorem fitting_eq_self_iff {used : Nat} (inside : used ≤ maxPoolSize) {sprites : List Sprite} :
    fitting used sprites = sprites ↔ used + (sprites.map weight).sum ≤ maxPoolSize := by
  induction sprites generalizing used with
  | nil => exact ⟨fun _ => inside, fun _ => rfl⟩
  | cons sprite later ih =>
    rw [fitting, List.map_cons, List.sum_cons]
    by_cases fits : used + sprite.weight ≤ maxPoolSize
    · rw [if_pos fits, List.cons_inj_right, ih fits, Nat.add_assoc]
    · rw [if_neg fits]
      constructor
      · -- without its first sprite the list would be too short
        intro same
        have short := (fitting_sublist used later).length_le
        rw [same, List.length_cons] at short
        omega
      · intro room
        omega

/-- No sprite fits exactly if each is too large by itself. -/
theorem fitting_eq_nil_iff {used : Nat} {sprites : List Sprite} :
    fitting used sprites = [] ↔ ∀ sprite ∈ sprites, maxPoolSize < used + sprite.weight := by
  induction sprites with
  | nil => simp [fitting]
  | cons sprite later ih =>
    rw [fitting, List.forall_mem_cons]
    by_cases fits : used + sprite.weight ≤ maxPoolSize
    · rw [if_pos fits]
      exact ⟨fun none => absurd none (List.cons_ne_nil _ _), fun large => absurd fits (by omega)⟩
    · rw [if_neg fits, ih]
      exact ⟨fun large => ⟨by omega, large⟩, fun large => large.2⟩

/-- **A sprite that stands still**: it has a name, and a single frame, which can be stored. -/
structure Still (sprite : Sprite) : Prop where
  /-- There is a name. -/
  name_ne : sprite.name ≠ ""
  /-- There is one frame, and it can be stored. -/
  frame : ∃ frame, sprite.frames = [frame] ∧ frame.WellFormed

end Sprite

/-! ## Entering sprites when nothing fails -/

/-- When nothing fails, a frame is charged exactly if it fits into the largest pool. -/
theorem Pool.charges_iff_of_wellFormed {frame : Frame} (formed : frame.WellFormed)
    (capacity used : Nat) :
    Charges capacity used frame none ↔ used + frame.pixelLength ≤ maxPoolSize := by
  have positive : 0 < frame.pixelLength :=
    Nat.mul_pos (Nat.mul_pos formed.width_pos formed.height_pos) (by decide)
  constructor
  · rintro ⟨-, -, room, -⟩
    exact room
  · intro room
    exact ⟨formed, positive, room, Or.inr rfl⟩

namespace Account

/-- When nothing fails, a sprite that stands still is stored if it fits, and otherwise it leaves no
trace. -/
theorem receive_of_still {account : Account} {sprite : Sprite} (still : sprite.Still) :
    account.receive (fun _ => none) sprite
      = if account.used + sprite.weight ≤ maxPoolSize then
          { stored := account.stored ++ [sprite]
            used := account.used + sprite.weight
            capacity := Pool.capacityFor account.capacity account.used sprite.weight }
        else account := by
  obtain ⟨frame, frames, formed⟩ := still.frame
  have weight : sprite.weight = frame.pixelLength := by
    rw [Sprite.weight, frames, List.map_singleton, List.sum_singleton]
  rw [receive, if_neg (by simp [still.name_ne, frames]), frames, weight]
  by_cases room : account.used + frame.pixelLength ≤ maxPoolSize
  · have charges := (Pool.charges_iff_of_wellFormed formed account.capacity account.used).mpr room
    simp only [chargeAll, charge?, if_pos charges, if_pos room, if_true]
  · have denied := mt (Pool.charges_iff_of_wellFormed formed account.capacity account.used).mp room
    simp only [chargeAll, charge?, if_neg denied, if_neg room, if_false, Bool.false_eq_true]

/-- When nothing fails, of sprites that stand still those are stored that fit. -/
theorem stored_enterAll_of_still {sprites : List Sprite} {account : Account}
    (still : ∀ sprite ∈ sprites, sprite.Still)
    (nodup : (account.names ++ sprites.map Sprite.name).Nodup) :
    (account.enterAll (fun _ _ => none) sprites).stored
      = account.stored ++ Sprite.fitting account.used sprites := by
  induction sprites generalizing account with
  | nil => rw [enterAll, Sprite.fitting, List.append_nil]
  | cons sprite later ih =>
    have rest := fun other member => still other (List.mem_cons_of_mem sprite member)
    rw [List.map_cons, List.nodup_middle, List.nodup_cons] at nodup
    obtain ⟨untaken, others⟩ := nodup
    have free : sprite.name ∉ account.names := fun taken => untaken (List.mem_append_left _ taken)
    rw [enterAll, enter, if_neg free, receive_of_still (still sprite List.mem_cons_self),
      Sprite.fitting]
    by_cases room : account.used + sprite.weight ≤ maxPoolSize
    · rw [if_pos room, if_pos room, ih rest]
      · rw [List.append_assoc, List.singleton_append]
      · rw [names, List.map_append, List.append_assoc]
        exact List.nodup_middle.mpr (List.nodup_cons.mpr ⟨untaken, others⟩)
    · rw [if_neg room, if_neg room, ih rest others]

end Account

/-! ## The built-in cursors -/

namespace Builtin

/-- The frame of a transformed bitmap can be stored, unless the bitmap has no cell or too many. -/
theorem Bitmap.wellFormed_rasterize {bitmap : Bitmap} (wide : 0 < bitmap.width)
    (tall : 0 < bitmap.height) (small : bitmap.width * bitmap.height * bytesPerPixel ≤ maxPoolSize)
    (transform : Transform) : (bitmap.rasterize transform).WellFormed := by
  have sides := sides_rasterize wide tall (Nat.lt_of_le_of_lt small (by decide)) transform
  have area : (bitmap.rasterize transform).width.toNat * (bitmap.rasterize transform).height.toNat
      = bitmap.width * bitmap.height := by
    rw [← transform.mul_dimensions bitmap.width bitmap.height, ← sides]
  have length : (bitmap.rasterize transform).pixelLength
      = bitmap.width * bitmap.height * bytesPerPixel := by
    rw [Frame.pixelLength, area]
  have positive := Nat.mul_pos wide tall
  rw [← area] at positive
  refine ⟨Nat.pos_of_mul_pos_right positive, Nat.pos_of_mul_pos_left positive, ?_, ?_⟩
  · rw [length]
    exact small
  · rw [bitmap.length_pixels_rasterize, transform.mul_dimensions, length]

/-- Every drawing has cells, and few enough. -/
theorem bitmap_of_mem_entries :
    ∀ entry ∈ entries, entry.1 ≠ "" ∧ 0 < entry.2.1.width ∧ 0 < entry.2.1.height ∧
      entry.2.1.width * entry.2.1.height * bytesPerPixel ≤ maxPoolSize := by
  decide

/-- Every built-in cursor stands still. -/
theorem still_of_mem_sprites : ∀ sprite ∈ sprites, sprite.Still := by
  intro sprite member
  obtain ⟨⟨name, bitmap, transform⟩, entry, rfl⟩ := List.mem_map.mp member
  obtain ⟨named, wide, tall, small⟩ := bitmap_of_mem_entries _ entry
  exact ⟨named, _, rfl, Bitmap.wellFormed_rasterize wide tall small transform⟩

/-- No two built-in cursors have one name. -/
theorem nodup_names : (sprites.map Sprite.name).Nodup := by decide

/-- All built-in cursors together. -/
theorem sum_weight : (sprites.map Sprite.weight).sum = 12624 := by decide

/-- The smallest of the built-in cursors. -/
theorem exists_weight_add_le_iff {used room : Nat} :
    (∃ sprite ∈ sprites, used + sprite.weight ≤ room) ↔ used + 448 ≤ room := by
  have least : ∀ sprite ∈ sprites, 448 ≤ sprite.weight := by decide
  have reached : ∃ sprite ∈ sprites, sprite.weight = 448 := by decide
  constructor
  · rintro ⟨sprite, member, fits⟩
    have := least sprite member
    omega
  · intro fits
    obtain ⟨sprite, member, weight⟩ := reached
    exact ⟨sprite, member, by omega⟩

end Builtin

/-! ## Room for the built-in cursors -/

/-- What is related to a list member by member is related to a member of it. -/
theorem exists_mem_of_forall₂ {α β : Type} {rel : α → β → Prop} {left : List α} {right : List β}
    (related : List.Forall₂ rel left right) {a : α} (member : a ∈ left) :
    ∃ b ∈ right, rel a b := by
  obtain ⟨i, rfl⟩ := List.mem_iff_get.mp member
  exact ⟨_, List.get_mem right ⟨i, related.length_eq ▸ i.isLt⟩, related.get i.isLt _⟩

namespace Theme

/-- What sprites are charged in the course of a load fits into the largest pool. -/
theorem used_enterAll_le (size : UInt32) (faults : Nat → Nat → Option SystemCall)
    (sprites : List Sprite) :
    ((Account.opening size).enterAll faults sprites).used ≤ maxPoolSize := by
  have follows := addSprites_follows sprites (opened_follows standardName size {}) faults {}
  rw [← follows.meets.used]
  exact le_trans follows.meets.sized.used_le follows.meets.sized.capacity_le

/-- A load in which nothing fails comes to a theme that follows the account of its sprites. -/
theorem exists_load_follows (name : Option String) (size : UInt32) (loader : Loader) (host : Host) :
    let entered := (Account.opening size).enterAll (fun _ _ => none) (offered loader name size)
    ∃ theme, (load name size loader {} host).outcome = .ok theme ∧
      theme.Follows (entered.orBuiltins fun _ _ => none) ∧
      theme.name = (if entered.stored = [] then standardName else name.getD standardName) ∧
      theme.size = size := by
  have complete := @load_of_clear {} rfl rfl name size loader host
  simp only at complete
  have loaded := congrArg Loading.outcome complete
  exact ⟨_, loaded, load_follows loaded⟩

/-- **A load that stored nothing**, and in which nothing fails, comes to the built-in cursors that
fit. -/
theorem load_of_bare {name : Option String} {size : UInt32} {loader : Loader} (host : Host)
    (bare : ((Account.opening size).enterAll (fun _ _ => none) (offered loader name size)).stored
      = []) :
    ∃ theme, (load name size loader {} host).outcome = .ok theme ∧ theme.name = standardName ∧
      List.Forall₂ (Cursor.Shows theme.pool) theme.cursors
        (Sprite.fitting
          ((Account.opening size).enterAll (fun _ _ => none) (offered loader name size)).used
          Builtin.sprites) := by
  obtain ⟨theme, loaded, follows, named, -⟩ := exists_load_follows name size loader host
  refine ⟨theme, loaded, named.trans (if_pos bare), ?_⟩
  have shows := follows.shows
  rw [Account.orBuiltins, if_pos bare,
    Account.stored_enterAll_of_still Builtin.still_of_mem_sprites
      (by rw [Account.names, bare]; exact Builtin.nodup_names), bare, List.nil_append] at shows
  exact shows

/-- **What a load in which nothing fails comes to.** It has the sprites of the loader that could be
stored, if there are any. Otherwise it is the standard theme and has the built-in cursors, in the
order of their table and each with its one frame, as far as they fit beside what the abandoned
sprites were charged: at least one of them if 448 bytes are left, and all if 12624 bytes are. -/
theorem load_falls_back (name : Option String) (size : UInt32) (loader : Loader) (host : Host) :
    let entered := (Account.opening size).enterAll (fun _ _ => none) (offered loader name size)
    ∃ theme, (load name size loader {} host).outcome = .ok theme ∧
      (entered.stored ≠ [] →
        theme.name = name.getD standardName ∧ theme.cursors ≠ [] ∧
        List.Forall₂ (Cursor.Shows theme.pool) theme.cursors entered.stored) ∧
      (entered.stored = [] →
        theme.name = standardName ∧
        List.Forall₂ (Cursor.Shows theme.pool) theme.cursors
          (Sprite.fitting entered.used Builtin.sprites) ∧
        (∀ cursor ∈ theme.cursors, cursor.images.length = 1) ∧
        (theme.cursors ≠ [] ↔ entered.used + 448 ≤ maxPoolSize) ∧
        (List.Forall₂ (Cursor.Shows theme.pool) theme.cursors Builtin.sprites ↔
          entered.used + 12624 ≤ maxPoolSize)) := by
  intro entered
  by_cases bare : entered.stored = []
  · obtain ⟨theme, loaded, named, shows⟩ := load_of_bare host bare
    have part := Sprite.fitting_sublist entered.used Builtin.sprites
    refine ⟨theme, loaded, fun some => absurd bare some, fun _ => ⟨named, shows, ?_, ?_, ?_⟩⟩
    · -- a cursor has as many images as its sprite has frames
      intro cursor member
      obtain ⟨sprite, fits, shown⟩ := exists_mem_of_forall₂ shows member
      obtain ⟨frame, frames, -⟩ := (Builtin.still_of_mem_sprites sprite (part.subset fits)).frame
      rw [shown.images.length_eq, frames, List.length_singleton]
    · rw [Ne, ← List.length_eq_zero_iff, shows.length_eq, List.length_eq_zero_iff,
        Sprite.fitting_eq_nil_iff, ← Builtin.exists_weight_add_le_iff]
      simp only [not_forall, Nat.not_lt, exists_prop, entered]
    · rw [← Builtin.sum_weight, ← Sprite.fitting_eq_self_iff (used_enterAll_le size _ _)]
      constructor
      · intro all
        exact part.eq_of_length (shows.length_eq.symm.trans all.length_eq)
      · intro all
        rwa [all] at shows
  · obtain ⟨theme, loaded, follows, named, -⟩ := exists_load_follows name size loader host
    have shows := follows.shows
    rw [Account.orBuiltins, if_neg bare] at shows
    refine ⟨theme, loaded, fun _ => ⟨named.trans (if_neg bare), ?_, shows⟩,
      fun none => absurd none bare⟩
    intro empty
    rw [empty] at shows
    exact bare (List.forall₂_nil_left_iff.mp shows)

end Theme

/-! ## No room is left -/

/-- A clear frame. -/
def Frame.blank (width height : UInt32) : Frame :=
  ⟨width, height, 0, 0, 0, List.replicate (width.toNat * height.toNat * bytesPerPixel) 0⟩

/-- A clear frame can be stored unless it has no pixel or too many. -/
theorem Frame.wellFormed_blank {width height : UInt32} (wide : 0 < width.toNat)
    (tall : 0 < height.toNat)
    (small : width.toNat * height.toNat * bytesPerPixel ≤ maxPoolSize) :
    (blank width height).WellFormed :=
  ⟨wide, tall, small, List.length_replicate⟩

/-- A sprite whose last frame has no pixels, so that it cannot be stored. -/
def Sprite.spoiled (frames : List Frame) : Sprite := ⟨"a", frames ++ [.blank 0 0]⟩

/-- A spoiled sprite calls for the bytes of its other frames. -/
theorem Sprite.weight_spoiled (frames : List Frame) :
    (spoiled frames).weight = (frames.map Frame.pixelLength).sum := by
  have last : (Frame.blank 0 0).pixelLength = 0 := rfl
  simp only [weight, spoiled, List.map_append, List.map_singleton, List.sum_append,
    List.sum_singleton, last, Nat.add_zero]

namespace Account

/-- Frames before one that cannot be stored are charged if they fit, and that is all. -/
theorem chargeAll_of_spoiled {frames : List Frame} (account : Account)
    (formed : ∀ frame ∈ frames, frame.WellFormed)
    (room : account.used + (frames.map Frame.pixelLength).sum ≤ maxPoolSize) :
    (account.chargeAll (fun _ => none) (frames ++ [.blank 0 0])).1 = false ∧
      (account.chargeAll (fun _ => none) (frames ++ [.blank 0 0])).2.used
        = account.used + (frames.map Frame.pixelLength).sum := by
  induction frames generalizing account with
  | nil =>
    have denied : ¬ Pool.Charges account.capacity account.used (.blank 0 0) none :=
      fun charges => absurd charges.1.width_pos (by decide)
    simp only [List.nil_append, chargeAll, charge?, if_neg denied, List.map_nil, List.sum_nil,
      Nat.add_zero, and_self]
  | cons frame later ih =>
    rw [List.map_cons, List.sum_cons] at room ⊢
    have charges : Pool.Charges account.capacity account.used frame none :=
      (Pool.charges_iff_of_wellFormed (formed frame List.mem_cons_self) _ _).mpr (by omega)
    simp only [List.cons_append, chargeAll, charge?, if_pos charges]
    rw [← Nat.add_assoc]
    exact ih _ (fun other member => formed other (List.mem_cons_of_mem frame member))
      (by simp only; omega)

/-- Spoiled sprites are charged if they fit, and none is stored. -/
theorem enterAll_of_spoiled {rows : List (List Frame)} (account : Account)
    (bare : account.stored = []) (formed : ∀ row ∈ rows, ∀ frame ∈ row, frame.WellFormed)
    (room : account.used + (rows.map fun row => (Sprite.spoiled row).weight).sum ≤ maxPoolSize) :
    (account.enterAll (fun _ _ => none) (rows.map Sprite.spoiled)).stored = [] ∧
      (account.enterAll (fun _ _ => none) (rows.map Sprite.spoiled)).used
        = account.used + (rows.map fun row => (Sprite.spoiled row).weight).sum := by
  induction rows generalizing account with
  | nil => exact ⟨bare, rfl⟩
  | cons row later ih =>
    rw [List.map_cons, List.sum_cons] at room
    have weight := Sprite.weight_spoiled row
    obtain ⟨incomplete, used⟩ := chargeAll_of_spoiled account
      (formed row List.mem_cons_self) (by omega)
    have free : (Sprite.spoiled row).name ∉ account.names := by
      rw [names, bare]
      exact List.not_mem_nil
    have entered : account.enter (fun _ => none) (.spoiled row)
        = (account.chargeAll (fun _ => none) (row ++ [.blank 0 0])).2 := by
      rw [enter, if_neg free, receive, if_neg (by simp [Sprite.spoiled])]
      exact if_neg (by rw [Sprite.spoiled, incomplete]; exact Bool.false_ne_true)
    have rest := ih (account.enter (fun _ => none) (.spoiled row))
      (by rw [entered, stored_chargeAll, bare])
      (fun other member => formed other (List.mem_cons_of_mem row member))
      (by rw [entered, used]; omega)
    rw [List.map_cons, List.map_cons, List.sum_cons, enterAll]
    refine ⟨rest.1, rest.2.trans ?_⟩
    rw [entered, used, weight, Nat.add_assoc]

end Account

namespace Theme

/-- **A theme without cursors.** Sprites that are abandoned one after the other take all but three
bytes of the largest pool, and no built-in cursor fits into these. -/
theorem exists_load_without_cursors :
    let large := List.replicate 64 (Frame.blank 256 256)
    let last := List.replicate 63 (Frame.blank 256 256) ++ [.blank 65535 1]
    let sprites := (List.replicate 127 large ++ [last]).map Sprite.spoiled
    ∃ theme, (load (some "t") 1 (fun _ _ => .ofSprites sprites) {} {}).outcome = .ok theme ∧
      theme.name = "default" ∧ theme.cursors = [] := by
  intro large last sprites
  have square : (Frame.blank 256 256).WellFormed :=
    Frame.wellFormed_blank (by decide) (by decide) (by decide)
  have row : (Frame.blank 65535 1).WellFormed :=
    Frame.wellFormed_blank (by decide) (by decide) (by decide)
  have formed : ∀ frames ∈ List.replicate 127 large ++ [last], ∀ frame ∈ frames,
      frame.WellFormed := by
    intro frames listed frame member
    rcases List.mem_append.mp listed with early | late
    · rw [List.eq_of_mem_replicate early] at member
      exact List.eq_of_mem_replicate member ▸ square
    · rw [List.mem_singleton.mp late] at member
      rcases List.mem_append.mp member with first | final
      · exact List.eq_of_mem_replicate first ▸ square
      · exact List.mem_singleton.mp final ▸ row
  have length : (Frame.blank 256 256).pixelLength = 262144 ∧
      (Frame.blank 65535 1).pixelLength = 262140 := ⟨rfl, rfl⟩
  have charged :
      ((List.replicate 127 large ++ [last]).map fun row => (Sprite.spoiled row).weight).sum
        = 2147483644 := by
    simp only [large, last, List.map_append, List.map_replicate, List.map_singleton,
      Sprite.weight_spoiled, List.sum_append, List.sum_replicate_nat, List.sum_singleton, length]
  obtain ⟨bare, used⟩ := Account.enterAll_of_spoiled (.opening 1) rfl formed
    (by rw [charged]; decide)
  have offers : offered (fun _ _ => .ofSprites sprites) (some "t") 1 = sprites := by
    simp only [offered, Catalogue.ofSprites, List.map_map]
    exact List.map_id _
  have unstored : ((Account.opening 1).enterAll (fun _ _ => none)
      (offered (fun _ _ => .ofSprites sprites) (some "t") 1)).stored = [] := by
    rw [offers]
    exact bare
  obtain ⟨theme, loaded, named, shows⟩ := load_of_bare {} unstored
  refine ⟨theme, loaded, named, ?_⟩
  -- none of the built-in cursors has only three bytes
  have none : Sprite.fitting 2147483644 Builtin.sprites = [] := by decide
  rw [offers, used, charged] at shows
  exact List.forall₂_nil_right_iff.mp (none ▸ shows)

end Theme

end CursorThemes
