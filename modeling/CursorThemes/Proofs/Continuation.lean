import CursorThemes.Proofs.Accounting
import CursorThemes.Proofs.Renaming

/-! # Going on with a theme

What comes of adding sprites to a theme depends on the theme and the sprites. The host only takes
notes and counts holders. So a load that is given more sprites than another one does the same up
to where the other one ends, and goes on from there.

* **`Host.Uniform`** is a step whose results are the same on every host, and
  **`Theme.addDeliveries_eq_addSprites`** follows: what is logged in between does not matter.
* **`Theme.Extends`** relates a theme to what it becomes, and **`Theme.extends_addSprites`** says that
  adding sprites extends it: cursors come behind the others, and their pixels stay. -/

namespace CursorThemes

/-! ## The host does not matter -/

/-- **A step that comes to the same on every host**, but for the host itself. -/
def Host.Uniform {α β : Type} (step : Host → α × β × Host) : Prop :=
  ∀ first second, (step first).1 = (step second).1 ∧ (step first).2.1 = (step second).2.1

/-- The results of a uniform step on two hosts. -/
theorem Host.Uniform.exists_results {α β : Type} {step : Host → α × β × Host}
    (uniform : Host.Uniform step) (first second : Host) :
    ∃ outcome left after later,
      step first = (outcome, left, after) ∧ step second = (outcome, left, later) := by
  obtain ⟨outcome, left⟩ := uniform first second
  exact ⟨_, _, _, (step second).2.2, rfl, by rw [outcome, left]⟩

/-- A step that comes to the same under other names is uniform if its results have no names. -/
theorem Host.Parallel.uniform {α : Type} {held : Handle} {rename : α → α}
    {step : Host → α × Pool × Host} (parallel : Host.Parallel id held rename step step)
    (fixed : ∀ result, rename result = result) : Host.Uniform step := by
  intro first second
  obtain ⟨outcome, left, after, done, here, there, -, -⟩ := parallel first second
  rw [here, there, fixed, Pool.renamed_id]
  exact ⟨rfl, rfl⟩

/-- How a sprite is stored does not depend on the host. -/
theorem Cursor.store_uniform (pool : Pool) (sprite : Sprite) (faults : Nat → Option SystemCall) :
    Host.Uniform (store pool sprite faults) := by
  refine (store_parallel id pool sprite faults).uniform fun outcome => ?_
  cases outcome with
  | ok cursor => exact congrArg Except.ok cursor.renamed_id
  | error error => rfl

namespace Theme

/-- What a theme becomes by a sprite does not depend on the host. -/
theorem add_uniform (theme : Theme) (sprite : Sprite) (faults : Nat → Option SystemCall)
    (first second : Host) :
    (theme.add sprite faults first).1 = (theme.add sprite faults second).1 := by
  unfold add
  split
  · rfl
  · obtain ⟨outcome, left, afterFirst, afterSecond, here, there⟩ :=
      (Cursor.store_uniform theme.pool sprite faults).exists_results first second
    simp only [here, there]
    cases outcome with
    | error error => rfl
    | ok cursor => rfl

/-- **What a theme becomes by deliveries** is what it becomes by their sprites. -/
theorem addDeliveries_eq_addSprites (deliveries : List Delivery)
    (faults : Nat → Nat → Option SystemCall) (theme : Theme) (first second : Host) :
    (addDeliveries faults theme first deliveries).1
      = (addSprites faults theme second (deliveries.map Delivery.sprite)).1 := by
  induction deliveries generalizing theme first second faults with
  | nil => rfl
  | cons delivery later ih =>
    simp only [addDeliveries, List.map_cons, addSprites]
    rw [add_uniform theme delivery.sprite (faults 0) (first.logAll delivery.notices) second]
    exact ih _ _ _ _

/-! ## Further sprites -/

/-- **A theme extends another one**: it has further cursors behind those of the other, and its pool
extends the pool of the other. -/
structure Extends (before after : Theme) : Prop where
  /-- The cursors are still there, in front of all others. -/
  cursors : before.cursors <+: after.cursors
  /-- The pool was only extended. -/
  pool : before.pool.Extends after.pool

/-- A theme extends itself. -/
theorem Extends.refl (theme : Theme) : theme.Extends theme :=
  ⟨List.prefix_rfl, .refl theme.pool⟩

/-- Extending is transitive. -/
theorem Extends.trans {first second third : Theme} (lower : first.Extends second)
    (upper : second.Extends third) : first.Extends third :=
  ⟨lower.cursors.trans upper.cursors, lower.pool.trans upper.pool⟩

/-- The pixels of an image stay when a theme is extended. -/
theorem Extends.pixels?_eq {before after : Theme} (extended : before.Extends after) {image : Image}
    {frame : Frame} (shown : image.Shows before.pool frame) :
    after.pixels? image = before.pixels? image :=
  (extended.pool.bytes?_eq shown.pixels).trans shown.pixels.symm

/-- Adding a sprite extends a theme. -/
theorem extends_add {theme : Theme} {account : Account} (follows : theme.Follows account)
    (sprite : Sprite) (faults : Nat → Option SystemCall) (host : Host) :
    theme.Extends (theme.add sprite faults host).1 := by
  unfold add
  split
  · exact .refl theme
  · obtain ⟨outcome, left, after, stored, -, extended, -⟩ :=
      Cursor.store_follows sprite faults host follows.meets
    rw [stored]
    cases outcome with
    | error error => exact ⟨List.prefix_rfl, extended⟩
    | ok cursor => exact ⟨List.prefix_append _ _, extended⟩

/-- **Adding sprites extends a theme.** -/
theorem extends_addSprites (sprites : List Sprite) {theme : Theme} {account : Account}
    (follows : theme.Follows account) (faults : Nat → Nat → Option SystemCall) (host : Host) :
    theme.Extends (addSprites faults theme host sprites).1 := by
  induction sprites generalizing theme account host faults with
  | nil => exact .refl theme
  | cons sprite later ih =>
    exact (extends_add follows sprite (faults 0) host).trans
      (ih (add_follows follows (faults 0) sprite host) _ _)

/-- When nothing fails, adding sprites is adding the first ones and then the others. -/
theorem addSprites_append (first second : List Sprite) (theme : Theme) (host : Host) :
    addSprites (fun _ _ => none) theme host (first ++ second)
      = addSprites (fun _ _ => none) (addSprites (fun _ _ => none) theme host first).1
          (addSprites (fun _ _ => none) theme host first).2 second := by
  induction first generalizing theme host with
  | nil => rfl
  | cons sprite later ih => exact ih _ _

end Theme

end CursorThemes
