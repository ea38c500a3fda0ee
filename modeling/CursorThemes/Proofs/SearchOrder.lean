import CursorThemes.Proofs.Continuation
import CursorThemes.Proofs.CursorFiles
import CursorThemes.Proofs.Fallback

/-! # Which copy of a cursor wins

A cursor may lie below several search paths. A load meets all copies of all cursors, search path
by search path and name by name, and the first copy of a name that can be stored is the one that
the theme has.

* A **`Copy`** is a usable file below one of the search paths, and **`Xcursor.copies`** has all of
  them in order: **`Xcursor.mem_copies_iff`** and **`Xcursor.pairwise_copies`**.
* **`Copy.Storable`** says that a copy could be stored when it was reached, and **`Copy.Wins`** that it
  is the first one of its name.
* **`Account.winners`** goes through the copies as a load does, and **`Account.mem_winners_iff`**
  shows that it takes the copies that win.
* **`Theme.load_takes_first_copies`** is the result for a load from files. -/

namespace CursorThemes

/-! ## All copies below the search paths -/

/-- **A copy of a cursor**: the sprite in a usable file, and which search path the file lies
below. -/
structure Copy where
  /-- The index of the search path. -/
  index : Nat
  /-- The sprite in the file. -/
  sprite : Sprite
  deriving DecidableEq, Repr

namespace Copy

/-- The order in which copies are met: that of the search paths, and below one of them that of the
bytes of the names. -/
def Before (a b : Copy) : Prop :=
  a.index < b.index ∨
    a.index = b.index ∧ Text.toBytes a.sprite.name < Text.toBytes b.sprite.name

/-- Copies are met one after the other. -/
theorem Before.asymm {a b : Copy} (before : a.Before b) : ¬ b.Before a := by
  rintro (lower | ⟨same, above⟩)
  · rcases before with upper | ⟨same, -⟩ <;> omega
  · rcases before with upper | ⟨-, below⟩
    · omega
    · exact List.lt_asymm below above

/-- Of two copies of one cursor, the one below the earlier search path is met first. -/
theorem before_iff_of_name_eq {a b : Copy} (same : a.sprite.name = b.sprite.name) :
    a.Before b ↔ a.index < b.index := by
  constructor
  · rintro (lower | ⟨-, below⟩)
    · exact lower
    · rw [same] at below
      exact absurd below (List.lt_irrefl _)
  · exact Or.inl

end Copy

namespace Xcursor

/-- The copies below search paths, the first of which has the index `index`. -/
def copiesFrom (tree : FileTree) (theme : String) (size : UInt32) : Nat → List Path → List Copy
  | _, [] => []
  | index, searchPath :: later =>
    (spritesIn tree (cursorDirectory searchPath theme) size).map (Copy.mk index) ++
      copiesFrom tree theme size (index + 1) later

/-- **All copies of the cursors of a theme**, in the order in which they are met. -/
def copies (tree : FileTree) (searchPaths : List Path) (theme : String) (size : UInt32) :
    List Copy :=
  copiesFrom tree theme size 0 searchPaths

variable {tree : FileTree} {theme : String} {size : UInt32}

/-- A copy is a usable file below the search path of its index. -/
theorem mem_copiesFrom_iff {index : Nat} {searchPaths : List Path} {copy : Copy} :
    copy ∈ copiesFrom tree theme size index searchPaths ↔
      ∃ offset searchPath, copy.index = index + offset ∧ searchPaths[offset]? = some searchPath ∧
        IsUsable tree (cursorDirectory searchPath theme) size copy.sprite := by
  induction searchPaths generalizing index with
  | nil => simp [copiesFrom]
  | cons first later ih =>
    rw [copiesFrom, List.mem_append, ih, List.mem_map]
    simp only [mem_spritesIn_iff]
    constructor
    · rintro (⟨sprite, usable, rfl⟩ | ⟨offset, searchPath, place, found, usable⟩)
      · exact ⟨0, first, rfl, rfl, usable⟩
      · exact ⟨offset + 1, searchPath, by omega, found, usable⟩
    · rintro ⟨offset, searchPath, place, found, usable⟩
      cases offset with
      | zero =>
        cases found
        exact Or.inl ⟨copy.sprite, usable, by rw [← Nat.add_zero index, ← place]⟩
      | succ offset => exact Or.inr ⟨offset, searchPath, by omega, found, usable⟩

/-- Copies come in the order in which they are met. -/
theorem pairwise_copiesFrom (tree : FileTree) (theme : String) (size : UInt32) (index : Nat)
    (searchPaths : List Path) :
    (copiesFrom tree theme size index searchPaths).Pairwise Copy.Before := by
  induction searchPaths generalizing index with
  | nil => exact List.Pairwise.nil
  | cons first later ih =>
    rw [copiesFrom, List.pairwise_append]
    refine ⟨?_, ih (index + 1), ?_⟩
    · rw [List.pairwise_map]
      exact (pairwise_spritesIn tree (cursorDirectory first theme) size).imp
        fun below => Or.inr ⟨rfl, below⟩
    · intro a isFirst b isLater
      obtain ⟨sprite, -, rfl⟩ := List.mem_map.mp isFirst
      obtain ⟨offset, -, place, -, -⟩ := mem_copiesFrom_iff.mp isLater
      exact Or.inl (by simp only [place]; omega)

/-- **A copy is a usable file** below one of the search paths. -/
theorem mem_copies_iff {searchPaths : List Path} {copy : Copy} :
    copy ∈ copies tree searchPaths theme size ↔
      ∃ searchPath, searchPaths[copy.index]? = some searchPath ∧
        IsUsable tree (cursorDirectory searchPath theme) size copy.sprite := by
  rw [copies, mem_copiesFrom_iff]
  constructor
  · rintro ⟨offset, searchPath, place, found, usable⟩
    rw [Nat.zero_add] at place
    exact ⟨searchPath, place ▸ found, usable⟩
  · rintro ⟨searchPath, found, usable⟩
    exact ⟨copy.index, searchPath, (Nat.zero_add _).symm, found, usable⟩

/-- **Copies come in the order in which they are met.** -/
theorem pairwise_copies (tree : FileTree) (searchPaths : List Path) (theme : String)
    (size : UInt32) : (copies tree searchPaths theme size).Pairwise Copy.Before :=
  pairwise_copiesFrom tree theme size 0 searchPaths

/-- Two search paths with a cursor of one name, of which the first is no cursor file. -/
def brokenCopyFirst : FileTree where
  nodes :=
    [(["p"].map Text.toBytes, .directory), (["p", "t"].map Text.toBytes, .directory),
      (["p", "t", "cursors"].map Text.toBytes, .directory),
      (["p", "t", "cursors", "a"].map Text.toBytes, .file []),
      (["q"].map Text.toBytes, .directory), (["q", "t"].map Text.toBytes, .directory),
      (["q", "t", "cursors"].map Text.toBytes, .directory),
      (["q", "t", "cursors", "a"].map Text.toBytes, .file (encode [⟨1, .dot 7⟩]))]
  nodup := by decide

/-- There is one copy in this tree, below the second search path. -/
theorem copies_brokenCopyFirst :
    copies brokenCopyFirst [.ofString "p", .ofString "q"] "t" 1 = [⟨1, "a", [.dot 7]⟩] := by
  have unlinked : brokenCopyFirst.Unlinked := FileTree.unlinked_of_nodes (by decide)
  have first : spritesIn brokenCopyFirst (cursorDirectory (.ofString "p") "t") 1 = [] := by
    simp only [spritesIn, listDirectory, loadFile, FileTree.read,
      FileTree.resolve_of_unlinked unlinked]
    decide +kernel
  have second : spritesIn brokenCopyFirst (cursorDirectory (.ofString "q") "t") 1
      = [⟨"a", [.dot 7]⟩] := by
    simp only [spritesIn, listDirectory, loadFile, FileTree.read,
      FileTree.resolve_of_unlinked unlinked]
    decide +kernel
  simp only [copies, copiesFrom, first, second]
  rfl

/-- The sprites of all copies are those of one search path after the other. -/
theorem map_sprite_copiesFrom (index : Nat) (searchPaths : List Path) :
    (copiesFrom tree theme size index searchPaths).map Copy.sprite
      = searchPaths.flatMap fun searchPath =>
          spritesIn tree (cursorDirectory searchPath theme) size := by
  induction searchPaths generalizing index with
  | nil => rfl
  | cons first later ih =>
    rw [copiesFrom, List.map_append, ih, List.map_map, List.flatMap_cons]
    congr 1
    exact List.map_id _

/-- What is delivered from listed files are the sprites that they yield. -/
theorem map_sprite_deliveries (pending : List Notice) (files : List CursorFile) :
    (deliveries tree size pending files).1.map Delivery.sprite
      = files.filterMap fun file => (loadFile tree size file).toOption := by
  induction files generalizing pending with
  | nil => rfl
  | cons file later ih =>
    rw [deliveries, List.filterMap_cons]
    cases loaded : loadFile tree size file with
    | ok sprite => simp only [List.map_cons, ih, Except.toOption]
    | error failure => simp only [ih, Except.toOption]

/-- **The loader offers the sprites of all copies**, in order. -/
theorem offered_loader {searchPaths : List Path} (named : isThemeName theme = true) :
    Theme.offered (loader tree searchPaths) (some theme) size
      = (copies tree searchPaths theme size).map Copy.sprite := by
  rw [copies, map_sprite_copiesFrom, Theme.offered, Option.getD_some, loader,
    map_sprite_deliveries, list, if_pos named, Listing.concat, List.filterMap_flatMap,
    List.flatMap_map]
  rfl

end Xcursor

/-! ## Copies that can be stored -/

namespace Account

/-- The account after copies were met, when nothing fails. -/
def after (account : Account) (copies : List Copy) : Account :=
  account.enterAll (fun _ _ => none) (copies.map Copy.sprite)

/-- Whether all frames of a sprite can be charged, when nothing fails. -/
def Fits (account : Account) (sprite : Sprite) : Prop :=
  (account.chargeAll (fun _ => none) sprite.frames).1 = true

instance (account : Account) (sprite : Sprite) : Decidable (account.Fits sprite) :=
  inferInstanceAs (Decidable (_ = true))

/-- A sprite with a name and a frame is stored exactly if its name is free and it fits. -/
theorem stored_enter {account : Account} {sprite : Sprite} (named : sprite.name ≠ "")
    (framed : sprite.frames ≠ []) :
    (account.enter (fun _ => none) sprite).stored
      = if sprite.name ∉ account.names ∧ account.Fits sprite then account.stored ++ [sprite]
        else account.stored := by
  by_cases taken : sprite.name ∈ account.names
  · rw [enter, if_pos taken, if_neg fun free => free.1 taken]
  · rw [enter, if_neg taken, receive, if_neg (by simp [named, framed])]
    by_cases fits : account.Fits sprite
    · rw [if_pos ⟨taken, fits⟩]
      simp only [if_pos (show (account.chargeAll (fun _ => none) sprite.frames).1 = true from fits)]
    · rw [if_neg fun free => fits free.2]
      simp only [if_neg (show ¬ (account.chargeAll (fun _ => none) sprite.frames).1 = true from fits),
        stored_chargeAll]

/-- The copies that are stored, of those that are met one after the other. -/
def winners (account : Account) : List Copy → List Copy
  | [] => []
  | copy :: later =>
    let rest := winners (account.enter (fun _ => none) copy.sprite) later
    if copy.sprite.name ∉ account.names ∧ account.Fits copy.sprite then copy :: rest else rest

/-- The winners come in the order in which they are met. -/
theorem winners_sublist (account : Account) (copies : List Copy) :
    (account.winners copies).Sublist copies := by
  induction copies generalizing account with
  | nil => exact List.Sublist.slnil
  | cons copy later ih =>
    rw [winners]
    split
    · exact (ih _).cons_cons copy
    · exact (ih _).cons copy

end Account

/-- Every copy has a name and a frame. -/
def Substantial (copies : List Copy) : Prop :=
  ∀ copy ∈ copies, copy.sprite.name ≠ "" ∧ copy.sprite.frames ≠ []

/-- The first copy is reached after no other, and every later one after the first. -/
theorem exists_reached_cons_iff {first copy : Copy} {later : List Copy}
    {holds : List Copy → Prop} :
    (∃ earlier, earlier ++ [copy] <+: first :: later ∧ holds earlier) ↔
      copy = first ∧ holds [] ∨
        ∃ earlier, earlier ++ [copy] <+: later ∧ holds (first :: earlier) := by
  constructor
  · rintro ⟨earlier, reached, held⟩
    cases earlier with
    | nil => exact Or.inl ⟨(List.cons_prefix_cons.mp reached).1, held⟩
    | cons other earlier =>
      obtain ⟨rfl, inLater⟩ := List.cons_prefix_cons.mp reached
      exact Or.inr ⟨earlier, inLater, held⟩
  · rintro (⟨rfl, held⟩ | ⟨earlier, reached, held⟩)
    · exact ⟨[], List.prefix_append [copy] later, held⟩
    · exact ⟨first :: earlier, List.cons_prefix_cons.mpr ⟨rfl, reached⟩, held⟩

namespace Account

/-- What is stored of copies are the sprites of the winners. -/
theorem stored_after {account : Account} {copies : List Copy} (substantial : Substantial copies) :
    (account.after copies).stored
      = account.stored ++ (account.winners copies).map Copy.sprite := by
  induction copies generalizing account with
  | nil => exact (List.append_nil _).symm
  | cons copy later ih =>
    obtain ⟨⟨named, framed⟩, rest⟩ := List.forall_mem_cons.mp substantial
    rw [after, List.map_cons, enterAll, ← after, ih rest, stored_enter named framed, winners]
    split
    · rw [List.map_cons, List.append_assoc, List.singleton_append]
    · rfl

/-- A copy wins exactly if its name is free when it is reached, and it fits. -/
theorem mem_winners_iff_reached {account : Account} {copies : List Copy} {copy : Copy} :
    copy ∈ account.winners copies ↔
      ∃ earlier, earlier ++ [copy] <+: copies ∧
        copy.sprite.name ∉ (account.after earlier).names ∧
        (account.after earlier).Fits copy.sprite := by
  -- the account is the one that the first of the copies meets
  induction copies generalizing account with
  | nil => simp [winners]
  | cons first later ih =>
    rw [exists_reached_cons_iff, winners]
    by_cases stored : first.sprite.name ∉ account.names ∧ account.Fits first.sprite
    · rw [if_pos stored, List.mem_cons, ih]
      constructor
      · rintro (rfl | rest)
        · exact Or.inl ⟨rfl, stored⟩
        · exact Or.inr rest
      · rintro (⟨rfl, -⟩ | rest)
        · exact Or.inl rfl
        · exact Or.inr rest
    · rw [if_neg stored, ih]
      constructor
      · exact Or.inr
      · rintro (⟨rfl, now⟩ | rest)
        · exact absurd now stored
        · exact rest

/-- A name is taken exactly if it was before, or a copy of it could be stored when it was
reached. -/
theorem mem_names_after_iff {account : Account} {copies : List Copy}
    (substantial : Substantial copies) {name : String} :
    name ∈ (account.after copies).names ↔
      name ∈ account.names ∨
        ∃ copy, copy.sprite.name = name ∧ ∃ earlier, earlier ++ [copy] <+: copies ∧
          (account.after earlier).Fits copy.sprite := by
  induction copies generalizing account with
  | nil => simp [after, enterAll]
  | cons first later ih =>
    obtain ⟨⟨named, framed⟩, rest⟩ := List.forall_mem_cons.mp substantial
    -- the first copy takes its name unless it does not fit, or the name is taken already
    have step : name ∈ (account.enter (fun _ => none) first.sprite).names ↔
        name ∈ account.names ∨ first.sprite.name = name ∧ account.Fits first.sprite := by
      rw [names, stored_enter named framed]
      by_cases stored : first.sprite.name ∉ account.names ∧ account.Fits first.sprite
      · rw [if_pos stored, List.map_append, List.mem_append, List.map_singleton,
          List.mem_singleton]
        exact or_congr_right ⟨fun same => ⟨same.symm, stored.2⟩, fun same => same.1.symm⟩
      · rw [if_neg stored]
        refine (or_iff_left_of_imp ?_).symm
        rintro ⟨rfl, fits⟩
        exact not_not.mp fun free => stored ⟨free, fits⟩
    rw [after, List.map_cons, enterAll, ← after, ih rest, step, or_assoc]
    simp only [exists_reached_cons_iff]
    refine or_congr_right ?_
    constructor
    · rintro (⟨same, fits⟩ | ⟨copy, same, reached⟩)
      · exact ⟨first, same, Or.inl ⟨rfl, fits⟩⟩
      · exact ⟨copy, same, Or.inr reached⟩
    · rintro ⟨copy, same, ⟨rfl, fits⟩ | reached⟩
      · exact Or.inl ⟨same, fits⟩
      · exact Or.inr ⟨copy, same, reached⟩

end Account

/-! ## The copies that win -/

namespace Copy

/-- **A copy that could be stored** when a load of the size reached it, after all copies before
it. -/
def Storable (size : UInt32) (copies : List Copy) (copy : Copy) : Prop :=
  ∃ earlier, earlier ++ [copy] <+: copies ∧
    ((Account.opening size).after earlier).Fits copy.sprite

/-- **A copy that wins**: it could be stored, and no copy of the name below an earlier search path
could. -/
structure Wins (size : UInt32) (copies : List Copy) (copy : Copy) : Prop where
  /-- The copy could be stored. -/
  storable : copy.Storable size copies
  /-- No copy below an earlier search path could. -/
  first : ∀ other : Copy, other.Storable size copies → other.sprite.name = copy.sprite.name →
    copy.index ≤ other.index

variable {size : UInt32} {copies : List Copy}

/-- A copy that could be stored is one of the copies. -/
theorem Storable.mem {copy : Copy} (storable : copy.Storable size copies) : copy ∈ copies := by
  obtain ⟨earlier, reached, -⟩ := storable
  exact reached.subset (List.mem_append_right _ List.mem_cons_self)

/-- Copies that another one is reached after are met before it. -/
theorem before_of_mem (ordered : copies.Pairwise Before) {copy other : Copy} {earlier : List Copy}
    (reached : earlier ++ [copy] <+: copies) (member : other ∈ earlier) : other.Before copy := by
  have apart := ordered.sublist reached.sublist
  exact (List.pairwise_append.mp apart).2.2 other member copy List.mem_cons_self

/-- A copy that is met before another one is among those that the other is reached after. -/
theorem reached_of_before (ordered : copies.Pairwise Before) {copy other : Copy}
    {earlier others : List Copy} (reached : earlier ++ [copy] <+: copies)
    (reachedToo : others ++ [other] <+: copies) (before : other.Before copy) :
    others ++ [other] <+: earlier := by
  have different : ∀ {first second : List Copy}, first ++ [copy] ≠ second ++ [other] := by
    intro first second same
    obtain ⟨-, same⟩ := List.append_inj' same rfl
    cases same
    exact before.asymm before
  rcases List.prefix_or_prefix_of_prefix reachedToo reached with shorter | longer
  · rcases List.prefix_concat_iff.mp shorter with same | inside
    · exact absurd same.symm different
    · exact inside
  · rcases List.prefix_concat_iff.mp longer with same | inside
    · exact absurd same different
    · -- then the copy would be met before the other one
      have member := inside.subset (List.mem_append_right earlier List.mem_cons_self)
      exact absurd before (before_of_mem ordered reachedToo member).asymm

end Copy

/-- **A load takes the copies that win.** -/
theorem Account.mem_winners_iff {size : UInt32} {copies : List Copy}
    (ordered : copies.Pairwise Copy.Before) (substantial : Substantial copies) {copy : Copy} :
    copy ∈ (Account.opening size).winners copies ↔ copy.Wins size copies := by
  have part : ∀ {earlier : List Copy}, earlier ++ [copy] <+: copies → Substantial earlier :=
    fun reached other member =>
      substantial other (reached.subset (List.mem_append_left _ member))
  rw [mem_winners_iff_reached]
  constructor
  · rintro ⟨earlier, reached, free, fits⟩
    refine ⟨⟨earlier, reached, fits⟩, ?_⟩
    rintro other ⟨others, reachedToo, fitsToo⟩ same
    by_contra lower
    -- an earlier copy that could be stored would have taken the name
    have inside := Copy.reached_of_before ordered reached reachedToo (Or.inl (Nat.lt_of_not_le lower))
    exact free ((mem_names_after_iff (part reached)).mpr
      (Or.inr ⟨other, same, others, inside, fitsToo⟩))
  · rintro ⟨⟨earlier, reached, fits⟩, first⟩
    refine ⟨earlier, reached, ?_, fits⟩
    intro taken
    -- then a copy below an earlier search path took the name, and this one would not be the first
    rcases (mem_names_after_iff (part reached)).mp taken with early | ⟨other, same, others, inside, fitsThen⟩
    · cases early
    · have fitsToo : other.Storable size copies :=
        ⟨others, inside.trans ((List.prefix_append _ _).trans reached), fitsThen⟩
      have before := Copy.before_of_mem ordered reached
        (inside.subset (List.mem_append_right others List.mem_cons_self))
      have lower := (Copy.before_iff_of_name_eq same).mp before
      exact absurd (first other fitsToo same) (Nat.not_le_of_lt lower)

/-! ## The cursors of a theme that copies were loaded into -/

namespace Theme

variable {size : UInt32} {copies : List Copy} {theme : Theme}

/-- A theme that copies were loaded into has a cursor of every name of which a copy could be
stored. -/
theorem Follows.isSome_find?_iff_storable (substantial : Substantial copies)
    (follows : theme.Follows ((Account.opening size).after copies)) (wanted : String) :
    (theme.find? wanted).isSome ↔
      ∃ copy : Copy, copy.Storable size copies ∧ copy.sprite.name = wanted := by
  rw [follows.isSome_find?_iff, Account.mem_names_after_iff substantial]
  constructor
  · rintro (early | ⟨copy, same, reached⟩)
    · cases early
    · exact ⟨copy, reached, same⟩
  · rintro ⟨copy, reached, same⟩
    exact Or.inr ⟨copy, same, reached⟩

/-- The cursors of a theme that copies were loaded into are those of the winners, in order. -/
theorem Follows.shows_winners (substantial : Substantial copies)
    (follows : theme.Follows ((Account.opening size).after copies)) :
    List.Forall₂ (Cursor.Shows theme.pool) theme.cursors
      (((Account.opening size).winners copies).map Copy.sprite) := by
  have shows := follows.shows
  rw [Account.stored_after substantial] at shows
  exact shows

/-- The cursor of a name is made from the copy that wins. -/
theorem Follows.exists_wins_of_find? (ordered : copies.Pairwise Copy.Before)
    (substantial : Substantial copies)
    (follows : theme.Follows ((Account.opening size).after copies)) {wanted : String}
    {cursor : Cursor} (found : theme.find? wanted = some cursor) :
    ∃ copy : Copy, copy.Wins size copies ∧ copy.sprite.name = wanted ∧
      cursor.Shows theme.pool copy.sprite := by
  obtain ⟨sprite, member, shown⟩ :=
    exists_mem_of_forall₂ (follows.shows_winners substantial) (mem_of_find? found)
  obtain ⟨copy, wins, rfl⟩ := List.mem_map.mp member
  exact ⟨copy, (Account.mem_winners_iff ordered substantial).mp wins,
    shown.name.symm.trans (name_of_find? found), shown⟩

/-! ## A load from files -/

/-- When nothing fails, entering sprites is entering the first ones and then the others. -/
theorem enterAll_append (first second : List Sprite) (account : Account) :
    account.enterAll (fun _ _ => none) (first ++ second)
      = (account.enterAll (fun _ _ => none) first).enterAll (fun _ _ => none) second := by
  induction first generalizing account with
  | nil => rfl
  | cons sprite later ih => exact ih _

/-- A load that stored something, and in which nothing fails, adds the sprites of its loader. -/
theorem load_of_stored {name : Option String} {size : UInt32} {loader : Loader}
    (stored : ((Account.opening size).enterAll (fun _ _ => none) (offered loader name size)).stored
      ≠ []) (host : Host) :
    (load name size loader {} host).outcome
      = .ok (addSprites (fun _ _ => none) (opened (name.getD standardName) size host) host
          (offered loader name size)).1 := by
  have complete := @load_of_clear {} rfl rfl name size loader host
  simp only at complete
  have added := addDeliveries_follows (loader (name.getD standardName) size).deliveries
    (opened_follows (name.getD standardName) size host) (fun _ _ => none)
    (announceOpened size (loader (name.getD standardName) size) host)
  rw [complete, orBuiltins, if_neg (mt added.isEmpty_iff.mp stored), addDeliveries_eq_addSprites]
  rfl

/-- What was stored stays stored when further sprites are entered. -/
theorem stored_enterAll_ne_nil {account : Account} (stored : account.stored ≠ [])
    (more : List Sprite) : (account.enterAll (fun _ _ => none) more).stored ≠ [] := by
  obtain ⟨chosen, -, kept⟩ := Account.stored_enterAll (fun _ _ => none) account more
  rw [kept]
  exact fun none => stored (List.append_eq_nil_iff.mp none).1

/-- Further cursors have names that the theme does not have, if no name is there twice. -/
theorem find?_eq_none_of_nodup {theme : Theme} {further : List Cursor}
    (nodup : ((theme.cursors ++ further).map Cursor.name).Nodup) :
    ∀ cursor ∈ further, theme.find? cursor.name = none := by
  intro cursor member
  rw [List.map_append] at nodup
  rw [find?, List.find?_eq_none]
  intro other taken
  have apart := (List.disjoint_of_nodup_append nodup) (List.mem_map_of_mem taken)
  rw [beq_iff_eq]
  intro same
  exact apart (same ▸ List.mem_map_of_mem member)

/-- **A loader that offers more** makes a theme that goes on from the one without: the first cursors
are the same, with the same pixels, and the further ones have further names. -/
theorem load_of_offered_append {name : Option String} {size : UInt32} {loader larger : Loader}
    {more : List Sprite} (goesOn : offered larger name size = offered loader name size ++ more)
    (stored : ((Account.opening size).enterAll (fun _ _ => none) (offered loader name size)).stored
      ≠ []) {host : Host} {theme : Theme}
    (loaded : (load name size loader {} host).outcome = .ok theme) :
    ∃ extended further, (load name size larger {} host).outcome = .ok extended ∧
      extended.cursors = theme.cursors ++ further ∧
      (∀ cursor ∈ theme.cursors, ∀ image ∈ cursor.images,
        (theme.pixels? image).isSome ∧ extended.pixels? image = theme.pixels? image) ∧
      ∀ cursor ∈ further, theme.find? cursor.name = none := by
  have same : (addSprites (fun _ _ => none) (opened (name.getD standardName) size host) host
      (offered loader name size)).1 = theme :=
    Except.ok.inj ((load_of_stored stored host).symm.trans loaded)
  have follows : theme.Follows
      ((Account.opening size).enterAll (fun _ _ => none) (offered loader name size)) :=
    same ▸ addSprites_follows _ (opened_follows (name.getD standardName) size host) _ _
  have storedMore : ((Account.opening size).enterAll (fun _ _ => none)
      (offered larger name size)).stored ≠ [] := by
    rw [goesOn, enterAll_append]
    exact stored_enterAll_ne_nil stored more
  have loadedMore := load_of_stored storedMore host
  rw [goesOn, addSprites_append, same] at loadedMore
  have extended := extends_addSprites more follows (fun _ _ => none)
  have followsMore := addSprites_follows more follows (fun _ _ => none)
  obtain ⟨further, split⟩ := (extended _).cursors
  refine ⟨_, further, loadedMore, split.symm, ?_, ?_⟩
  · intro cursor member image inside
    obtain ⟨sprite, -, shown⟩ := exists_mem_of_forall₂ follows.shows member
    obtain ⟨frame, -, shows⟩ := exists_mem_of_forall₂ shown.images inside
    refine ⟨?_, (extended _).pixels?_eq shows⟩
    rw [pixels?, shows.pixels]
    rfl
  · have tidy := Account.tidy_enterAll (Account.tidy_enterAll (Account.tidy_opening size)
      (fun _ _ => none) (offered loader name size)) (fun _ _ => none) more
    have nodup := tidy.nodup
    rw [← (followsMore _).names_eq, ← split] at nodup
    exact find?_eq_none_of_nodup nodup

/-- With further search paths, the loader offers the same first and then goes on. -/
theorem exists_offered_loader_append {tree : FileTree} {searchPaths : List Path} {name : String}
    {size : UInt32} (named : Xcursor.isThemeName name = true) (further : List Path) :
    ∃ more, offered (Xcursor.loader tree (searchPaths ++ further)) (some name) size
      = offered (Xcursor.loader tree searchPaths) (some name) size ++ more := by
  rw [Xcursor.offered_loader named, Xcursor.offered_loader named, Xcursor.copies, Xcursor.copies,
    Xcursor.map_sprite_copiesFrom, Xcursor.map_sprite_copiesFrom, List.flatMap_append]
  exact ⟨_, rfl⟩

/-- **The first copies of the cursors are taken.** A load from files in which nothing fails, and in
which a file could be stored, comes to a theme that has a cursor of a name exactly if a copy of it
could be stored when it was reached. The cursor is made from the first such copy, in the order of
the search paths, and the cursors come in the order of their copies. Further search paths change
none of the cursors, their pixels and their order, and only add cursors of other names
behind them. -/
theorem load_takes_first_copies {tree : FileTree} {searchPaths : List Path} {name : String}
    {size : UInt32} (named : Xcursor.isThemeName name = true)
    (stored : ((Account.opening size).enterAll (fun _ _ => none)
      (offered (Xcursor.loader tree searchPaths) (some name) size)).stored ≠ []) (host : Host) :
    let copies := Xcursor.copies tree searchPaths name size
    (∀ copy, copy ∈ copies ↔
      ∃ searchPath, searchPaths[copy.index]? = some searchPath ∧
        Xcursor.IsUsable tree (Xcursor.cursorDirectory searchPath name) size copy.sprite) ∧
    copies.Pairwise Copy.Before ∧
    ∃ theme, (load (some name) size (Xcursor.loader tree searchPaths) {} host).outcome = .ok theme ∧
      (∀ wanted, (theme.find? wanted).isSome ↔
        ∃ copy : Copy, copy.Storable size copies ∧ copy.sprite.name = wanted) ∧
      (∀ wanted cursor, theme.find? wanted = some cursor →
        ∃ copy : Copy, copy.Wins size copies ∧ copy.sprite.name = wanted ∧
          cursor.Shows theme.pool copy.sprite) ∧
      (∃ winners : List Copy, winners.Pairwise Copy.Before ∧
        (∀ copy, copy ∈ winners ↔ copy.Wins size copies) ∧
        List.Forall₂ (Cursor.Shows theme.pool) theme.cursors (winners.map Copy.sprite)) ∧
      ∀ further, ∃ larger more,
        (load (some name) size (Xcursor.loader tree (searchPaths ++ further)) {} host).outcome
          = .ok larger ∧
        larger.cursors = theme.cursors ++ more ∧
        (∀ cursor ∈ theme.cursors, ∀ image ∈ cursor.images,
          (theme.pixels? image).isSome ∧ larger.pixels? image = theme.pixels? image) ∧
        ∀ cursor ∈ more, theme.find? cursor.name = none := by
  intro copies
  have ordered := Xcursor.pairwise_copies tree searchPaths name size
  have substantial : Substantial copies := by
    intro copy member
    obtain ⟨searchPath, -, usable⟩ := Xcursor.mem_copies_iff.mp member
    exact ⟨usable.name_ne, usable.frames_ne⟩
  refine ⟨fun copy => Xcursor.mem_copies_iff, ordered, ?_⟩
  obtain ⟨theme, loaded, follows, -, -⟩ :=
    exists_load_follows (some name) size (Xcursor.loader tree searchPaths) host
  rw [Account.orBuiltins, if_neg stored, Xcursor.offered_loader named] at follows
  refine ⟨theme, loaded, fun wanted => follows.isSome_find?_iff_storable substantial wanted,
    fun wanted cursor found => follows.exists_wins_of_find? ordered substantial found,
    ⟨_, ordered.sublist (Account.winners_sublist _ copies),
      fun copy => Account.mem_winners_iff ordered substantial, follows.shows_winners substantial⟩, ?_⟩
  intro further
  obtain ⟨more, goesOn⟩ := exists_offered_loader_append named further
  exact load_of_offered_append goesOn stored loaded

/-- A cursor of which the first search path has a broken copy comes from the second one. -/
theorem load_takes_first_copies_past_broken :
    let searchPaths := [Path.ofString "p", Path.ofString "q"]
    Xcursor.isThemeName "t" = true ∧
    ∃ theme, (load (some "t") 1 (Xcursor.loader Xcursor.brokenCopyFirst searchPaths) {} {}).outcome
        = .ok theme ∧
      ∃ cursor, theme.find? "a" = some cursor ∧ cursor.Shows theme.pool ⟨"a", [.dot 7]⟩ := by
  intro searchPaths
  have named : Xcursor.isThemeName "t" = true := by decide
  have copies := Xcursor.copies_brokenCopyFirst
  have stored : ((Account.opening 1).enterAll (fun _ _ => none)
      (offered (Xcursor.loader Xcursor.brokenCopyFirst searchPaths) (some "t") 1)).stored ≠ [] := by
    rw [Xcursor.offered_loader named, copies]
    decide
  obtain ⟨-, -, theme, loaded, found, wins, -⟩ := load_takes_first_copies named stored {}
  rw [copies] at found wins
  have storable : (⟨1, "a", [.dot 7]⟩ : Copy).Storable 1 [⟨1, "a", [.dot 7]⟩] :=
    ⟨[], List.prefix_rfl, by decide⟩
  obtain ⟨cursor, some⟩ := Option.isSome_iff_exists.mp ((found "a").mpr ⟨_, storable, rfl⟩)
  obtain ⟨copy, winner, -, shown⟩ := wins "a" cursor some
  obtain rfl := List.mem_singleton.mp winner.storable.mem
  exact ⟨named, theme, loaded, cursor, some, shown⟩

end Theme

end CursorThemes
