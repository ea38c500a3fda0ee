import CursorThemes.Proofs.PathNames
import CursorThemes.SearchPath
import Mathlib.Data.List.Forall2

/-! # Search paths are expanded entry by entry

A search path is expanded one entry at a time, so that lists may be put together and taken apart at
any colon. An entry with a home mark goes on from the home directory, and never takes its place: slashes
after the mark do not lead to the root.

* **`SearchPath.pieces_eq_splitOn`** says that the pieces of a list are what stands between colons.
* **`Path.Continues`** relates a path to the one that it goes on from, and **`SearchPath.Outcome`** says
  what one entry comes to.
* **`SearchPath.expand_entry_by_entry`** is the result. -/

namespace CursorThemes

/-! ## Texts as paths -/

namespace Path

/-- The path of a text starts at the root exactly if the text starts with a slash. -/
theorem isAbsolute_ofString_ofList (chars : List Char) :
    (ofString (.ofList chars)).isAbsolute = (chars.head? == some '/') := by
  cases chars with
  | nil => rfl
  | cons c rest =>
    have bytes : (ofString (.ofList (c :: rest))).bytes
        = String.utf8EncodeChar c ++ rest.flatMap String.utf8EncodeChar := by
      rw [ofString, Text.toBytes_eq_flatMap, String.toList_ofList, List.flatMap_cons]
    by_cases slash : c = '/'
    · subst slash
      rw [isAbsolute, bytes]
      rfl
    · -- the first byte of another character is no slash
      have encoded : separator ∉ String.utf8EncodeChar c := fun member =>
        slash (Char.toNat_inj.mp (Text.toNat_eq_of_mem_utf8EncodeChar member (by decide)))
      have filled : String.utf8EncodeChar c ≠ [] := by
        rw [← List.length_pos_iff, String.length_utf8EncodeChar]
        exact c.utf8Size_pos
      obtain ⟨first, later, split⟩ := List.exists_cons_of_ne_nil filled
      rw [split] at encoded bytes
      have other : first ≠ separator := fun same => encoded (same ▸ List.mem_cons_self)
      rw [isAbsolute, bytes]
      simp [other, slash]

/-- A slash in front of a text adds no name. -/
theorem names_ofString_slash_cons (chars : List Char) :
    (ofString (.ofList ('/' :: chars))).names = (ofString (.ofList chars)).names := by
  have bytes : (ofString (.ofList ('/' :: chars))).bytes
      = [] ++ separator :: (ofString (.ofList chars)).bytes := by
    simp only [ofString, Text.toBytes_eq_flatMap, String.toList_ofList]
    rfl
  rw [names, components, bytes, List.splitOnP_append_cons _ _ (by decide), List.filter_append,
    List.splitOnP_nil]
  rfl

/-- Slashes in front of a text add no names. -/
theorem names_ofString_dropWhile (chars : List Char) :
    (ofString (.ofList (chars.dropWhile (· == '/')))).names = (ofString (.ofList chars)).names := by
  induction chars with
  | nil => rfl
  | cons c rest ih =>
    by_cases slash : c = '/'
    · subst slash
      rw [List.dropWhile_cons_of_pos (by decide), ih, names_ofString_slash_cons]
    · rw [List.dropWhile_cons_of_neg (by simp [slash])]

/-- **A path that goes on from another one** by the names in a text, and by nothing else: it has the
other path in front, and starts at the root exactly if that one does. -/
structure Continues (base : Path) (chars : List Char) (path : Path) : Prop where
  /-- The path that is continued stands in front as it is. -/
  front : base.bytes <+: path.bytes
  /-- Its names are followed by those in the text. -/
  names : path.names = base.names ++ (ofString (.ofList chars)).names
  /-- The root is where it was. -/
  rooted : path.isAbsolute = base.isAbsolute

/-- A path that is continued by a text without the slashes in front of it goes on from there. -/
theorem continues_join (base : Path) (chars : List Char) :
    Continues base chars (base.join (ofString (.ofList (chars.dropWhile (· == '/'))))) := by
  -- no slash is left in front, so that the path is not replaced but continued
  have relative : (ofString (.ofList (chars.dropWhile (· == '/')))).isAbsolute = false := by
    rw [isAbsolute_ofString_ofList]
    have bare := List.head?_dropWhile_not (· == '/') chars
    cases head : (chars.dropWhile (· == '/')).head? with
    | none => rfl
    | some c =>
      rw [head] at bare
      simpa using bare
  exact
    { front := bytes_join_of_relative relative
      names := by rw [names_join base relative, names_ofString_dropWhile]
      rooted := base.isAbsolute_join relative }

end Path

/-! ## Entries of a list -/

namespace SearchPath

/-- **The pieces of a list** are what stands between its colons. -/
theorem pieces_eq_splitOn (list : List Char) : pieces list = list.splitOn ':' := by
  induction list with
  | nil => rfl
  | cons c rest ih =>
    rw [pieces, ih]
    simp only [List.splitOn, List.splitOnP_cons_eq_if_modifyHead]
    by_cases colon : c = ':'
    · rw [if_pos colon, if_pos (beq_iff_eq.mpr colon)]
    · rw [if_neg colon, if_neg (by simpa using colon)]
      obtain ⟨piece, more, split⟩ :=
        List.exists_cons_of_ne_nil (List.splitOnP_ne_nil (· == ':') rest)
      rw [split, List.modifyHead_cons]

/-- The entries of two lists with a colon between them are those of the lists. -/
theorem entries_append_colon (front back : List Char) :
    entries (front ++ ':' :: back) = entries front ++ entries back := by
  simp only [entries, pieces_eq_splitOn, List.splitOn_append_cons_self, List.filter_append]

/-- **What an entry may come to.** -/
inductive Outcome (home : Option Path) : List Char → Entry → Prop where
  /-- An entry without a home mark is a directory as it is written. -/
  | kept (entry : List Char) (unmarked : entry.head? ≠ some '~') :
    Outcome home entry (.directory ⟨Text.toBytes (.ofList entry)⟩)
  /-- An entry with a home mark is a directory that goes on from the home directory. -/
  | below (rest : List Char) (base path : Path) (known : home = some base)
    (continues : base.Continues rest path) : Outcome home ('~' :: rest) (.directory path)
  /-- While no home directory is known, an entry with a home mark is passed over. -/
  | passedOver (rest : List Char) (unknown : home = none) :
    Outcome home ('~' :: rest) (.homeless (.ofList ('~' :: rest)))

/-- An entry without a home mark is kept. -/
theorem resolve_of_unmarked (home : Option Path) {entry : List Char}
    (unmarked : entry.head? ≠ some '~') :
    resolve home entry = .directory (.ofString (.ofList entry)) := by
  unfold resolve
  split
  · exact absurd rfl unmarked
  · rfl

/-- **An entry comes to what it may come to.** -/
theorem outcome_resolve (home : Option Path) (entry : List Char) :
    Outcome home entry (resolve home entry) := by
  by_cases marked : entry.head? = some '~'
  · obtain ⟨rest, rfl⟩ := List.head?_eq_some_iff.mp marked
    cases home with
    | none => exact .passedOver rest rfl
    | some base => exact .below rest base _ rfl (base.continues_join rest)
  · rw [resolve_of_unmarked home marked]
    exact .kept entry marked

/-- **A search path is expanded entry by entry.** Of two lists with a colon between them the directories
and the notices are those of the first list, and then those of the second one. Each entry of a list
that is not empty comes to one directory, or while no home directory is known to one notice if it has a
home mark; the directories and the notices come in the order of the entries. An entry without
a home mark is kept byte for byte. One with a home mark goes on from the home directory, however many
slashes follow the mark. -/
theorem expand_entry_by_entry (home : Option Path) :
    (∀ first second : String,
      (expand (first ++ ":" ++ second) home).paths
        = (expand first home).paths ++ (expand second home).paths ∧
      (expand (first ++ ":" ++ second) home).notices
        = (expand first home).notices ++ (expand second home).notices) ∧
    ∀ list : String, ∃ outcomes : List Entry,
      List.Forall₂ (Outcome home) ((list.toList.splitOn ':').filter (· ≠ [])) outcomes ∧
      (expand list home).paths = outcomes.filterMap Entry.directory? ∧
      (expand list home).notices = outcomes.filterMap Entry.notice? := by
  constructor
  · intro first second
    have split : (first ++ ":" ++ second).toList = first.toList ++ ':' :: second.toList := by
      simp [String.toList_append]
    simp only [expand, split, entries_append_colon, List.map_append, List.filterMap_append,
      and_self]
  · intro list
    refine ⟨(entries list.toList).map (resolve home), ?_, rfl, rfl⟩
    have between : entries list.toList = (list.toList.splitOn ':').filter (· ≠ []) := by
      rw [entries, pieces_eq_splitOn]
      exact List.filter_congr fun piece _ => by cases piece <;> simp
    rw [← between, List.forall₂_map_right_iff, List.forall₂_same]
    exact fun entry _ => outcome_resolve home entry

end SearchPath

end CursorThemes
