import CursorThemes.Proofs.Overlay
import CursorThemes.Proofs.Spellings
import Mathlib.Data.Set.List

/-! # Configurations are read back

A configuration is written as a document of plain lines, one for each of its keys, and the lines are
read as the same configuration.

* **`Path.mapM_text?_eq_some`** says which texts are written for paths.
* **`Config.parse_lines`** says that the lines of a configuration are read back.
* **`Config.parse_render`** is the result: a configuration can be written if and only if its paths
  are texts, and then it is read back. -/

namespace CursorThemes

/-! ## Paths that are texts -/

/-- **Which paths are texts**: those whose bytes are valid. -/
theorem Path.isSome_text? (path : Path) :
    path.text?.isSome = true ↔ (ByteArray.mk path.bytes.toArray).IsValidUTF8 := by
  unfold Path.text? Text.ofBytes? String.fromUTF8?
  split_ifs with valid
  · exact iff_of_true rfl valid
  · exact iff_of_false Bool.false_ne_true valid

/-- The texts of paths are those that spell them. -/
theorem Path.mapM_text?_eq_some {paths : List Path} {texts : List String} :
    paths.mapM Path.text? = some texts ↔ paths = texts.map Path.ofString := by
  induction paths generalizing texts with
  | nil => simp [eq_comm]
  | cons path later ih =>
    rw [List.mapM_cons]
    constructor
    · intro all
      obtain ⟨text, first, rest⟩ := Option.bind_eq_some_iff.mp all
      obtain ⟨others, tail, same⟩ := Option.bind_eq_some_iff.mp rest
      cases same
      rw [List.map_cons, ← ih.mp tail, Path.eq_ofString_of_text? first]
    · intro same
      cases texts with
      | nil => cases same
      | cons text others =>
        obtain ⟨rfl, tail⟩ := List.cons.inj same
        rw [Path.text?_ofString, ih.mpr tail]
        rfl

/-- All paths are texts exactly when texts spell all of them. -/
theorem Path.exists_texts_iff {paths : List Path} :
    (∃ texts : List String, paths = texts.map Path.ofString) ↔ ∀ path ∈ paths, path.text?.isSome = true := by
  constructor
  · rintro ⟨texts, rfl⟩ path member
    obtain ⟨text, -, rfl⟩ := List.mem_map.mp member
    rw [Path.text?_ofString]
    rfl
  · intro all
    have spelled : paths ∈ Set.range (List.map Path.ofString) := by
      rw [Set.range_list_map]
      intro path member
      obtain ⟨text, found⟩ := Option.isSome_iff_exists.mp (all path member)
      exact ⟨text, (Path.eq_ofString_of_text? found).symm⟩
    obtain ⟨texts, same⟩ := spelled
    exact ⟨texts, same.symm⟩

namespace Config

/-! ## Configurations -/

/-- The lines of a configuration whose directories are the given texts. -/
def plainLines (config : Config) (texts : List String) : List Toml.Line :=
  (config.theme.map fun theme =>
    { Toml.Spelling.ofText theme with
      key := themeKey, filled := by decide, keyChars := List.all_eq_true.mp (by decide) }).toList ++
  [{ Toml.Spelling.ofWord config.size with
      key := sizeKey, filled := by decide, keyChars := List.all_eq_true.mp (by decide) },
    { Toml.Spelling.ofWord config.scale with
      key := scaleKey, filled := by decide, keyChars := List.all_eq_true.mp (by decide) },
    { Toml.Spelling.ofRow texts with
      key := searchPathsKey, filled := by decide, keyChars := List.all_eq_true.mp (by decide) }]

/-- The numeral of a word. -/
theorem toList_toString (n : UInt32) : (toString n).toList = Nat.toDigits 10 n.toNat :=
  Nat.toList_repr

/-- A configuration is written line by line. -/
theorem lines_eq_flatMap (config : Config) (texts : List String) :
    config.lines texts = (config.plainLines texts).flatMap Toml.Line.written := by
  obtain ⟨theme, size, scale, paths⟩ := config
  cases theme with
  | none =>
    simp [lines, plainLines, toList_toString, Toml.Line.written, Toml.Spelling.ofWord,
      Toml.Spelling.ofRow]
  | some name =>
    simp [lines, plainLines, toList_toString, Toml.Line.written, Toml.Spelling.ofText,
      Toml.Spelling.ofWord, Toml.Spelling.ofRow]

/-- No key is written twice. -/
theorem nodup_keys (config : Config) (texts : List String) :
    ((config.plainLines texts).map Toml.Line.key).Nodup := by
  obtain ⟨theme, size, scale, paths⟩ := config
  cases theme with
  | none => show [sizeKey, scaleKey, searchPathsKey].Nodup; decide
  | some name => show [themeKey, sizeKey, scaleKey, searchPathsKey].Nodup; decide

/-- Texts are read as the paths that they spell. -/
theorem readPaths_map_string (texts : List String) :
    readPaths (texts.map .string) = .ok (texts.map Path.ofString) :=
  readPaths_eq_ok_iff.mpr ⟨texts, rfl, rfl⟩

/-- A word is read back from its number. -/
theorem readWord_toNat (n : UInt32) : readWord (.integer n.toNat) = .ok n :=
  readWord_eq_ok_iff.mpr rfl

/-- The entries of the lines of a configuration describe it. -/
theorem ofTable_entries (config : Config) (texts : List String) :
    ofTable ((config.plainLines texts).map Toml.Line.entry)
      = .ok { config with searchPaths := texts.map Path.ofString } := by
  obtain ⟨theme, size, scale, paths⟩ := config
  have found : ofTable ((plainLines ⟨theme, size, scale, paths⟩ texts).map Toml.Line.entry) = (do
      let scale ← readWord (.integer scale.toNat)
      let searchPaths ← readPaths (texts.map .string)
      let size ← readWord (.integer size.toNat)
      let theme ← Except.ok theme
      return { theme, size, scale, searchPaths }) := by
    -- a theme that was not written is the default again
    cases theme with
    | none => rfl
    | some name => rfl
  rw [found, readWord_toNat, readWord_toNat, readPaths_map_string]
  rfl

/-- **The lines of a configuration are read back.** -/
theorem parse_lines (config : Config) (texts : List String) :
    parse (.ofList (config.lines texts))
      = .ok { config with searchPaths := texts.map Path.ofString } := by
  rw [parse, lines_eq_flatMap, Toml.Document.parse?_lines (config.nodup_keys texts)]
  show (ofTable _).mapError _ = _
  rw [ofTable_entries]
  rfl

/-- A configuration is written as the lines for the texts that spell its paths. -/
theorem render?_eq_some {config : Config} {written : String} :
    config.render? = some written ↔
      ∃ texts, config.searchPaths = texts.map Path.ofString ∧
        written = .ofList (config.lines texts) := by
  rw [render?, Option.map_eq_some_iff]
  constructor
  · rintro ⟨texts, spelled, rfl⟩
    exact ⟨texts, Path.mapM_text?_eq_some.mp spelled, rfl⟩
  · rintro ⟨texts, spelled, rfl⟩
    exact ⟨texts, Path.mapM_text?_eq_some.mpr spelled, rfl⟩

/-- What was written is read as the same configuration. -/
theorem parse_of_render? {config : Config} {written : String}
    (render : config.render? = some written) : parse written = .ok config := by
  obtain ⟨texts, spelled, rfl⟩ := render?_eq_some.mp render
  rw [parse_lines, ← spelled]

/-- **A configuration can be written if and only if all its paths are texts.** -/
theorem isSome_render? {config : Config} :
    config.render?.isSome = true ↔ ∀ path ∈ config.searchPaths, path.text?.isSome = true := by
  rw [← Path.exists_texts_iff, Option.isSome_iff_exists]
  constructor
  · rintro ⟨written, render⟩
    obtain ⟨texts, spelled, -⟩ := render?_eq_some.mp render
    exact ⟨texts, spelled⟩
  · rintro ⟨texts, spelled⟩
    exact ⟨_, render?_eq_some.mpr ⟨texts, spelled, rfl⟩⟩

/-- Paths of a row that was read are texts. -/
theorem isSome_text?_of_readRow {value : Toml.Value} {paths : List Path}
    (read : readRow value = .ok paths) : ∀ path ∈ paths, path.text?.isSome = true := by
  obtain ⟨texts, -, spelled⟩ := readRow_eq_ok_iff.mp read
  exact Path.exists_texts_iff.mp ⟨texts, spelled⟩

/-- **Every path that was read is a text.** -/
theorem isSome_text?_of_parse {text : String} {config : Config} (read : parse text = .ok config) :
    ∀ path ∈ config.searchPaths, path.text?.isSome = true := by
  obtain ⟨table, -, described⟩ := parse_eq_ok_iff.mp read
  obtain ⟨-, paths, -, -⟩ := ofTable_eq_ok_iff.mp described
  rw [readKey] at paths
  cases found : table.find? searchPathsKey with
  | none =>
    rw [found] at paths
    rw [← Except.ok.inj paths]
    exact List.forall_mem_nil _
  | some value =>
    rw [found] at paths
    exact isSome_text?_of_readRow paths

/-- **A configuration can be written if and only if all its paths are texts**, and what was written
is read as the same configuration. So whatever was read can be written, and is read again as it
was. -/
theorem parse_render (config : Config) :
    (config.render?.isSome = true ↔
      ∀ path ∈ config.searchPaths, (ByteArray.mk path.bytes.toArray).IsValidUTF8) ∧
    (∀ written, config.render? = some written → parse written = .ok config) ∧
    (∀ text, parse text = .ok config →
      ∃ written, config.render? = some written ∧ parse written = .ok config) := by
  refine ⟨?_, fun written => parse_of_render?, fun text read => ?_⟩
  · rw [isSome_render?]
    exact forall₂_congr fun path _ => path.isSome_text?
  · obtain ⟨written, render⟩ :=
      Option.isSome_iff_exists.mp (isSome_render?.mpr (isSome_text?_of_parse read))
    exact ⟨written, render, parse_of_render? render⟩

end Config

end CursorThemes
