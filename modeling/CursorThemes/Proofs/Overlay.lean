import CursorThemes.Config.Document
import CursorThemes.Proofs.KeyedLists

/-! # A document overlays the default configuration

What a document says under the known keys takes the place of the default; nothing else in it makes any
difference. Of several known keys that hold what they should not, the one that sorts first is
reported.

* **`Toml.Document.isKeyed_of_parse?`** says that no key of a document occurs twice.
* **`Expected.Fits`** says what a known key has to hold, and **`Expected.Refuses`** what is reported
  otherwise. **`Config.fields`** lists the known keys.
* **`Config.failure?_ofTable`** says which report a table comes to, and **`Config.ofTable_eq_ok_iff`**
  which configuration.
* **`Config.parse_overlays`** is the result. -/

namespace CursorThemes

open Toml (Table Value)

/-! ## The keys of a document -/

namespace Toml

/-- **A table in which no key occurs twice.** -/
def Table.IsKeyed (table : Table) : Prop := (table.map Prod.fst).Nodup

namespace Table

variable {table changed : Table} {key : String} {value : Value}

/-- **One entry of a table is edited**: a missing key is added at the end, or the value of a key is
replaced. -/
inductive Edits (table : Table) : Table → Prop where
  /-- A missing key is added. -/
  | added (key : String) (value : Value) (fresh : table.find? key = none) :
    Edits table (table ++ [(key, value)])
  /-- The value of a key is replaced. -/
  | replaced (key : String) (value : Value) : Edits table (table.replace key value)

/-- Replacing a value keeps the keys. -/
theorem map_fst_replace (table : Table) (key : String) (value : Value) :
    (table.replace key value).map Prod.fst = table.map Prod.fst := by
  rw [replace, List.map_map]
  refine List.map_congr_left fun entry _ => ?_
  by_cases here : entry.1 = key
  · rw [Function.comp_apply, if_pos here, here]
  · rw [Function.comp_apply, if_neg here]

/-- **Editing an entry makes no key occur twice.** -/
theorem IsKeyed.of_edits (keyed : table.IsKeyed) (edits : table.Edits changed) : changed.IsKeyed := by
  cases edits with
  | added key value fresh => exact KeyedList.nodup_keys_append keyed fresh value
  | replaced key value =>
    rw [IsKeyed, map_fst_replace]
    exact keyed

/-- Inserting a key edits an entry. -/
theorem edits_of_insert? (inserted : table.insert? key value = some changed) :
    table.Edits changed := by
  rw [insert?] at inserted
  split at inserted
  · cases inserted
  · rename_i fresh
    cases inserted
    exact .added key value (by simpa using fresh)

/-- Opening a table edits an entry. -/
theorem edits_of_openTable (opened : table.openTable key = some changed) : table.Edits changed := by
  rw [openTable] at opened
  split at opened
  · cases opened
    exact .added key _ ‹_›
  · cases opened
    exact .replaced key _
  · cases opened

/-- Opening a further table of a row edits an entry. -/
theorem edits_of_openElement (opened : table.openElement key = some changed) :
    table.Edits changed := by
  rw [openElement] at opened
  split at opened
  · cases opened
    exact .added key _ ‹_›
  · cases opened
    exact .replaced key _
  · cases opened

/-- **A change at the end of a path edits an entry**, if the change by itself does. -/
theorem edits_of_update {dotted : Bool} {change : Table → Option Table} {path : List String}
    (edits : ∀ {before after : Table}, change before = some after → before.Edits after)
    (updated : update dotted change path table = some changed) : table.Edits changed := by
  cases path with
  | nil => exact edits updated
  | cons key path =>
    -- wherever the path leads, all that changes here is the value of its first key
    rw [update] at updated
    split at updated
    · obtain ⟨inner, -, same⟩ := Option.bind_eq_some_iff.mp updated
      cases same
      exact .added key _ ‹_›
    · split at updated
      · cases updated
      · obtain ⟨inner, -, same⟩ := Option.bind_eq_some_iff.mp updated
        cases same
        exact .replaced key _
    · split at updated
      · cases updated
      · obtain ⟨inner, -, same⟩ := Option.bind_eq_some_iff.mp updated
        cases same
        exact .replaced key _
    · cases updated

end Table

namespace Document

/-- **A statement edits an entry** of the table of a document. -/
theorem State.edits_of_apply {state next : State} {statement : Statement}
    (applied : state.apply? statement = some next) : state.table.Edits next.table := by
  cases statement with
  | assign parents key value =>
    obtain ⟨table, updated, rfl⟩ := Option.map_eq_some_iff.mp applied
    exact Table.edits_of_update (Table.edits_of_update Table.edits_of_insert?) updated
  | header parents key =>
    obtain ⟨table, updated, rfl⟩ := Option.map_eq_some_iff.mp applied
    exact Table.edits_of_update Table.edits_of_openTable updated
  | elementHeader parents key =>
    obtain ⟨table, updated, rfl⟩ := Option.map_eq_some_iff.mp applied
    exact Table.edits_of_update Table.edits_of_openElement updated

/-- Statements make no key occur twice. -/
theorem State.isKeyed_applyAll {state last : State} {statements : List Statement}
    (keyed : state.table.IsKeyed) (applied : state.applyAll? statements = some last) :
    last.table.IsKeyed := by
  induction statements generalizing state with
  | nil =>
    cases applied
    exact keyed
  | cons statement later ih =>
    rw [State.applyAll?] at applied
    cases next : state.apply? statement with
    | none =>
      rw [next] at applied
      cases applied
    | some state =>
      rw [next] at applied
      exact ih (keyed.of_edits (edits_of_apply next)) applied

/-- **No key of a document occurs twice.** -/
theorem isKeyed_of_parse? {text : String} {table : Table} (parsed : parse? text = some table) :
    table.IsKeyed := by
  obtain ⟨tokens, -, parsed⟩ := Option.bind_eq_some_iff.mp parsed
  obtain ⟨statements, -, built⟩ := Option.bind_eq_some_iff.mp parsed
  obtain ⟨last, applied, rfl⟩ := Option.map_eq_some_iff.mp built
  have empty : ({} : State).table.IsKeyed := List.nodup_nil
  exact State.isKeyed_applyAll empty applied

end Document

/-- The items of a row, be they values between brackets or tables with headers of their own. -/
def Value.items? : Value → Option (List Value)
  | .array items => some items
  | .tables elements => some (elements.map (.table .header))
  | _ => none

end Toml

/-! ## What a key has to hold -/

namespace Expected

/-- **What fits.** -/
def Fits : Expected → Value → Prop
  | word, value => ∃ number : Int, value = .integer number ∧ 0 ≤ number ∧ number ≤ 4294967295
  | text, value => ∃ text, value = .string text
  | row, value => ∃ texts : List String, value.items? = some (texts.map .string)
  | path, value => ∃ text, value = .string text

/-- **What is reported** of a value that does not fit. -/
inductive Refuses : Expected → Value → Mismatch → Prop where
  /-- It is no whole number. -/
  | noNumber (value : Value) (other : ∀ number, value ≠ .integer number) :
    Refuses word value (.wrongKind value word)
  /-- It is a whole number that is too small or too large. -/
  | outside (number : Int) (outside : ¬(0 ≤ number ∧ number ≤ 4294967295)) :
    Refuses word (.integer number) (.outOfRange number word)
  /-- It is no text. -/
  | noText (value : Value) (other : ∀ text, value ≠ .string text) :
    Refuses text value (.wrongKind value text)
  /-- It is no text that spells a path. -/
  | noPath (value : Value) (other : ∀ text, value ≠ .string text) :
    Refuses path value (.wrongKind value path)
  /-- It is no row. -/
  | noRow (value : Value) (other : value.items? = none) : Refuses row value (.wrongKind value row)
  /-- It is a row, and this is its first item that is no text. -/
  | item (value : Value) (texts : List String) (item : Value) (later : List Value)
    (items : value.items? = some (texts.map .string ++ item :: later)) (cause : Mismatch)
    (refused : Refuses path item cause) : Refuses row value cause

end Expected

namespace Config

/-! ## Reading one value -/

/-- A word is read from a number of 32 bits. -/
theorem readWord_eq_ok_iff {value : Value} {word : UInt32} :
    readWord value = .ok word ↔ value = .integer word.toNat := by
  constructor
  · intro read
    cases value with
    | integer number =>
      rw [readWord] at read
      split at read
      · rename_i inside
        cases read
        have small : number.toNat < UInt32.size := (Int.toNat_lt inside.1).mpr inside.2
        rw [UInt32.toNat_ofNat_of_lt' small, Int.toNat_of_nonneg inside.1]
      · cases read
    | _ => cases read
  · rintro rfl
    have small : (word.toNat : Int) < UInt32.size := Int.ofNat_lt.mpr word.toNat_lt
    rw [readWord, if_pos ⟨Int.natCast_nonneg _, small⟩, Int.toNat_natCast, UInt32.ofNat_toNat]

/-- A text is read from a text. -/
theorem readText_eq_ok_iff {value : Value} {text : String} :
    readText value = .ok text ↔ value = .string text := by
  cases value <;> simp [readText]

/-- A path is read from a text. -/
theorem readPath_eq_ok_iff {value : Value} {path : Path} :
    readPath value = .ok path ↔ ∃ text, value = .string text ∧ path = .ofString text := by
  cases value <;> simp [readPath, eq_comm]

/-- Paths are read from texts. -/
theorem readPaths_eq_ok_iff {values : List Value} {paths : List Path} :
    readPaths values = .ok paths ↔
      ∃ texts : List String, values = texts.map .string ∧ paths = texts.map .ofString := by
  induction values generalizing paths with
  | nil => simp [readPaths, eq_comm]
  | cons value later ih =>
    constructor
    · intro read
      rw [readPaths] at read
      split at read
      · cases read
      · rename_i path first
        split at read
        · cases read
        · rename_i others rest
          cases read
          obtain ⟨text, rfl, rfl⟩ := readPath_eq_ok_iff.mp first
          obtain ⟨texts, rfl, rfl⟩ := ih.mp rest
          exact ⟨text :: texts, rfl, rfl⟩
    · rintro ⟨texts, same, rfl⟩
      cases texts with
      | nil => cases same
      | cons text texts =>
        obtain ⟨rfl, rfl⟩ := List.cons.inj same
        rw [readPaths, ih.mpr ⟨texts, rfl, rfl⟩]
        rfl

/-- A row is read item by item. -/
theorem readRow_eq (value : Value) :
    readRow value = match value.items? with
      | some items => readPaths items
      | none => .error (.wrongKind value .row) := by
  cases value <;> rfl

/-- Paths are read from a row of texts. -/
theorem readRow_eq_ok_iff {value : Value} {paths : List Path} :
    readRow value = .ok paths ↔
      ∃ texts : List String, value.items? = some (texts.map .string) ∧
        paths = texts.map .ofString := by
  rw [readRow_eq]
  cases items : value.items? with
  | none => simp
  | some values => simp [readPaths_eq_ok_iff]

/-! ## Refusing one value -/

/-- What is reported when no word can be read. -/
theorem refuses_of_readWord {value : Value} {cause : Mismatch} (failed : readWord value = .error cause) :
    Expected.word.Refuses value cause := by
  cases value with
  | integer number =>
    rw [readWord] at failed
    split at failed
    · cases failed
    · rename_i outside
      cases failed
      refine .outside number fun inside => outside ⟨inside.1, ?_⟩
      exact Int.lt_of_le_of_lt inside.2 (by decide)
  | _ =>
    cases failed
    exact .noNumber _ (by simp)

/-- What is reported when no text can be read. -/
theorem refuses_of_readText {value : Value} {cause : Mismatch} (failed : readText value = .error cause) :
    Expected.text.Refuses value cause := by
  cases value with
  | string text => cases failed
  | _ =>
    cases failed
    exact .noText _ (by simp)

/-- What is reported when no path can be read. -/
theorem refuses_of_readPath {value : Value} {cause : Mismatch} (failed : readPath value = .error cause) :
    Expected.path.Refuses value cause := by
  cases value with
  | string text => cases failed
  | _ =>
    cases failed
    exact .noPath _ (by simp)

/-- The first item that is no path decides what is reported. -/
theorem refuses_of_readPaths {values : List Value} {cause : Mismatch}
    (failed : readPaths values = .error cause) :
    ∃ (texts : List String) (item : Value) (later : List Value),
      values = texts.map .string ++ item :: later ∧ Expected.path.Refuses item cause := by
  induction values with
  | nil => cases failed
  | cons value later ih =>
    rw [readPaths] at failed
    split at failed
    · rename_i first
      cases failed
      exact ⟨[], value, later, rfl, refuses_of_readPath first⟩
    · rename_i path first
      split at failed
      · rename_i rest
        cases failed
        obtain ⟨text, rfl, -⟩ := readPath_eq_ok_iff.mp first
        obtain ⟨texts, item, others, rfl, refused⟩ := ih rest
        exact ⟨text :: texts, item, others, rfl, refused⟩
      · cases failed

/-- What is reported when no row can be read. -/
theorem refuses_of_readRow {value : Value} {cause : Mismatch} (failed : readRow value = .error cause) :
    Expected.row.Refuses value cause := by
  rw [readRow_eq] at failed
  cases items : value.items? with
  | none =>
    simp only [items] at failed
    cases failed
    exact .noRow value items
  | some values =>
    simp only [items] at failed
    obtain ⟨texts, item, later, rfl, refused⟩ := refuses_of_readPaths failed
    exact .item value texts item later items cause refused

/-! ## Reports -/

/-- The report of a reading, if it went wrong. -/
def failure? {α : Type} : Except Mismatch α → Option Mismatch
  | .ok _ => none
  | .error cause => some cause

section Reports

variable {α β : Type} {reading : Except Mismatch α} {cause : Mismatch}

/-- There is no report if something was read. -/
theorem failure?_eq_none_iff : failure? reading = none ↔ ∃ a, reading = .ok a := by
  cases reading <;> simp [failure?]

/-- There is a report if nothing was read. -/
theorem failure?_eq_some_iff : failure? reading = some cause ↔ reading = .error cause := by
  cases reading <;> simp [failure?]

/-- What is made of a reading makes no difference to the report. -/
theorem failure?_map (f : α → β) : failure? (reading.map f) = failure? reading := by
  cases reading <;> rfl

/-- Of two readings one after the other the first one is reported first. -/
theorem failure?_bind {later : α → Except Mismatch β} {rest : Option Mismatch}
    (same : ∀ a, failure? (later a) = rest) :
    failure? (reading >>= later) = (failure? reading).or rest := by
  cases reading with
  | ok a => exact same a
  | error _ => rfl

end Reports

/-- What is wrong with a value that should be of a kind, if anything is. -/
def mismatch? : Expected → Value → Option Mismatch
  | .word, value => failure? (readWord value)
  | .text, value => failure? (readText value)
  | .row, value => failure? (readRow value)
  | .path, value => failure? (readPath value)

/-- **Nothing is wrong with what fits.** -/
theorem mismatch?_eq_none_iff {expected : Expected} {value : Value} :
    mismatch? expected value = none ↔ expected.Fits value := by
  cases expected with
  | word =>
    simp only [mismatch?, failure?_eq_none_iff, readWord_eq_ok_iff, Expected.Fits]
    constructor
    · rintro ⟨word, rfl⟩
      have bound := word.toNat_lt
      exact ⟨_, rfl, by omega, by omega⟩
    · -- a number within the bounds is that of a word
      rintro ⟨number, rfl, positive, small⟩
      have bound : number.toNat < UInt32.size := by
        change number.toNat < 4294967296
        omega
      exact ⟨.ofNat number.toNat, by rw [UInt32.toNat_ofNat_of_lt' bound, Int.toNat_of_nonneg positive]⟩
  | text => simp only [mismatch?, failure?_eq_none_iff, readText_eq_ok_iff, Expected.Fits]
  | row =>
    simp only [mismatch?, failure?_eq_none_iff, readRow_eq_ok_iff, Expected.Fits]
    rw [exists_comm]
    simp
  | path =>
    simp only [mismatch?, failure?_eq_none_iff, readPath_eq_ok_iff, Expected.Fits]
    rw [exists_comm]
    simp

/-- **What is reported of a value** is what it is refused for. -/
theorem refuses_of_mismatch? {expected : Expected} {value : Value} {cause : Mismatch}
    (reported : mismatch? expected value = some cause) : expected.Refuses value cause := by
  cases expected with
  | word => exact refuses_of_readWord (failure?_eq_some_iff.mp reported)
  | text => exact refuses_of_readText (failure?_eq_some_iff.mp reported)
  | row => exact refuses_of_readRow (failure?_eq_some_iff.mp reported)
  | path => exact refuses_of_readPath (failure?_eq_some_iff.mp reported)

/-- **The known keys**, in the order of their names, with what they have to hold. -/
def fields : List (String × Expected) :=
  [(scaleKey, .word), (searchPathsKey, .row), (sizeKey, .word), (themeKey, .text)]

/-- The known keys are in the order of their names. -/
theorem pairwise_fields : fields.Pairwise fun first second => first.1 < second.1 := by decide

/-- A key is reported if its value is. -/
theorem failure?_readKey {α : Type} (table : Table) (key : String) (read : Value → Except Mismatch α)
    (default : α) :
    failure? (readKey table key read default)
      = (table.find? key).bind fun value => failure? (read value) := by
  rw [readKey]
  cases table.find? key <;> rfl

/-- The first member of a list that has a result is the first one, or comes later. -/
theorem findSome?_cons_eq_or {α β : Type} (f : α → Option β) (first : α) (later : List α) :
    (first :: later).findSome? f = (f first).or (later.findSome? f) := by
  rw [List.findSome?_cons]
  cases f first <;> rfl

/-- **The report of a table** is that of the first known key whose value does not fit. -/
theorem failure?_ofTable (table : Table) :
    failure? (ofTable table)
      = fields.findSome? fun field => (table.find? field.1).bind (mismatch? field.2) := by
  -- the keys are read one after the other, and no report depends on what was read before it
  have chain : failure? (ofTable table)
      = (failure? (readKey table scaleKey readWord standardScale)).or
        ((failure? (readKey table searchPathsKey readRow [])).or
          ((failure? (readKey table sizeKey readWord standardSize)).or
            ((failure? (readKey table themeKey (fun value => (readText value).map some) none)).or
              none))) :=
    failure?_bind fun _ => failure?_bind fun _ => failure?_bind fun _ => failure?_bind fun _ => rfl
  simp only [chain, failure?_readKey, failure?_map, fields, findSome?_cons_eq_or, List.findSome?_nil]
  rfl

/-! ## Configurations -/

/-- What went well to the end went well at first. -/
theorem exists_of_bind_eq_ok {ε α β : Type} {first : Except ε α} {later : α → Except ε β} {b : β}
    (both : first.bind later = .ok b) : ∃ a, first = .ok a ∧ later a = .ok b := by
  cases first with
  | error _ => cases both
  | ok a => exact ⟨a, rfl, both⟩

/-- **The configuration of a table** has what each key reads. -/
theorem ofTable_eq_ok_iff {table : Table} {config : Config} :
    ofTable table = .ok config ↔
      readKey table scaleKey readWord standardScale = .ok config.scale ∧
      readKey table searchPathsKey readRow [] = .ok config.searchPaths ∧
      readKey table sizeKey readWord standardSize = .ok config.size ∧
      readKey table themeKey (fun value => (readText value).map some) none = .ok config.theme := by
  constructor
  · intro read
    obtain ⟨scale, scaleRead, read⟩ := exists_of_bind_eq_ok read
    obtain ⟨paths, pathsRead, read⟩ := exists_of_bind_eq_ok read
    obtain ⟨size, sizeRead, read⟩ := exists_of_bind_eq_ok read
    obtain ⟨theme, themeRead, read⟩ := exists_of_bind_eq_ok read
    cases read
    exact ⟨scaleRead, pathsRead, sizeRead, themeRead⟩
  · rintro ⟨scale, paths, size, theme⟩
    rw [ofTable, scale, paths, size, theme]
    rfl

/-- A key reads what its value does, or the default if it is missing. -/
theorem readKey_eq_ok_iff {α : Type} {table : Table} (keyed : table.IsKeyed) {key : String}
    {read : Value → Except Mismatch α} {default a : α} :
    readKey table key read default = .ok a ↔
      (∃ value, (key, value) ∈ table ∧ read value = .ok a) ∨
        (∀ value, (key, value) ∉ table) ∧ a = default := by
  have held (value : Value) : table.find? key = some value ↔ (key, value) ∈ table :=
    KeyedList.lookup_eq_some_iff_mem keyed
  rw [readKey]
  simp only [← held]
  cases table.find? key <;> simp [eq_comm]

/-- **A configuration that overlays the default** with what a table has under the known keys. -/
structure Overlays (table : Table) (config : Config) : Prop where
  /-- The scale is the number under its key, or the default. -/
  scale : (scaleKey, Value.integer config.scale.toNat) ∈ table ∨
    (∀ value, (scaleKey, value) ∉ table) ∧ config.scale = ({} : Config).scale
  /-- The directories are the paths of the texts under their key, or the default. -/
  searchPaths : (∃ value, (searchPathsKey, value) ∈ table ∧ ∃ texts : List String,
      value.items? = some (texts.map .string) ∧ config.searchPaths = texts.map .ofString) ∨
    (∀ value, (searchPathsKey, value) ∉ table) ∧ config.searchPaths = ({} : Config).searchPaths
  /-- The size is the number under its key, or the default. -/
  size : (sizeKey, Value.integer config.size.toNat) ∈ table ∨
    (∀ value, (sizeKey, value) ∉ table) ∧ config.size = ({} : Config).size
  /-- The theme is the text under its key, or the default. -/
  theme : (∃ text, (themeKey, Value.string text) ∈ table ∧ config.theme = some text) ∨
    (∀ value, (themeKey, value) ∉ table) ∧ config.theme = ({} : Config).theme

/-- **A table describes the configuration that overlays the default.** -/
theorem ofTable_eq_ok_iff_overlays {table : Table} (keyed : table.IsKeyed) {config : Config} :
    ofTable table = .ok config ↔ Overlays table config := by
  have themeRead (value : Value) : (readText value).map some = .ok config.theme ↔
      ∃ text, value = .string text ∧ config.theme = some text := by
    cases value <;> simp [readText, Except.map, eq_comm]
  rw [ofTable_eq_ok_iff]
  simp only [readKey_eq_ok_iff keyed, readWord_eq_ok_iff, readRow_eq_ok_iff, themeRead,
    exists_eq_right]
  constructor
  · rintro ⟨scale, paths, size, theme⟩
    refine ⟨scale, paths, size, theme.imp_left ?_⟩
    rintro ⟨_, member, text, rfl, same⟩
    exact ⟨text, member, same⟩
  · rintro ⟨scale, paths, size, theme⟩
    refine ⟨scale, paths, size, theme.imp_left ?_⟩
    rintro ⟨text, member, same⟩
    exact ⟨_, member, text, rfl, same⟩

/-- **A table describes a configuration if what is under the known keys fits.** -/
theorem exists_ofTable_eq_ok_iff {table : Table} (keyed : table.IsKeyed) :
    (∃ config, ofTable table = .ok config) ↔
      ∀ field ∈ fields, ∀ value, (field.1, value) ∈ table → field.2.Fits value := by
  rw [← failure?_eq_none_iff, failure?_ofTable, List.findSome?_eq_none_iff]
  refine forall₂_congr fun field _ => ?_
  simp only [Option.bind_eq_none_iff, mismatch?_eq_none_iff]
  exact forall_congr' fun value => imp_congr_left (KeyedList.lookup_eq_some_iff_mem keyed)

/-- **The report of a table** is about the first known key whose value does not fit. -/
theorem exists_field_of_ofTable_eq_error {table : Table} (keyed : table.IsKeyed) {cause : Mismatch}
    (failed : ofTable table = .error cause) :
    ∃ field ∈ fields, ∃ value, (field.1, value) ∈ table ∧ field.2.Refuses value cause ∧
      ∀ other ∈ fields, ∀ held, (other.1, held) ∈ table → ¬other.2.Fits held →
        field.1 ≤ other.1 := by
  rw [← failure?_eq_some_iff, failure?_ofTable, List.findSome?_eq_some_iff] at failed
  obtain ⟨before, field, after, split, reported, silent⟩ := failed
  obtain ⟨value, found, refused⟩ := Option.bind_eq_some_iff.mp reported
  -- the keys are listed in their order, so that those after the reported one sort later
  have sorted := pairwise_fields
  rw [split, List.pairwise_append] at sorted
  obtain ⟨-, later, -⟩ := sorted
  refine ⟨field, ?_, value, (KeyedList.lookup_eq_some_iff_mem keyed).mp found,
    refuses_of_mismatch? refused, ?_⟩
  · rw [split]
    exact List.mem_append_right before List.mem_cons_self
  · intro other member held present unfit
    rw [split] at member
    rcases List.mem_append.mp member with early | late
    · -- what is under the earlier keys fits
      have none := silent other early
      rw [Table.find?, (KeyedList.lookup_eq_some_iff_mem keyed).mpr present] at none
      exact absurd (mismatch?_eq_none_iff.mp none) unfit
    · rcases List.mem_cons.mp late with rfl | late
      · exact String.le_refl _
      · exact String.not_lt.mp (String.lt_asymm ((List.pairwise_cons.mp later).1 other late))

/-- Whether a key is one of a configuration. -/
def isKnown (key : String) : Bool := (fields.map Prod.fst).contains key

/-- **Only the known keys matter**, in whatever order they stand. -/
theorem ofTable_eq_of_perm {first second : Table} (firstKeyed : first.IsKeyed)
    (secondKeyed : second.IsKeyed)
    (same : (first.filter fun entry => isKnown entry.1).Perm
      (second.filter fun entry => isKnown entry.1)) : ofTable first = ofTable second := by
  have agree (key : String) (known : isKnown key = true) : first.find? key = second.find? key :=
    KeyedList.lookup_eq_of_perm_filter firstKeyed secondKeyed same known
  simp only [ofTable, readKey, agree scaleKey (by decide), agree searchPathsKey (by decide),
    agree sizeKey (by decide), agree themeKey (by decide)]

/-- A configuration is read from the table of a text. -/
theorem parse_eq_ok_iff {text : String} {config : Config} :
    parse text = .ok config ↔
      ∃ table, Toml.Document.parse? text = some table ∧ ofTable table = .ok config := by
  rw [parse]
  cases Toml.Document.parse? text with
  | none => simp
  | some table => cases described : ofTable table <;> simp [Except.mapError, described]

/-- A text is read as the table that it describes. -/
theorem parse_of_parse? {text : String} {table : Table}
    (parsed : Toml.Document.parse? text = some table) :
    parse text = (ofTable table).mapError (.unsuitable table) := by
  rw [parse, parsed]

/-- **A document overlays the default configuration.** For every text that is a document: it describes a
configuration exactly if all it has under the known keys fits, and then it is the one that overlays the
default with what is there. If it describes none, the cause is with the known key that sorts first among
those whose value does not fit. Another document with the same entries under the known keys, in any
order and with any other entries beside them, describes the same configuration. As long as all their
numbers are portable, so that every reader takes them for documents, what is reported is the wording of
the cause, and the two documents are reported in the same words. -/
theorem parse_overlays {text : String} {table : Table}
    (parsed : Toml.Document.parse? text = some table) :
    ((∃ config, parse text = .ok config) ↔
      ∀ field ∈ fields, ∀ value, (field.1, value) ∈ table → field.2.Fits value) ∧
    (∀ config, parse text = .ok config ↔ Overlays table config) ∧
    (∀ error, parse text = .error error →
      ∃ field ∈ fields, ∃ value cause, (field.1, value) ∈ table ∧ field.2.Refuses value cause ∧
        (table.isPortable = true → ∀ wording, error.message wording = cause.message) ∧
        ∀ other ∈ fields, ∀ held, (other.1, held) ∈ table → ¬other.2.Fits held →
          field.1 ≤ other.1) ∧
    ∀ otherText other, Toml.Document.parse? otherText = some other →
      (other.filter fun entry => isKnown entry.1).Perm (table.filter fun entry => isKnown entry.1) →
      (∀ config, parse otherText = .ok config ↔ parse text = .ok config) ∧
      (table.isPortable = true → other.isPortable = true → ∀ wording otherWording,
        (parse otherText).mapError (ParseError.message otherWording)
          = (parse text).mapError (ParseError.message wording)) := by
  have keyed := Toml.Document.isKeyed_of_parse? parsed
  have described (config : Config) : parse text = .ok config ↔ ofTable table = .ok config := by
    simp [parse_eq_ok_iff, parsed]
  refine ⟨?_, ?_, ?_, ?_⟩
  · simp only [described]
    exact exists_ofTable_eq_ok_iff keyed
  · intro config
    rw [described, ofTable_eq_ok_iff_overlays keyed]
  · intro error failed
    rw [parse_of_parse? parsed] at failed
    cases read : ofTable table with
    | ok config =>
      rw [read] at failed
      cases failed
    | error cause =>
      rw [read] at failed
      cases failed
      obtain ⟨field, known, value, member, refused, first⟩ :=
        exists_field_of_ofTable_eq_error keyed read
      exact ⟨field, known, value, cause, member, refused, fun _ _ => rfl, first⟩
  · intro otherText other otherParsed same
    have alike : ofTable other = ofTable table :=
      ofTable_eq_of_perm (Toml.Document.isKeyed_of_parse? otherParsed) keyed same
    constructor
    · intro config
      rw [described, parse_eq_ok_iff]
      simp [otherParsed, alike]
    · intro _ _ wording otherWording
      rw [parse_of_parse? parsed, parse_of_parse? otherParsed, alike]
      cases ofTable table with
      | ok config => rfl
      | error cause =>
        -- the errors keep the tables, which differ, but neither wording speaks of more than the cause
        rfl

/-- A document with a size and a scale that do not fit, and an unknown key. -/
def sizeFirst : String := "size = -1\nscale = true\nextra = [1, \x7ba = 2\x7d]\n"

/-- The tokens of this document. -/
theorem scan?_sizeFirst :
    Toml.Token.scan? (Toml.Document.skipMark sizeFirst.toList)
      = some [.bare "size".toList, .blank [' '], .equals, .blank [' '], .bare "-1".toList, .newline,
          .bare "scale".toList, .blank [' '], .equals, .blank [' '], .bare "true".toList, .newline,
          .bare "extra".toList, .blank [' '], .equals, .blank [' '], .openBracket, .bare ['1'],
          .comma, .blank [' '], .openBrace, .bare ['a'], .blank [' '], .equals, .blank [' '],
          .bare ['2'], .closeBrace, .closeBracket, .newline] := by
  decide +kernel

/-- A document with the same scale and size, and another unknown key. -/
def scaleFirst : String := "scale = true\nsize = -1\n[more]\nb = 3"

/-- The tokens of this document. -/
theorem scan?_scaleFirst :
    Toml.Token.scan? (Toml.Document.skipMark scaleFirst.toList)
      = some [.bare "scale".toList, .blank [' '], .equals, .blank [' '], .bare "true".toList, .newline,
          .bare "size".toList, .blank [' '], .equals, .blank [' '], .bare "-1".toList, .newline,
          .openBracket, .bare "more".toList, .closeBracket, .newline,
          .bare ['b'], .blank [' '], .equals, .blank [' '], .bare ['3']] := by
  decide +kernel

/-- Whether the size or the scale comes first, the scale is reported, and what stands beside them makes no
difference. -/
theorem parse_overlays_of_reordered :
    ∃ table other, Toml.Document.parse? sizeFirst = some table ∧ table.isPortable = true ∧
      Toml.Document.parse? scaleFirst = some other ∧ other.isPortable = true ∧
      (other.filter fun entry => isKnown entry.1).Perm
        (table.filter fun entry => isKnown entry.1) ∧
      (parse scaleFirst).mapError (ParseError.message "")
        = (parse sizeFirst).mapError (ParseError.message "") ∧
      (parse sizeFirst).mapError (ParseError.message "")
        = .error "invalid type: boolean \x60true\x60, expected u32" := by
  have parsed : Toml.Document.parse? sizeFirst = some [("size", .integer (-1)),
      ("scale", .boolean true), ("extra", .array [.integer 1, .table .inline [("a", .integer 2)]])] := by
    rw [Toml.Document.parse?, scan?_sizeFirst]
    rfl
  have otherParsed : Toml.Document.parse? scaleFirst = some [("scale", .boolean true),
      ("size", .integer (-1)), ("more", .table .header [("b", .integer 3)])] := by
    rw [Toml.Document.parse?, scan?_scaleFirst]
    rfl
  have same : List.Perm [("scale", Value.boolean true), ("size", .integer (-1))]
      [("size", .integer (-1)), ("scale", .boolean true)] := List.Perm.swap _ _ []
  obtain ⟨-, -, -, unmoved⟩ := parse_overlays parsed
  obtain ⟨-, reported⟩ := unmoved _ _ otherParsed same
  refine ⟨_, _, parsed, rfl, otherParsed, rfl, same, reported rfl rfl "" "", ?_⟩
  rw [parse_of_parse? parsed]
  rfl

end Config

end CursorThemes
