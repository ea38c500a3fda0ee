import CursorThemes.Text.Utf8

/-! # Paths

A path is a row of bytes other than a text: `/` separates its components, a leading `/` makes it
absolute, and nothing is ever normalised. `Path.join` continues one path by another; `Path.display`
is what a person is shown. -/

namespace CursorThemes

/-- A path in a file system, as it was written. -/
structure Path where
  /-- The bytes of the path. -/
  bytes : List UInt8
  deriving DecidableEq, Repr

namespace Path

/-- The byte that separates components. -/
def separator : UInt8 := 0x2f

/-- The path that a text spells. -/
def ofString (text : String) : Path := ⟨Text.toBytes text⟩

/-- The text that spells the path, if its bytes are one. -/
def text? (path : Path) : Option String := Text.ofBytes? path.bytes

/-- The path as shown to a person. -/
def display (path : Path) : String := Text.display path.bytes

/-- Whether the path starts at the root. -/
def isAbsolute (path : Path) : Bool := path.bytes.head? == some separator

/-- **A path continued by another one.** An absolute continuation stands by itself. Otherwise a
separator is put between the two, unless the first is empty or ends in one already; so the empty
continuation leaves a trailing separator. -/
def join (base rest : Path) : Path :=
  if rest.isAbsolute then rest
  else if base.bytes.isEmpty || base.bytes.getLast? == some separator then
    ⟨base.bytes ++ rest.bytes⟩
  else ⟨base.bytes ++ separator :: rest.bytes⟩

/-- The bytes between separators, in order; two separators in a row have the empty row of bytes
between them. -/
def components (path : Path) : List (List UInt8) := path.bytes.splitOnP (· == separator)

/-- Reading back the text of a path. -/
@[simp] theorem text?_ofString (text : String) : (ofString text).text? = some text :=
  Text.ofBytes?_toBytes text

/-- A path that is a text is the path that this text spells. -/
theorem eq_ofString_of_text? {path : Path} {text : String} (h : path.text? = some text) :
    path = ofString text := by
  cases path
  simp [ofString, Text.toBytes_of_ofBytes? h]

/-- The path stays in front of a relative continuation. -/
theorem bytes_join_of_relative {base rest : Path} (h : rest.isAbsolute = false) :
    base.bytes <+: (base.join rest).bytes := by
  unfold join
  rw [if_neg (by simp [h])]
  split <;> exact List.prefix_append _ _

end Path

end CursorThemes
