/-! # Blank characters

The characters with the Unicode property `White_Space`, and the removal of such characters from both
ends of a text. Core's `Char.isWhitespace` knows only the ASCII part of the table. -/

namespace CursorThemes.Text

/-- Whether a character has the property `White_Space`. -/
def isBlank (c : Char) : Bool :=
  let n := c.toNat
  (0x09 ≤ n && n ≤ 0x0d) || n == 0x20 || n == 0x85 || n == 0xa0 || n == 0x1680 ||
    (0x2000 ≤ n && n ≤ 0x200a) || n == 0x2028 || n == 0x2029 || n == 0x202f || n == 0x205f ||
    n == 0x3000

/-- A text without the blank characters at its two ends. -/
def trim (text : List Char) : List Char :=
  ((text.dropWhile isBlank).reverse.dropWhile isBlank).reverse

/-- The empty text has nothing to lose. -/
@[simp] theorem trim_nil : trim [] = [] := rfl

end CursorThemes.Text
