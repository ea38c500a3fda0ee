/-! # Tokens of a TOML document

The pieces that a TOML document is made of: marks, blanks, ends of lines, texts in quotation marks and
bare words. Comments are no pieces. What each character can be part of is said here, too. -/

namespace CursorThemes.Toml

/-- **A piece of a TOML document.** -/
inductive Token where
  /-- A dot. -/
  | dot
  /-- An equals sign. -/
  | equals
  /-- A comma. -/
  | comma
  /-- An opening bracket. -/
  | openBracket
  /-- A closing bracket. -/
  | closeBracket
  /-- An opening brace. -/
  | openBrace
  /-- A closing brace. -/
  | closeBrace
  /-- The end of a line. -/
  | newline
  /-- Spaces and tabs. -/
  | blank (chars : List Char)
  /-- A text in quotation marks, which may run over several lines if so marked. -/
  | quoted (text : String) (multiline : Bool)
  /-- Any other characters in a row. -/
  | bare (chars : List Char)
  deriving DecidableEq, Repr

namespace Token

/-- Whether a character is a space or a tab. -/
def isSpace (c : Char) : Bool := c == ' ' || c == '\t'

/-- Whether a character may stand in a text or a comment of one line. -/
def isPlain (c : Char) : Bool := c == '\t' || (' ' ≤ c && c != '\x7f')

/-- The mark that a character is by itself. -/
def mark? : Char → Option Token
  | '.' => some dot
  | '=' => some equals
  | ',' => some comma
  | '[' => some openBracket
  | ']' => some closeBracket
  | '\x7b' => some openBrace
  | '\x7d' => some closeBrace
  | _ => none

/-- Whether a character can stand in a bare word. -/
def isBare (c : Char) : Bool :=
  !isSpace c && c != '\n' && c != '\r' && c != '"' && c != '\'' && c != '#' && (mark? c).isNone

end Token

end CursorThemes.Toml
