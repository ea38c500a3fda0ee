/-! # Quotation marks of TOML

How a text is put between quotation marks, so that it can be read with the least disguise.

* **`Quoting.of`** picks one of four kinds of marks for a text.
* **`Quoting.quote`** writes the text between the marks. -/

namespace CursorThemes.Toml

/-- **The kinds of quotation marks.** -/
inductive Quoting where
  /-- Quotation marks on one line, with escapes. -/
  | basic
  /-- Apostrophes on one line. Nothing is escaped. -/
  | literal
  /-- Threefold quotation marks, with escapes. Ends of lines stand for themselves. -/
  | multilineBasic
  /-- Threefold apostrophes. Nothing is escaped. -/
  | multilineLiteral
  deriving DecidableEq, Repr

namespace Quoting

/-- Whether a character is a control other than a tab and the end of a line. -/
def isControl (c : Char) : Bool := (c < ' ' && c != '\t' && c != '\n') || c == '\x7f'

/-- The length of the longest run of a mark in a text, when a run of `current` marks stands in front
of it. -/
def longestRun (mark : Char) (current : Nat) : List Char → Nat
  | [] => current
  | c :: rest =>
    if c = mark then longestRun mark (current + 1) rest
    else max current (longestRun mark 0 rest)

/-- **The quotation marks for a text.** -/
def of (text : List Char) : Quoting :=
  -- a control can be written with escapes only
  if text.any isControl then (if text.contains '\n' then multilineBasic else basic)
  else if !text.contains '\\' && !text.contains '"' && !text.contains '\n' then basic
  else if !text.contains '\'' && !text.contains '\n' then literal
  else if !text.contains '\\' && longestRun '"' 0 text ≤ 2 then multilineBasic
  else if longestRun '\'' 0 text ≤ 2 then multilineLiteral
  else if text.contains '\n' then multilineBasic
  else basic

/-- A digit in base 16, in upper case. -/
def hexDigit (n : Nat) : Char := if n < 10 then .ofNat ('0'.toNat + n) else .ofNat ('A'.toNat + n - 10)

/-- The escape of a control or a backslash; `none` for a character that stands for itself in a text
of several lines. -/
def escape? (c : Char) : Option (List Char) :=
  if c = '\x08' then some ['\\', 'b']
  else if c = '\t' then some ['\\', 't']
  else if c = '\x0c' then some ['\\', 'f']
  else if c = '\r' then some ['\\', 'r']
  else if c = '\\' then some ['\\', '\\']
  else if isControl c then
    some ['\\', 'u', '0', '0', hexDigit (c.toNat / 16), hexDigit (c.toNat % 16)]
  else none

/-- A character between quotation marks on one line. -/
def basicChar (c : Char) : List Char :=
  if c = '"' then ['\\', '"']
  else if c = '\n' then ['\\', 'n']
  else (escape? c).getD [c]

/-- A text between threefold quotation marks, after `run` quotation marks. The third one in a row is
escaped, and counting starts again after it as after any escape. -/
def multilineBasicBody (run : Nat) : List Char → List Char
  | [] => []
  | c :: rest =>
    if c = '"' then
      if run = 2 then '\\' :: '"' :: multilineBasicBody 0 rest
      else '"' :: multilineBasicBody (run + 1) rest
    else (escape? c).getD [c] ++ multilineBasicBody 0 rest

/-- A text of several lines starts on a line of its own. -/
def firstLine (text : List Char) : List Char := if text.contains '\n' then ['\n'] else []

/-- **A text between quotation marks** of a kind. -/
def quote (quoting : Quoting) (text : List Char) : List Char :=
  match quoting with
  | basic => '"' :: text.flatMap basicChar ++ ['"']
  | literal => '\'' :: text ++ ['\'']
  | multilineBasic =>
    ['"', '"', '"'] ++ firstLine text ++ multilineBasicBody 0 text ++ ['"', '"', '"']
  | multilineLiteral =>
    ['\'', '\'', '\''] ++ firstLine text ++ text ++ ['\'', '\'', '\'']

/-- An empty text stands between plain quotation marks. -/
@[simp] theorem of_nil : of [] = basic := rfl

end Quoting

/-- A text between the quotation marks for it. -/
def quoted (text : String) : List Char := (Quoting.of text.toList).quote text.toList

end CursorThemes.Toml
