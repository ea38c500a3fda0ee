import CursorThemes.Config.Document
import CursorThemes.FileTree

/-! # Configuration files

A configuration may lie in a file: `Config.load` reads it. -/

namespace CursorThemes

/-- Why a file cannot be read as a text. -/
inductive TextFailure where
  /-- The operating system refused a call. -/
  | system (error : SystemError)
  /-- The path has the byte in it that ends a path. -/
  | endedPath
  /-- The bytes are no text. -/
  | notText
  deriving DecidableEq, Repr

/-- The wording of a failure to read a text. -/
def TextFailure.message : TextFailure → String
  | system error => error.message
  | endedPath => "file name contained an unexpected NUL byte"
  | notText => "stream did not contain valid UTF-8"

/-- The text in the file of a path. -/
def FileTree.readText (tree : FileTree) (path : Path) : Except TextFailure String :=
  if path.bytes.contains 0 then .error .endedPath
  else
    match tree.read path with
    | .error error => .error (.system error)
    | .ok content =>
      match Text.ofBytes? content with
      | none => .error .notText
      | some text => .ok text

/-- Why a configuration file cannot be used. -/
inductive ConfigError where
  /-- It cannot be read. -/
  | unreadable (path : Path) (cause : TextFailure)
  /-- It does not describe a configuration. -/
  | invalid (path : Path) (cause : ParseError)
  deriving Repr

/-- The wording of an error. How the text of a file is shown around what is wrong with it is the matter
of whoever reads documents, and is given as `shown`. -/
def ConfigError.message (shown : ParseError → String) : ConfigError → String
  | unreadable path cause => "invalid configuration: " ++ path.display ++ ": " ++ cause.message
  | invalid path cause => "invalid configuration: " ++ path.display ++ ": " ++ shown cause

/-- **The configuration in a file.** -/
def Config.load (tree : FileTree) (path : Path) : Except ConfigError Config :=
  match tree.readText path with
  | .error cause => .error (.unreadable path cause)
  | .ok text =>
    match Config.parse text with
    | .error cause => .error (.invalid path cause)
    | .ok config => .ok config

end CursorThemes
