/-! # Errors of input and output

What a call of the operating system, or of the service, can be refused with, and how it is worded.
Common errors of the operating system have names here; any other error, whoever refused the call, is
known by its wording. -/

namespace CursorThemes

/-- Why a call was refused. -/
inductive SystemError where
  /-- Nothing is there under the given name. -/
  | noEntry
  /-- There is no memory to map a file into. -/
  | outOfMemory
  /-- A component of a path that has to be a directory is something else. -/
  | notDirectory
  /-- A directory stands where a file is needed. -/
  | isDirectory
  /-- The process has too many open files. -/
  | tooManyFiles
  /-- A file cannot become as long as wished. -/
  | fileTooLarge
  /-- A component of a path, or the path, is too long. -/
  | nameTooLong
  /-- Too many symbolic links were met on one path. -/
  | tooManyLinks
  /-- Any other error, in the words of whoever refused the call. -/
  | other (wording : String)
  deriving DecidableEq, Repr

namespace SystemError

/-- The number that the operating system gives the error. -/
def number? : SystemError → Option Nat
  | noEntry => some 2
  | outOfMemory => some 12
  | notDirectory => some 20
  | isDirectory => some 21
  | tooManyFiles => some 24
  | fileTooLarge => some 27
  | nameTooLong => some 36
  | tooManyLinks => some 40
  | other _ => none

/-- The error in words. -/
def description : SystemError → String
  | noEntry => "No such file or directory"
  | outOfMemory => "Cannot allocate memory"
  | notDirectory => "Not a directory"
  | isDirectory => "Is a directory"
  | tooManyFiles => "Too many open files"
  | fileTooLarge => "File too large"
  | nameTooLong => "File name too long"
  | tooManyLinks => "Too many levels of symbolic links"
  | other wording => wording

/-- The full wording, with the number if there is one. -/
def message (error : SystemError) : String :=
  match error.number? with
  | some number => error.description ++ " (os error " ++ toString number ++ ")"
  | none => error.description

end SystemError

end CursorThemes
