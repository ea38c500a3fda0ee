import CursorThemes.SearchPath

/-! # The environment of a process

The variables and the home directory that a process is started with. A variable holds bytes; one
that is no text counts as unset. -/

namespace CursorThemes

/-- **What a process finds around it.** -/
structure Environment where
  /-- The name and the bytes of each variable that is set. -/
  bindings : List (String × List UInt8) := []
  /-- The home directory, if it is known. -/
  home : Option Path
  deriving DecidableEq, Repr

namespace Environment

/-- The text of a variable, if it is set and is one. -/
def text? (environment : Environment) (name : String) : Option String :=
  (environment.bindings.lookup name).bind Text.ofBytes?

/-- The name of the variable with the search path. -/
def pathVariable : String := "XCURSOR_PATH"

/-- **The directories to look for themes in.** -/
def searchPaths (environment : Environment) : SearchPath.Expansion :=
  SearchPath.ofVariable (environment.text? pathVariable) environment.home

end Environment

end CursorThemes
