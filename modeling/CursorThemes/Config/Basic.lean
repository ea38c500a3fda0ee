import CursorThemes.Environment
import CursorThemes.Saturating
import CursorThemes.Text.Blank
import CursorThemes.Theme.Load

/-! # Configuration

What a user may choose: the theme, its size, the scale of the output, and where themes are looked
for. A configuration comes from defaults, from variables of the environment (`Config.ofVariables`),
or from a document (`Config.parse`, elsewhere). -/

namespace CursorThemes

/-- The size when no other one is chosen. -/
def Config.standardSize : UInt32 := 24

/-- The scale when no other one is chosen. -/
def Config.standardScale : UInt32 := 1

/-- **A user's choice of cursors.** -/
structure Config where
  /-- The name of the theme, if one is chosen. -/
  theme : Option String := none
  /-- The size in pixels of the output. -/
  size : UInt32 := Config.standardSize
  /-- How many pixels of a cursor make one pixel of the output. -/
  scale : UInt32 := Config.standardScale
  /-- The directories that hold themes. If there are none, the environment says where to look. -/
  searchPaths : List Path := []
  deriving DecidableEq, Repr

namespace Config

/-- The name of the variable with the theme. -/
def themeVariable : String := "XCURSOR_THEME"

/-- The name of the variable with the size. -/
def sizeVariable : String := "XCURSOR_SIZE"

/-- The name of the theme that is meant. -/
def themeName (config : Config) : String := config.theme.getD Theme.standardName

/-- The size of the cursors to load: at least one pixel. -/
def scaledSize (config : Config) : UInt32 :=
  let size := satMul config.size config.scale
  if size = 0 then 1 else size

/-- The word that decimal digits stand for, after a plus sign or not. -/
def word? (text : List Char) : Option UInt32 :=
  -- a single sign may stand in front
  let digits := match text with
    | '+' :: rest => rest
    | _ => text
  if digits.isEmpty || !digits.all Char.isDigit then none
  else
    let n := digits.foldl (fun high c => 10 * high + (c.toNat - '0'.toNat)) 0
    if n < UInt32.size then some (.ofNat n) else none

/-- The size that a variable holds. What is not a positive word, blanks around it apart, counts as
unset. -/
def sizeOf (text : Option String) : UInt32 :=
  match text.bind fun text => word? (Text.trim text.toList) with
  | some size => if size = 0 then standardSize else size
  | none => standardSize

/-- **The configuration of variables**, which `text?` looks up by name, and the notices about their
search path. An empty theme name counts as unset. -/
def ofVariables (text? : String → Option String) (home : Option Path) : Config × List Notice :=
  let expansion := SearchPath.ofVariable (text? Environment.pathVariable) home
  ({ theme := (text? themeVariable).filter (· != "")
     size := sizeOf (text? sizeVariable)
     searchPaths := expansion.paths }, expansion.notices)

/-- The configuration of the environment. -/
def ofEnvironment (environment : Environment) : Config × List Notice :=
  ofVariables environment.text? environment.home

/-- The directories to load from, and the notices about finding them. -/
def loaderPaths (config : Config) (environment : Environment) : SearchPath.Expansion :=
  if config.searchPaths.isEmpty then environment.searchPaths else ⟨config.searchPaths, []⟩

/-- An empty list of directories leaves the choice to the environment. -/
theorem loaderPaths_of_nil {config : Config} (h : config.searchPaths = [])
    (environment : Environment) : config.loaderPaths environment = environment.searchPaths := by
  simp [loaderPaths, h]

/-- A list of directories with an entry is used as it is. -/
theorem loaderPaths_of_ne_nil {config : Config} (h : config.searchPaths ≠ [])
    (environment : Environment) : config.loaderPaths environment = ⟨config.searchPaths, []⟩ := by
  simp [loaderPaths, h]

end Config

end CursorThemes
