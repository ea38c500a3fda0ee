import CursorThemes.Config.Basic
import CursorThemes.Xcursor.Loader

/-! # Installed themes

Themes from the cursor files on a machine: where they are looked for is a matter of the environment,
or of a configuration.

* **`Theme.loadInstalled`** loads a theme from where the environment says.
* **`Theme.loadConfigured`** loads the theme that a configuration chooses. -/

namespace CursorThemes.Theme

/-- **An installed theme**, looked for where the environment says. -/
def loadInstalled (tree : FileTree) (environment : Environment) (name : Option String)
    (size : UInt32) (trouble : Trouble) (host : Host) : Loading :=
  let expansion := environment.searchPaths
  load name size (Xcursor.loader tree expansion.paths) trouble (host.logAll expansion.notices)

/-- **The theme of a configuration**, at its scaled size. -/
def loadConfigured (tree : FileTree) (environment : Environment) (config : Config)
    (trouble : Trouble) (host : Host) : Loading :=
  let expansion := config.loaderPaths environment
  load config.theme config.scaledSize (Xcursor.loader tree expansion.paths) trouble
    (host.logAll expansion.notices)

end CursorThemes.Theme
