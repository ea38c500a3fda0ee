import CursorThemes.Builtin.Collection
import CursorThemes.Theme.Basic

/-! # Loading a theme

A theme is loaded from whatever a loader delivers for its name and size.

* A **`Loader`** answers with a `Catalogue`: sprites, and the notices that it logs on the way to
  each.
* **`Theme.load`** makes a pool, adds the sprites in order, and turns to the built-in cursors if
  none could be stored. Only a failure to make the pool fails the load.
* **`Trouble`** says what fails on the way: anything, or nothing at all. -/

namespace CursorThemes

/-- A sprite, and what is logged while it is fetched. -/
structure Delivery where
  /-- The notices logged before the sprite is there. -/
  notices : List Notice
  /-- The sprite. -/
  sprite : Sprite
  deriving DecidableEq, Repr

/-- What a loader has for a theme. -/
structure Catalogue where
  /-- The notices logged when the theme is asked for. -/
  opening : List Notice := []
  /-- The sprites, in order. -/
  deliveries : List Delivery
  /-- The notices logged on the way to the end, after the last sprite. -/
  closing : List Notice := []
  deriving DecidableEq, Repr

/-- A loader has sprites for a theme name and a pixel size. -/
abbrev Loader := String → UInt32 → Catalogue

/-- The catalogue of sprites that are at hand. -/
def Catalogue.ofSprites (sprites : List Sprite) : Catalogue :=
  { deliveries := sprites.map fun sprite => ⟨[], sprite⟩ }

/-- The loader that has the built-in cursors, for every name and size. -/
def Builtin.loader : Loader := fun _ _ => .ofSprites Builtin.sprites

/-- What a loader is asked for. -/
inductive Question where
  /-- The sprites of a theme at a pixel size. -/
  | theme (name : String) (size : UInt32)
  /-- The next sprite. -/
  | next
  deriving DecidableEq, Repr

/-- What goes wrong in the course of a load. -/
structure Trouble where
  /-- What stands in the way of the pool. -/
  creation : Obstacles := {}
  /-- The system call that fails while frame `j` of sprite `i` is stored. -/
  storing : Nat → Nat → Option SystemCall := fun _ _ => none
  /-- The system call that fails while frame `j` of built-in cursor `i` is stored. -/
  fallback : Nat → Nat → Option SystemCall := fun _ _ => none

/-- How a load went. -/
structure Loading where
  /-- The theme, or why there is none. -/
  outcome : Except CursorError Theme
  /-- What the loader was asked for, in order. -/
  asked : List Question
  /-- The host afterwards. -/
  host : Host

namespace Theme

/-- The first capacity of the pool of a theme: room for one image of the size, as far as a pool can
have it. -/
def firstCapacity (size : UInt32) : Nat :=
  min (size.toNat * size.toNat * bytesPerPixel) maxPoolSize

/-- The theme with sprites added in order. `faults i j` is the system call that fails while frame
`j` of sprite `i` is stored. -/
def addSprites (faults : Nat → Nat → Option SystemCall) (theme : Theme) (host : Host) :
    List Sprite → Theme × Host
  | [] => (theme, host)
  | sprite :: later =>
    let (theme, host) := theme.add sprite (faults 0) host
    addSprites (fun i => faults (i + 1)) theme host later

/-- The theme with what a loader delivers added in order, each delivery asked for when the one
before is dealt with. -/
def addDeliveries (faults : Nat → Nat → Option SystemCall) (theme : Theme) (host : Host) :
    List Delivery → Theme × List Question × Host
  | [] => (theme, [.next], host)
  | delivery :: later =>
    let (theme, host) := theme.add delivery.sprite (faults 0) (host.logAll delivery.notices)
    let (theme, asked, host) := addDeliveries (fun i => faults (i + 1)) theme host later
    (theme, .next :: asked, host)

/-- The theme with the built-in cursors, under the standard name, if it has no cursors. -/
def orBuiltins (faults : Nat → Nat → Option SystemCall) (theme : Theme) (host : Host) :
    Theme × Host :=
  if theme.cursors.isEmpty then
    addSprites faults { theme with name := standardName } (host.log (.builtinsUsed theme.name))
      Builtin.sprites
  else (theme, host)

/-- **A theme from what a loader has** for the name, or for the standard name if none is given. -/
def load (name : Option String) (size : UInt32) (loader : Loader) (trouble : Trouble)
    (host : Host) : Loading :=
  let name := name.getD standardName
  match Pool.create (firstCapacity size) trouble.creation host with
  | (.error error, host) => ⟨.error error, [], host⟩
  | (.ok pool, host) =>
    -- the loader is asked only when there is a pool to fill
    let catalogue := loader name size
    let (theme, asked, host) :=
      addDeliveries trouble.storing ⟨name, size, [], pool⟩ (host.logAll catalogue.opening)
        catalogue.deliveries
    let (theme, host) := orBuiltins trouble.fallback theme (host.logAll catalogue.closing)
    ⟨.ok theme, .theme name size :: asked,
      host.log (.themeLoaded theme.cursors.length theme.name theme.pool.used)⟩

end Theme

end CursorThemes
