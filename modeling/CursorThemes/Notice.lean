import CursorThemes.Error
import CursorThemes.Path

/-! # Notices

Everything the library has to tell whoever keeps its log: what it did, and what it passed over
without failing. Each notice has a level and a wording. -/

namespace CursorThemes

/-- How much a notice matters. -/
inductive Level where
  /-- Of interest when looking for a fault. -/
  | debug
  /-- Worth knowing. -/
  | info
  /-- Something was left out. -/
  | warn
  deriving DecidableEq, Repr

/-- Why a cursor file yields no cursor. -/
inductive FileFailure where
  /-- It cannot be read. -/
  | unreadable (error : SystemError)
  /-- It is no cursor file. -/
  | malformed
  /-- It holds no images. -/
  | noImages
  deriving DecidableEq, Repr

/-- The wording of a failure to use a cursor file. -/
def FileFailure.message : FileFailure → String
  | unreadable error => "Failed to read cursor file: " ++ error.message
  | malformed => "Failed to parse X11 cursor file"
  | noImages => "no images in cursor file"

/-- Something to be told. -/
inductive Notice where
  /-- A pool exists now. -/
  | poolCreated (size : Nat)
  /-- A pool has a new capacity. -/
  | poolGrown (before after : Nat)
  /-- A file that could not be mapped could not be cut back to its length either. -/
  | fileNotCut (length : Nat) (error : SystemError)
  /-- A pool is about to go. -/
  | poolDestroyed (used capacity : Nat)
  /-- A cursor was ignored, for its name is taken. -/
  | duplicateIgnored (name : String)
  /-- A cursor could not be stored. -/
  | cursorDropped (name : String) (cause : CursorError)
  /-- No cursor of a theme could be stored. -/
  | builtinsUsed (theme : String)
  /-- A theme is complete. -/
  | themeLoaded (count : Nat) (theme : String) (used : Nat)
  /-- The files of a theme are listed. -/
  | filesFound (count : Nat) (theme : String)
  /-- A link in a directory could not be followed. -/
  | entryUnreadable (directory entry : Path) (error : SystemError)
  /-- A link in a directory leads back to the directory. -/
  | entryLoops (directory entry : Path)
  /-- A cursor file was passed over. -/
  | fileSkipped (path : Path) (cause : FileFailure)
  /-- An entry of a search path was passed over, for it needs the home directory. -/
  | homeUnknown (entry : String)
  deriving DecidableEq, Repr

namespace Notice

/-- The level of a notice. Only what was left out for a fault is a warning. -/
def level : Notice → Level
  | poolCreated _ | poolGrown _ _ | poolDestroyed _ _ => .debug
  | duplicateIgnored _ | themeLoaded _ _ _ | filesFound _ _ => .debug
  | builtinsUsed _ => .info
  | fileNotCut _ _ | cursorDropped _ _ | entryUnreadable _ _ _ | entryLoops _ _ | fileSkipped _ _
  | homeUnknown _ => .warn

/-- The wording of a notice. -/
def message : Notice → String
  | poolCreated size => "Created shm pool of " ++ toString size ++ " bytes"
  | poolGrown before after =>
    "Grew shm pool from " ++ toString before ++ " to " ++ toString after ++ " bytes"
  | fileNotCut length error =>
    "Could not shrink shm file back to " ++ toString length ++ " bytes: " ++ error.message
  | poolDestroyed used capacity =>
    "Destroying shm pool (" ++ toString used ++ " of " ++ toString capacity ++ " bytes used)"
  | duplicateIgnored name => "Ignoring duplicate cursor " ++ name
  | cursorDropped name cause => "Dropping cursor " ++ name ++ ": " ++ cause.message
  | builtinsUsed theme => "Theme " ++ theme ++ " has no cursors, using built-in cursors"
  | themeLoaded count theme used =>
    "Loaded " ++ toString count ++ " cursors for theme " ++ theme ++ " into " ++
      toString used ++ " bytes"
  | filesFound count theme =>
    "Found " ++ toString count ++ " cursor files for theme " ++ theme
  | entryUnreadable directory entry error =>
    "Skipping entry in " ++ directory.display ++ ": IO error for operation on " ++
      entry.display ++ ": " ++ error.message
  | entryLoops directory entry =>
    "Skipping entry in " ++ directory.display ++ ": File system loop found: " ++
      entry.display ++ " points to an ancestor " ++ directory.display
  | fileSkipped path cause => "Skipping cursor " ++ path.display ++ ": " ++ cause.message
  | homeUnknown entry => "No home directory known; ignoring " ++ entry

end Notice

end CursorThemes
