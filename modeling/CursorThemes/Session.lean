import CursorThemes.Theme.Load

/-! # Sessions

Any number of themes that share one host. Each theme has a place; loading into a place ends the
theme that was there.

* **`Session.load`**, **`Session.present?`** and **`Session.drop`** are what a client does.
* **`Session.run`** does any number of such things, told as a list of `Action`s. -/

namespace CursorThemes

/-- **The themes of a client, and their host.** -/
structure Session where
  /-- The host that all themes share. -/
  host : Host := {}
  /-- The theme at each place. -/
  themes : Nat → Option Theme := fun _ => none

namespace Session

/-- The session with another theme, or none, at a place. -/
def put (session : Session) (place : Nat) (theme : Option Theme) : Session :=
  { session with themes := fun other => if other = place then theme else session.themes other }

/-- The theme at a place goes, if there is one. -/
def drop (session : Session) (place : Nat) : Session :=
  match session.themes place with
  | none => session
  | some theme => { session with host := theme.destroy session.host }.put place none

/-- A place is freed and taken by the theme that `load` comes to, if it comes to one. -/
def replace (session : Session) (place : Nat) (load : Host → Loading) : Loading × Session :=
  let session := session.drop place
  let loading := load session.host
  (loading, { session with host := loading.host }.put place loading.outcome.toOption)

/-- **A theme is loaded into a place**, which is free afterwards if the load fails. -/
def load (session : Session) (place : Nat) (name : Option String) (size : UInt32)
    (loader : Loader) (trouble : Trouble) : Loading × Session :=
  session.replace place (Theme.load name size loader trouble)

/-- The buffer of image `j` of cursor `i` of the theme at a place, if there is such an image. -/
def present? (session : Session) (place i j : Nat) : Option (Handle × Session) :=
  match session.themes place with
  | none => none
  | some theme =>
    match theme.present? i j session.host with
    | none => none
    | some (buffer, theme, host) =>
      some (buffer, { session with host := host }.put place (some theme))

/-- What can be done to a session. -/
inductive Action where
  /-- Load a theme into a place. -/
  | load (place : Nat) (name : Option String) (size : UInt32) (loader : Loader)
    (trouble : Trouble)
  /-- Ask for the buffer of image `j` of cursor `i` of the theme at a place. -/
  | present (place i j : Nat)
  /-- Drop the theme at a place. -/
  | drop (place : Nat)

/-- The session after an action. Asking for an image that is not there changes nothing. -/
def step (session : Session) : Action → Session
  | .load place name size loader trouble => (session.load place name size loader trouble).2
  | .present place i j =>
    match session.present? place i j with
    | some (_, session) => session
    | none => session
  | .drop place => session.drop place

/-- **The session after actions**, in order. -/
def run (session : Session) (actions : List Action) : Session := actions.foldl step session

@[simp] theorem host_put (session : Session) (place : Nat) (theme : Option Theme) :
    (session.put place theme).host = session.host := rfl

@[simp] theorem themes_put_self (session : Session) (place : Nat) (theme : Option Theme) :
    (session.put place theme).themes place = theme := if_pos rfl

/-- Other places are left alone. -/
theorem themes_put_of_ne (session : Session) {place other : Nat} (h : other ≠ place)
    (theme : Option Theme) : (session.put place theme).themes other = session.themes other :=
  if_neg h

end Session

end CursorThemes
