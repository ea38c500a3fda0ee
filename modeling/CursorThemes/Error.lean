import CursorThemes.SystemError

/-! # What can go wrong with a cursor

The causes for which a pool, a cursor or a look-up fails, and the wording of each. A failure of the
shared memory carries its own cause (`PoolFailure`), a cursor that cannot be stored says what is
wrong with it (`Defect`). -/

namespace CursorThemes

/-- The largest pool that can be announced: sizes and offsets travel as signed 32-bit words. -/
def maxPoolSize : Nat := 2147483647

/-- Why shared memory could not be had. -/
inductive PoolFailure where
  /-- The operating system or the service refused a call, with this error. -/
  | system (error : SystemError)
  /-- A first size is larger than any pool. -/
  | oversized (size : Nat)
  /-- Growing would exceed the largest pool. -/
  | exhausted
  /-- Nothing was asked for. -/
  | nothingRequested
  deriving DecidableEq, Repr

/-- The wording of a failure of shared memory. -/
def PoolFailure.message : PoolFailure → String
  | system error => error.message
  | oversized size =>
    "initial pool size " ++ toString size ++ " exceeds " ++ toString maxPoolSize
  | exhausted => "pool cannot exceed " ++ toString maxPoolSize ++ " bytes"
  | nothingRequested => "zero-sized allocation"

/-- What is wrong with a cursor that cannot be stored. -/
inductive Defect where
  /-- It has no name. -/
  | emptyName
  /-- It has no frames. -/
  | noFrames
  /-- A frame has no width or no height. -/
  | emptyFrame (width height : UInt32)
  /-- A frame does not fit into any pool, or its rows are too long to be announced. -/
  | oversizedFrame (width height : UInt32)
  /-- A frame does not have four bytes for every pixel. -/
  | wrongLength (width height : UInt32) (actual expected : Nat)
  /-- The place for a frame is not in the pool. -/
  | outsidePool
  deriving DecidableEq, Repr

/-- The wording of a defect. -/
def Defect.message : Defect → String
  | emptyName => "empty name"
  | noFrames => "no frames"
  | emptyFrame width height => "empty " ++ toString width ++ "x" ++ toString height ++ " frame"
  | oversizedFrame width height =>
    toString width ++ "x" ++ toString height ++ " frame is too large"
  | wrongLength width height actual expected =>
    toString width ++ "x" ++ toString height ++ " frame has " ++ toString actual ++
      " bytes of pixels, expected " ++ toString expected
  | outsidePool => "allocation outside the pool"

/-- Why an operation on pools, cursors and themes failed. -/
inductive CursorError where
  /-- A pool of the given capacity could not take more bytes. -/
  | allocation (requested capacity : Nat) (cause : PoolFailure)
  /-- A pool could not be created. -/
  | creation (cause : PoolFailure)
  /-- A theme has no cursor of the given name. -/
  | notFound (name : String)
  /-- A cursor cannot be stored as it is. -/
  | malformed (name : String) (defect : Defect)
  deriving DecidableEq, Repr

namespace CursorError

/-- The wording of an error. The cause of a failed pool is told apart, by `CursorError.cause?`. -/
def message : CursorError → String
  | allocation requested capacity _ =>
    "could not grow the shm pool from " ++ toString capacity ++ " bytes to fit " ++
      toString requested ++ " more"
  | creation _ => "could not create the shared memory backing"
  | notFound name => "theme has no cursor named \x60" ++ name ++ "\x60"
  | malformed name defect => "cursor \x60" ++ name ++ "\x60 is malformed: " ++ defect.message

/-- The failure of shared memory behind an error, if there is one. -/
def cause? : CursorError → Option PoolFailure
  | allocation _ _ cause => some cause
  | creation cause => some cause
  | notFound _ => none
  | malformed _ _ => none

end CursorError

end CursorThemes
