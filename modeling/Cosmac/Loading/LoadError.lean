/-
**Load errors: why a program was not loaded.**

* `LoadError` — the causes.
* `LoadError.ofIoError` — the cause that an input error at a path amounts to: a missing file and a
  forbidden one are told apart by their kind and keep the path, all else is an input failure.
* `LoadError.notRegular` — the error for a directory or a device.
* `LoadError.message`, `LoadError.term`, `LoadError.source` — the text for a reader, the text that
  spells out the parts, and the input error underneath, if there is one.
-/

import Cosmac.Loading.IoError
import Cosmac.Text.Outline

namespace Cosmac

/-- Why a program was not loaded. -/
inductive LoadError where
  /-- There is no file at the path. -/
  | missing (path : String)
  /-- The file at the path may not be read. -/
  | forbidden (path : String)
  /-- `size` bytes were offered, or that many seen before giving up, and `room` would have
  fitted. -/
  | tooLarge (size room : Nat)
  /-- Reading failed. -/
  | unreadable (error : IoError)
deriving DecidableEq

namespace LoadError

/-- What an input error at a path amounts to. -/
def ofIoError (path : String) (error : IoError) : LoadError :=
  match error.kind with
  | .notFound => missing path
  | .permissionDenied => forbidden path
  | _ => unreadable error

/-- The error for a path at which there is something, but not a regular file. -/
def notRegular (path : String) : LoadError :=
  unreadable (.described .other (path ++ " is not a regular file"))

/-- The text of a load error for a reader. -/
def message : LoadError → String
  | missing path => "no program at " ++ path
  | forbidden path => "not allowed to read program " ++ path
  | tooLarge size room =>
    "program is " ++ Text.decimal size ++ " bytes but only " ++ Text.decimal room ++
      " bytes are available"
  | unreadable error => "failed reading program: " ++ error.message

/-- The text of a load error that spells out its parts. A path stands between double quotation
marks, so a single one in it stands for itself. -/
def term : LoadError → String
  | missing path => "NotFound(" ++ Text.quotedString path ++ ")"
  | forbidden path => "PermissionDenied(" ++ Text.quotedString path ++ ")"
  | tooLarge size room =>
    (Text.Outline.record "ProgramTooLarge"
      [("size", .number size), ("max", .number room)]).onOneLine
  | unreadable error => "IoFailure(" ++ error.term ++ ")"

/-- The input error underneath a load error. -/
def source : LoadError → Option IoError
  | unreadable error => some error
  | _ => none

end LoadError

end Cosmac
