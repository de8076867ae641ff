/-
**Input errors: what can go wrong when bytes are asked of the outside.**

* `IoKind` — the kinds of error, with `name` and, for an error that says nothing else, `phrase`.
* `SystemError` — the numbered errors of the operating system, with their kinds and texts.
* `IoError` — an error: a bare kind, a kind with a text of its own, a numbered error, or a path
  that cannot be passed on because it holds a NUL.
* `IoError.kind`, `IoError.message`, `IoError.term` — its kind, the text for a reader, and the
  text that spells out its parts.
-/

import Cosmac.Text.Numeral
import Cosmac.Text.Quoted

namespace Cosmac

/-- The kinds of input error. -/
inductive IoKind where
  | notFound
  | permissionDenied
  | interrupted
  | unexpectedEof
  | invalidData
  | invalidInput
  | timedOut
  | brokenPipe
  | notADirectory
  | invalidFilename
  | filesystemLoop
  | inputOutput
  | uncategorized
  | other
  /-- Any further kind. -/
  | further (name phrase : String)
deriving DecidableEq

namespace IoKind

/-- The name of a kind. -/
def name : IoKind → String
  | notFound => "NotFound"
  | permissionDenied => "PermissionDenied"
  | interrupted => "Interrupted"
  | unexpectedEof => "UnexpectedEof"
  | invalidData => "InvalidData"
  | invalidInput => "InvalidInput"
  | timedOut => "TimedOut"
  | brokenPipe => "BrokenPipe"
  | notADirectory => "NotADirectory"
  | invalidFilename => "InvalidFilename"
  | filesystemLoop => "FilesystemLoop"
  | inputOutput => "InputOutputError"
  | uncategorized => "Uncategorized"
  | other => "Other"
  | further name _ => name

/-- What an error of this kind says when it has no text of its own. -/
def phrase : IoKind → String
  | notFound => "entity not found"
  | permissionDenied => "permission denied"
  | interrupted => "operation interrupted"
  | unexpectedEof => "unexpected end of file"
  | invalidData => "invalid data"
  | invalidInput => "invalid input parameter"
  | timedOut => "timed out"
  | brokenPipe => "broken pipe"
  | notADirectory => "not a directory"
  | invalidFilename => "invalid filename"
  | filesystemLoop => "filesystem loop or indirection limit (e.g. symlink loop)"
  | inputOutput => "input/output error"
  | uncategorized => "uncategorized error"
  | other => "other error"
  | further _ phrase => phrase

end IoKind

/-- The numbered errors of the operating system. -/
inductive SystemError where
  | noEntry
  | inputOutput
  | noSuchDevice
  | accessDenied
  | notADirectory
  | nameTooLong
  | tooManyLinks
  /-- Any further number. -/
  | further (code : Nat) (kind : IoKind) (phrase : String)
deriving DecidableEq

namespace SystemError

/-- The number of an error. -/
def code : SystemError → Nat
  | noEntry => 2
  | inputOutput => 5
  | noSuchDevice => 6
  | accessDenied => 13
  | notADirectory => 20
  | nameTooLong => 36
  | tooManyLinks => 40
  | further code _ _ => code

/-- The kind of an error. -/
def kind : SystemError → IoKind
  | noEntry => .notFound
  | inputOutput => .inputOutput
  | noSuchDevice => .uncategorized
  | accessDenied => .permissionDenied
  | notADirectory => .notADirectory
  | nameTooLong => .invalidFilename
  | tooManyLinks => .filesystemLoop
  | further _ kind _ => kind

/-- What the operating system says of an error. -/
def phrase : SystemError → String
  | noEntry => "No such file or directory"
  | inputOutput => "Input/output error"
  | noSuchDevice => "No such device or address"
  | accessDenied => "Permission denied"
  | notADirectory => "Not a directory"
  | nameTooLong => "File name too long"
  | tooManyLinks => "Too many levels of symbolic links"
  | further _ _ phrase => phrase

end SystemError

/-- An input error. -/
inductive IoError where
  /-- Only the kind is known. -/
  | bare (kind : IoKind)
  /-- The kind, and a text that tells more. -/
  | described (kind : IoKind) (text : String)
  /-- The operating system refused. -/
  | system (error : SystemError)
  /-- A path holds a NUL, so it cannot be asked for. -/
  | nulInPath
deriving DecidableEq

namespace IoError

/-- The kind of an error. -/
def kind : IoError → IoKind
  | bare kind => kind
  | described kind _ => kind
  | system error => error.kind
  | nulInPath => .invalidInput

/-- What is said of a path that holds a NUL. -/
def nulInPathText : String := "file name contained an unexpected NUL byte"

/-- The text of an error for a reader. -/
def message : IoError → String
  | bare kind => kind.phrase
  | described _ text => text
  | system error => error.phrase ++ " (os error " ++ Text.decimal error.code ++ ")"
  | nulInPath => nulInPathText

/-- The text of an error that spells out its parts. -/
def term : IoError → String
  | bare kind => "Kind(" ++ kind.name ++ ")"
  | described kind text =>
    "Custom \x7b kind: " ++ kind.name ++ ", error: " ++ Text.quotedString text ++ " \x7d"
  | system error =>
    "Os \x7b code: " ++ Text.decimal error.code ++ ", kind: " ++ error.kind.name ++
      ", message: " ++ Text.quotedString error.phrase ++ " \x7d"
  | nulInPath =>
    "Error \x7b kind: " ++ IoKind.invalidInput.name ++ ", message: " ++
      Text.quotedString nulInPathText ++ " \x7d"

end IoError

end Cosmac
