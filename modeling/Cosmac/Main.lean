/-
**The command line.**

Everything is decided by `Opening` and `Round`; what is here opens the file and the terminal, reads
and prints. Keys are read a line at a time: each line typed is what one poll meets, and the end of
what is typed counts as escape.
-/

import Cosmac.Launch.Session
import Cosmac.Screen.Ansi
import Cosmac.Screen.Buffered

namespace Cosmac.CommandLine

/-- The input error that a failure amounts to. -/
def inputError : IO.Error → IoError
  | .noFileOrDirectory .. => .system .noEntry
  | .permissionDenied .. => .system .accessDenied
  | error => .described .other (toString error)

/-- The bytes of an open file, up to one more than a program can have. -/
def readContents (file : IO.FS.Handle) : IO (List UInt8) := do
  let limit := programCapacity + 1
  let mut data := ByteArray.empty
  for _ in [0:limit] do
    let found ← file.read (limit - data.size).toUSize
    if found.isEmpty then break
    data := data ++ found
  return data.toList

/-- Open a file, and read it if it is a regular one. -/
def openFile (path : String) : IO (Except IoError Handle) := do
  try
    let file ← IO.FS.Handle.mk path .read
    let entry : IO.FS.DirEntry := ⟨".", path⟩
    let found ← entry.path.metadata
    let metadata : Metadata := ⟨found.type == .file, found.byteSize.toNat⟩
    let data ← if metadata.isRegular then readContents file else pure []
    return .ok ⟨.ok metadata, .ofBytes data⟩
  catch error => return .error (inputError error)

/-- The terminal to read keys from. -/
def openTerminal : IO (Option IO.FS.Handle) := do
  try return some (← IO.FS.Handle.mk "/dev/tty" .read)
  catch _ => return none

/-- A number that the environment gives, or else the usual one. -/
def environmentNumber (name : String) (usual : Nat) : IO Nat := do
  return ((← IO.getEnv name).bind String.toNat?).getD usual

/-- The library that frames are drawn through. -/
def library : TerminalLibrary := .buffered

/-- Rounds until the program exits; the answer is its exit status. -/
partial def playRounds (input : IO.FS.Handle) (terminal : Size) (framebuffer : Framebuffer)
    (kept : library.Kept) (keyboard : Keyboard) (keypad : Keypad) : IO Nat := do
  let line ← input.getLine
  let events :=
    if line.isEmpty then [.escape]
    else (line.toList.filter (· ≠ '\n')).map Event.ofSent
  let round := Round.of library terminal kept keyboard keypad framebuffer events
  round.polled.warnings.forM IO.eprintln
  round.shown.forM fun screen => IO.print screen.ansi
  match round.status? with
  | none =>
    playRounds input terminal framebuffer round.kept round.polled.keyboard round.polled.keypad
  | some status =>
    for _ in [0:round.closingLines] do IO.println ""
    return status

/-- Run the program; the answer is its exit status. -/
def run (arguments : List String) : IO Nat := do
  let disk : Disk ← match Options.parse arguments with
    | none => pure fun _ => .error (.system .noEntry)
    | some options =>
      let opened ← openFile options.program
      pure fun _ => opened
  let terminal ← openTerminal
  match Opening.ofArguments disk terminal.isSome arguments, terminal with
  | .ready said keyboard machine, some input =>
    said.forM IO.eprintln
    let columns ← environmentNumber "COLUMNS" 80
    let rows ← environmentNumber "LINES" 40
    let terminal : Size := ⟨columns, rows⟩
    playRounds input terminal machine.framebuffer (library.start terminal) keyboard machine.keypad
  | .ready said _ _, none =>
    said.forM IO.eprintln
    return Session.failure
  | .exit status said, _ =>
    said.forM IO.eprintln
    return status

end Cosmac.CommandLine

/-- The command line: the exit status is what the run comes to. -/
def main (arguments : List String) : IO UInt32 := do
  return UInt32.ofNat (← Cosmac.CommandLine.run arguments)
