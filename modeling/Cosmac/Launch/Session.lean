/-
**Sessions: the program from its start to its exit.**

A session reads its options, loads a program and then goes round: poll the keyboard, draw a frame,
until a poll has met escape. No instruction is carried out, so every frame shows the framebuffer
as the machine was switched on.

* `Surroundings` — the disk, the terminal, and the events that each poll will meet.
* `Opening` — how a session opens: at once with an exit, or with a keyboard and a machine.
* `Round` — one poll and one frame, drawn through the terminal library.
* `Session` — what was said and shown, what was left unread, and how the program exited, if it did.
* `Session.run` — the session that arguments lead to in given surroundings.
-/

import Cosmac.Keyboard
import Cosmac.Launch.Options
import Cosmac.Machine
import Cosmac.Screen.Library
import Cosmac.Screen.Picture

namespace Cosmac

/-- What the program finds around it. -/
structure Surroundings where
  disk : Disk
  /-- The size of the terminal. -/
  terminal : Size
  /-- Whether the process has a terminal to read keys from. -/
  hasTerminal : Bool
  /-- The events that each poll will meet. -/
  batches : List (List Event)

/-- What a run of the program comes to, with frames of that size. -/
structure Session (size : Size) where
  /-- The exit status; none while the program still waits for events. -/
  status : Option Nat
  /-- What the program prints on its error output, one entry for each print; a path in it may hold
  line feeds of its own. What is printed of a panic is not among it. -/
  said : List String
  /-- The frames drawn. -/
  frames : List (Screen size)
  /-- The events that no poll has met. -/
  unread : List (List Event)
  /-- The empty lines printed at the end, so that what follows stands below the last frame. -/
  closingLines : Nat
deriving DecidableEq

namespace Session

variable {size : Size}

/-- The status of an exit with nothing wrong. -/
def success : Nat := 0

/-- The status of an exit with an error. -/
def failure : Nat := 1

/-- The status of an exit with the usage line. -/
def misuse : Nat := 2

/-- The status of an exit by a panic. -/
def crash : Nat := 101

/-- The session with lines said and frames drawn before all of its own. -/
def after (said : List String) (frames : List (Screen size)) (session : Session size) :
    Session size :=
  { session with said := said ++ session.said, frames := frames ++ session.frames }

end Session

/-! ### The opening -/

/-- How a session opens: it exits at once, or goes on with a keyboard and a machine. -/
inductive Opening where
  | exit (status : Nat) (said : List String)
  | ready (said : List String) (keyboard : Keyboard) (machine : Machine)

namespace Opening

/-- What is said of an error that ends the program. -/
def errorLine (text : String) : String := "Error: " ++ text

/-- What is said of a program that has been loaded. -/
def loadedLine (count : Nat) (path : String) : String :=
  "loaded " ++ Text.decimal count ++ " bytes from " ++ path ++ " at 0x200"

/-- Load the program that the options ask for, then look for a terminal to read keys from. -/
def ofOptions (disk : Disk) (hasTerminal : Bool) (options : Options) : Opening :=
  let report := Machine.powerOn.loadPath disk options.program
  match report.outcome with
  | .error error => .exit Session.failure [errorLine error.message]
  | .ok count =>
    let loaded := loadedLine count options.program
    if hasTerminal then .ready [loaded] (.ofKeymap options.keymap) report.target
    else .exit Session.failure [loaded, errorLine (IoError.system .noSuchDevice).term]

/-- How a session opens that is given arguments. -/
def ofArguments (disk : Disk) (hasTerminal : Bool) (arguments : List String) : Opening :=
  match Options.parse arguments with
  | none => .exit Session.misuse [Options.usage]
  | some options => ofOptions disk hasTerminal options

end Opening

/-! ### Polling and drawing -/

/-- One round: what a poll left, and the frame drawn after it, if it can be drawn. -/
structure Round (library : TerminalLibrary) (terminal : Size) where
  polled : Polled
  shown : Option (Screen (library.covered terminal))
  /-- What the library keeps for the next frame. -/
  kept : library.Kept

namespace Round

variable {library : TerminalLibrary} {terminal : Size}

/-- Poll the keyboard, then draw the framebuffer. -/
def of (library : TerminalLibrary) (terminal : Size) (kept : library.Kept) (keyboard : Keyboard)
    (keypad : Keypad) (framebuffer : Framebuffer) (events : List Event) :
    Round library terminal :=
  let (shown, next) := library.draw kept terminal (Picture.panel framebuffer)
  ⟨keyboard.poll keypad events, shown, next⟩

/-- The status that the program exits with after a round, if it does. -/
def status? (round : Round library terminal) : Option Nat :=
  if round.shown.isNone then some Session.crash
  else if round.polled.keyboard.stopAsked then some Session.success
  else none

/-- The empty lines printed after a round: enough to stand below the frame, if all went well. -/
def closingLines (round : Round library terminal) : Nat :=
  if round.status? = some Session.success then 2 + Framebuffer.height else 0

end Round

/-! ### The whole run -/

namespace Session

variable {library : TerminalLibrary} {terminal : Size}

/-- Rounds, one for each batch of events, until the program exits. -/
def play (library : TerminalLibrary) (terminal : Size) (framebuffer : Framebuffer)
    (kept : library.Kept) (keyboard : Keyboard) (keypad : Keypad) :
    List (List Event) → Session (library.covered terminal)
  | [] => ⟨none, [], [], [], 0⟩
  | events :: later =>
    let round := Round.of library terminal kept keyboard keypad framebuffer events
    let rest : Session (library.covered terminal) :=
      match round.status? with
      | some status => ⟨some status, [], [], later, round.closingLines⟩
      | none =>
        play library terminal framebuffer round.kept round.polled.keyboard round.polled.keypad later
    rest.after round.polled.warnings round.shown.toList

/-- The session that arguments lead to. -/
def run (library : TerminalLibrary) (surroundings : Surroundings) (arguments : List String) :
    Session (library.covered surroundings.terminal) :=
  match Opening.ofArguments surroundings.disk surroundings.hasTerminal arguments with
  | .exit status said => ⟨some status, said, [], surroundings.batches, 0⟩
  | .ready said keyboard machine =>
    (play library surroundings.terminal machine.framebuffer (library.start surroundings.terminal)
      keyboard machine.keypad surroundings.batches).after said []

end Session

end Cosmac
