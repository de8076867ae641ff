/-
**Options: what the command line asks for.**

The command line names one program and may ask, anywhere and any number of times, for the literal
keymap. All else is answered with the usage line: no program, a second one, or a request for help.

* `Options.parse` — what the arguments ask for.
* `Options.usage` — the usage line.
-/

import Cosmac.Keyboard.Keymap

namespace Cosmac

/-- What the command line asks for. -/
structure Options where
  /-- The path of the program. -/
  program : String
  /-- Whether the literal keymap is asked for. -/
  literalKeys : Bool
deriving DecidableEq

namespace Options

/-- The argument that asks for the literal keymap. -/
def literalKeysFlag : String := "--literal-keys"

/-- The arguments that ask for help. -/
def helpFlags : List String := ["-h", "--help"]

/-- How the command line is to be used. -/
def usage : String := "usage: chip8-core <rom> [" ++ literalKeysFlag ++ "]"

/-- What arguments ask for after others that named a program, or none, and asked for the literal
keymap, or did not. -/
def parseFrom (program : Option String) (literalKeys : Bool) : List String → Option Options
  | [] => program.map fun path => ⟨path, literalKeys⟩
  | argument :: later =>
    if argument = literalKeysFlag then parseFrom program true later
    else if argument ∈ helpFlags ∨ program.isSome then none
    else parseFrom (some argument) literalKeys later

/-- What the arguments ask for; nothing if they are to be answered with the usage line. -/
def parse (arguments : List String) : Option Options := parseFrom none false arguments

/-- The keymap asked for. -/
def keymap (options : Options) : Keymap :=
  if options.literalKeys then .literal else .leftHand

end Options

end Cosmac
