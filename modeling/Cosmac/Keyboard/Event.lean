/-
**Events: what happens at a terminal.**

* `TerminalKey` — a key of the keyboard: a character, escape, or one that types nothing.
* `Event` — a key typed, with what was held with it, something done with the mouse, or a change of
  the terminal's size.
* `Event.character?`, `Event.isEscape` — the two things that a keyboard looks for in an event.
-/

namespace Cosmac

/-- A key of the keyboard. -/
inductive TerminalKey where
  | character (typed : Char)
  | escape
  | enter
  | tab
  | backTab
  | backspace
  | arrowUp
  | arrowDown
  | arrowLeft
  | arrowRight
  | home
  | lineEnd
  | insert
  | delete
  | pageUp
  | pageDown
  | function (number : Nat)
  /-- The key with the code zero. -/
  | null
deriving DecidableEq

/-- The keys held while another is typed. -/
structure Modifiers where
  control : Bool
  alt : Bool
deriving DecidableEq

/-- What happens at a terminal. -/
inductive Event where
  | key (key : TerminalKey) (modifiers : Modifiers)
  | mouse
  /-- The terminal has been given another size. -/
  | resized
deriving DecidableEq

namespace Event

/-- A character typed with nothing held. -/
def typed (character : Char) : Event := .key (.character character) ⟨false, false⟩

/-- Escape typed with nothing held. -/
def escape : Event := .key .escape ⟨false, false⟩

/-- The event of a character that a terminal sends: the escape character is the escape key. -/
def ofSent (character : Char) : Event := if character = '\x1b' then escape else typed character

/-- The character that an event types, if it types one. -/
def character? : Event → Option Char
  | .key (.character typed) _ => some typed
  | _ => none

/-- Whether an event is escape. -/
def isEscape : Event → Bool
  | .key .escape _ => true
  | _ => false

end Event

end Cosmac
