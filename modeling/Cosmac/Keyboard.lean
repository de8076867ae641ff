/-
**The keyboard: typed characters brought to the keypad.**

A terminal tells of keys typed and never of keys let go. So a poll first lets go of every key, then
takes the events since the last poll in order: a character holds its key, or is set aside if it
stands for none; escape asks to stop, and the events after it are taken all the same; all else is
passed over.

* `Keyboard.receive` — one event.
* `Keyboard.poll` — one poll.
* `Keyboard.warning` — what is said of a character that stands for no key.
* `Typing.take`, `Typing.takeAll` — a run of polls, keys held by hand between them, and new
  keyboards in place of the old.
-/

import Cosmac.Keyboard.Event
import Cosmac.Keyboard.Keymap
import Cosmac.Keypad
import Cosmac.Text.Quoted

namespace Cosmac

/-- A keymap, and whether the user has asked to stop. -/
structure Keyboard where
  keymap : Keymap
  stopAsked : Bool
deriving DecidableEq

/-- What a poll leaves. -/
structure Polled where
  keyboard : Keyboard
  keypad : Keypad
  /-- The characters that stand for no key, as they were typed and in order. -/
  unmapped : List Char
deriving DecidableEq

namespace Keyboard

/-- A keyboard on which nobody has asked to stop. -/
def ofKeymap (keymap : Keymap) : Keyboard := ⟨keymap, false⟩

/-- What is left after one more event. -/
def receive (polled : Polled) : Event → Polled
  | .key (.character typed) _ =>
    match polled.keyboard.keymap.key? typed with
    | some key => { polled with keypad := polled.keypad.press key }
    | none => { polled with unmapped := polled.unmapped ++ [typed] }
  | .key .escape _ => { polled with keyboard := { polled.keyboard with stopAsked := true } }
  | _ => polled

/-- Let go of every key and take events in order. -/
def poll (keyboard : Keyboard) (keypad : Keypad) (events : List Event) : Polled :=
  events.foldl receive ⟨keyboard, keypad.letAllGo, []⟩

/-- What is said of a character that stands for no key. -/
def warning (typed : Char) : String :=
  "Warning: can't map " ++ Text.quotedCharacter typed ++ " to a COSMAC key"

end Keyboard

namespace Polled

/-- What a poll says. -/
def warnings (polled : Polled) : List String := polled.unmapped.map Keyboard.warning

end Polled

/-! ### Runs -/

/-- A keyboard and the keypad that it brings keys to. -/
structure Typing where
  keyboard : Keyboard
  keypad : Keypad
deriving DecidableEq

namespace Typing

/-- What can happen to a keyboard and a keypad. -/
inductive Step where
  /-- The events since the last poll, and a poll. -/
  | poll (events : List Event)
  /-- A key held by hand. -/
  | press (key : UInt8)
  /-- A new keyboard in place of the old. -/
  | renew (keymap : Keymap)
deriving DecidableEq

/-- What a step says, and what is there after it. -/
def take (typing : Typing) : Step → List String × Typing
  | .poll events =>
    let polled := typing.keyboard.poll typing.keypad events
    (polled.warnings, ⟨polled.keyboard, polled.keypad⟩)
  | .press key => ([], { typing with keypad := typing.keypad.press key })
  | .renew keymap => ([], { typing with keyboard := .ofKeymap keymap })

/-- What each step of a run says, and what is there after the run. -/
def takeAll (typing : Typing) : List Step → List (List String) × Typing
  | [] => ([], typing)
  | step :: later =>
    let (said, next) := typing.take step
    let (rest, final) := next.takeAll later
    (said :: rest, final)

end Typing

end Cosmac
