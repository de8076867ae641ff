/-
**Controls: a keypad and a script of keys for it.**

A scripted input stands in for a player: the next poll holds the keys of its script, every later
poll holds nothing. It never asks to stop.

* `ScriptedInput.poll` — one poll.
* `Controls.Request`, `Controls.serve` — what can be asked of the two as data, and the answer.
-/

import Cosmac.Keypad

namespace Cosmac

/-- The keys that the next poll will hold. -/
structure ScriptedInput where
  keys : List UInt8
deriving DecidableEq

namespace ScriptedInput

/-- Whether the script asks to stop, which it never does. -/
def asksToStop (_input : ScriptedInput) : Bool := false

/-- Let go of every key, hold those of the script, and leave the script empty. -/
def poll (input : ScriptedInput) (keypad : Keypad) : ScriptedInput × Keypad :=
  (⟨[]⟩, keypad.letAllGo.pressEach input.keys)

end ScriptedInput

/-- A keypad and the script that a poll brings to it. -/
structure Controls where
  keypad : Keypad
  input : ScriptedInput
deriving DecidableEq

namespace Controls

/-- What can be asked of the controls. -/
inductive Request where
  | press (key : UInt8)
  | release (key : UInt8)
  | letAllGo
  | isHeld (key : UInt8)
  | lowestHeld
  /-- Store any byte for the key of that number. -/
  | put (index : Nat) (value : UInt8)
  /-- Start with another script. -/
  | script (keys : List UInt8)
  | poll
deriving DecidableEq

/-- What the controls answer. -/
inductive Reply where
  | done
  | flag (value : Bool)
  | key (found : Option (Fin Keypad.size))
  | fault
deriving DecidableEq

/-- The answer to a request, and the controls after it. -/
def serve (controls : Controls) : Request → Reply × Controls
  | .press key => (.done, { controls with keypad := controls.keypad.press key })
  | .release key => (.done, { controls with keypad := controls.keypad.release key })
  | .letAllGo => (.done, { controls with keypad := controls.keypad.letAllGo })
  | .isHeld key => (.flag (controls.keypad.isHeld key), controls)
  | .lowestHeld => (.key controls.keypad.lowestHeld?, controls)
  | .put index value =>
    match controls.keypad.put? index value with
    | some keypad => (.done, { controls with keypad })
    | none => (.fault, controls)
  | .script keys => (.done, { controls with input := ⟨keys⟩ })
  | .poll =>
    let (input, keypad) := controls.input.poll controls.keypad
    (.flag input.asksToStop, ⟨keypad, input⟩)

end Controls

end Cosmac
