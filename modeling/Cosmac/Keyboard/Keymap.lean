/-
**Keymaps: which key of the keypad a typed character stands for.**

A keymap is a list of characters with the key of each. Of equal characters the last counts, and a
typed character is looked up in lower case, where only the letters A to Z have one.

* `Keymap.key?` — the key that a typed character stands for.
* `Keymap.literal` — each hexadecimal digit for its own key.
* `Keymap.leftHand` — the four by four keys at the left of a keyboard, laid out as the keypad.
-/

namespace Cosmac

/-- Characters, and the key that each stands for. -/
abbrev Keymap := List (Char × UInt8)

namespace Keymap

/-- The key of the last entry for a character. -/
def lookup? (keymap : Keymap) (character : Char) : Option UInt8 :=
  (keymap.reverse.find? fun entry => entry.1 = character).map fun entry => entry.2

/-- The key that a typed character stands for. -/
def key? (keymap : Keymap) (typed : Char) : Option UInt8 :=
  keymap.lookup? typed.toLower

/-- Each hexadecimal digit for its own key. -/
def literal : Keymap :=
  [('0', 0x0), ('1', 0x1), ('2', 0x2), ('3', 0x3), ('4', 0x4), ('5', 0x5), ('6', 0x6), ('7', 0x7),
    ('8', 0x8), ('9', 0x9), ('a', 0xa), ('b', 0xb), ('c', 0xc), ('d', 0xd), ('e', 0xe), ('f', 0xf)]

/-- The left of a keyboard for the keypad. -/
def leftHand : Keymap :=
  [('x', 0x0), ('1', 0x1), ('2', 0x2), ('3', 0x3), ('q', 0x4), ('w', 0x5), ('e', 0x6), ('a', 0x7),
    ('s', 0x8), ('d', 0x9), ('z', 0xa), ('c', 0xb), ('4', 0xc), ('r', 0xd), ('f', 0xe), ('v', 0xf)]

theorem lookup?_nil (character : Char) : lookup? [] character = none := rfl

theorem lookup?_concat (keymap : Keymap) (entry : Char × UInt8) (character : Char) :
    lookup? (keymap ++ [entry]) character =
      if entry.1 = character then some entry.2 else keymap.lookup? character := by
  by_cases same : entry.1 = character <;> simp [lookup?, same]

end Keymap

end Cosmac
