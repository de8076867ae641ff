/-
**The keypad: sixteen keys, each held or not.**

A key is held when its byte is not zero. Keys are named by bytes of which only the low four bits
count.

* `press`, `release`, `letAllGo` — a key held, let go, and all let go.
* `isHeld`, `lowestHeld?` — whether a key is held, and the lowest one held.
* `put?` — any byte stored for a key, by its number.
* `getElem_press`, `getElem_release`, `getElem_letAllGo` — every byte afterwards.
-/

namespace Cosmac

/-- The number of keys. -/
def Keypad.size : Nat := 16

/-- The keys' bytes; a key is held when its byte is not zero. -/
structure Keypad where
  keys : Vector UInt8 Keypad.size
deriving DecidableEq

namespace Keypad

/-- The keypad with nothing held. -/
def empty : Keypad := ⟨Vector.replicate size 0⟩

/-- The key that a byte names. -/
def slot (key : UInt8) : Fin size := ⟨key.toNat % size, Nat.mod_lt _ (by decide)⟩

/-- The keypad with a key held. -/
def press (keypad : Keypad) (key : UInt8) : Keypad := ⟨keypad.keys.set (slot key) 1⟩

/-- The keypad with a key let go. -/
def release (keypad : Keypad) (key : UInt8) : Keypad := ⟨keypad.keys.set (slot key) 0⟩

/-- The keypad with every key let go. -/
def letAllGo (_keypad : Keypad) : Keypad := empty

/-- The keypad with several keys held. -/
def pressEach (keypad : Keypad) (keys : List UInt8) : Keypad := keys.foldl press keypad

/-- Whether a key is held. -/
def isHeld (keypad : Keypad) (key : UInt8) : Bool := keypad.keys[slot key] != 0

/-- The lowest key held. -/
def lowestHeld? (keypad : Keypad) : Option (Fin size) :=
  keypad.keys.findFinIdx? (· != 0)

/-- The keypad with any byte stored for the key of that number, when there is one. -/
def put? (keypad : Keypad) (index : Nat) (value : UInt8) : Option Keypad :=
  if inside : index < size then some ⟨keypad.keys.set index value⟩ else none

/-! ### Every byte afterwards -/

theorem getElem_press (keypad : Keypad) (key : UInt8) (index : Nat) (inside : index < size) :
    (keypad.press key).keys[index] = if key.toNat % 16 = index then 1 else keypad.keys[index] := by
  simp only [press, slot, Vector.getElem_set]
  rfl

theorem getElem_release (keypad : Keypad) (key : UInt8) (index : Nat) (inside : index < size) :
    (keypad.release key).keys[index] =
      if key.toNat % 16 = index then 0 else keypad.keys[index] := by
  simp only [release, slot, Vector.getElem_set]
  rfl

theorem getElem_letAllGo (keypad : Keypad) (index : Nat) (inside : index < size) :
    keypad.letAllGo.keys[index] = 0 := by
  simp [letAllGo, empty]

end Keypad

end Cosmac
