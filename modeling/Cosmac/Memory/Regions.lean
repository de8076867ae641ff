/-
**The regions of memory.**

The machine has 4096 bytes. Sixteen glyphs of five bytes stand from `0x050` on, one for each
hexadecimal digit, and a program has everything from `0x200` to the end.

* `Memory.size`, `fontStart`, `glyphRows`, `fontSize`, `programStart`, `programCapacity` — the
  numbers of the layout.
* `addressOfGlyph` — where the glyph of a digit stands; only the low four bits of the digit count.
-/

import Cosmac.Memory.Image

namespace Cosmac

/-- The number of bytes in the machine's memory. -/
def Memory.size : Nat := 4096

/-- Where a program begins. -/
def programStart : Address := 0x200

/-- The most bytes a program can have: all from its beginning to the end of memory. -/
def programCapacity : Nat := Memory.size - programStart.toNat

/-- Where the glyphs begin. -/
def fontStart : Address := 0x050

/-- The number of bytes in a glyph, a row of eight pixels each. -/
def glyphRows : Nat := 5

/-- The number of bytes in all sixteen glyphs. -/
def fontSize : Nat := 80

/-- Where the glyph of a hexadecimal digit stands; the high four bits of `digit` do not count. -/
def addressOfGlyph (digit : UInt8) : Address :=
  fontStart + UInt16.ofNat glyphRows * (digit &&& 0x0f).toUInt16

theorem programCapacity_eq : programCapacity = 3584 := rfl

theorem toNat_addressOfGlyph (digit : UInt8) :
    (addressOfGlyph digit).toNat = 80 + 5 * (digit.toNat % 16) := by
  have low : (digit &&& 0x0f).toNat = digit.toNat % 16 := by
    rw [UInt8.toNat_and]
    exact Nat.and_two_pow_sub_one_eq_mod digit.toNat 4
  have below : digit.toNat % 16 < 16 := Nat.mod_lt _ (by decide)
  have rows : (UInt16.ofNat glyphRows).toNat = 5 := rfl
  have start : fontStart.toNat = 80 := rfl
  rw [addressOfGlyph, UInt16.toNat_add, UInt16.toNat_mul, UInt8.toNat_toUInt16, low, rows, start]
  omega

end Cosmac
