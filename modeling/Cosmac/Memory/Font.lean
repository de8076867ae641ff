/-
**The font: the pictures of the hexadecimal digits.**

A glyph is five rows of eight pixels, a byte each with its high bit at the left; only the left
four columns are used.

* `font` — the eighty bytes of the sixteen glyphs in order.
* `Memory`, `Memory.powerOn` — the machine's memory, and how it is when the machine is switched
  on: the font in its place and zeros everywhere else.
-/

import Cosmac.Memory.Regions

namespace Cosmac

/-- The glyphs of the digits 0 to F, five rows each. -/
def font : Vector UInt8 fontSize := #v[
  0xF0, 0x90, 0x90, 0x90, 0xF0,
  0x20, 0x60, 0x20, 0x20, 0x70,
  0xF0, 0x10, 0xF0, 0x80, 0xF0,
  0xF0, 0x10, 0xF0, 0x10, 0xF0,
  0x90, 0x90, 0xF0, 0x10, 0x10,
  0xF0, 0x80, 0xF0, 0x10, 0xF0,
  0xF0, 0x80, 0xF0, 0x90, 0xF0,
  0xF0, 0x10, 0x20, 0x40, 0x40,
  0xF0, 0x90, 0xF0, 0x90, 0xF0,
  0xF0, 0x90, 0xF0, 0x10, 0xF0,
  0xF0, 0x90, 0xF0, 0x90, 0x90,
  0xE0, 0x90, 0xE0, 0x90, 0xE0,
  0xF0, 0x80, 0x80, 0x80, 0xF0,
  0xE0, 0x90, 0x90, 0x90, 0xE0,
  0xF0, 0x80, 0xF0, 0x80, 0xF0,
  0xF0, 0x80, 0xF0, 0x80, 0x80]

/-- The machine's memory. -/
abbrev Memory := Image Memory.size

/-- Memory as the machine is switched on: the font, and zeros. -/
def Memory.powerOn : Memory :=
  (Image.zero Memory.size).overlay fontStart.toNat font

end Cosmac
