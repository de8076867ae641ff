/-
**What a machine shows of itself.**

The outline of a machine gives its numbers in full, but of memory only the size and how many bytes
are not zero, and of the framebuffer only how many pixels are lit.
-/

import Cosmac.Machine
import Cosmac.Text.Outline

namespace Cosmac

open Text (Outline)

/-- What memory shows of itself. -/
def Memory.outline (memory : Memory) : Outline :=
  .record "Memory"
    [("size", .number Memory.size), ("non_zero_bytes", .number memory.countNonZero)]

/-- What a keypad shows of itself. -/
def Keypad.outline (keypad : Keypad) : Outline :=
  .record "Keypad" [("keys", .list (keypad.keys.toList.map fun key => .number key.toNat))]

/-- What a framebuffer shows of itself. -/
def Framebuffer.outline (framebuffer : Framebuffer) : Outline :=
  .record "Framebuffer" [("lit", .number framebuffer.lit.length)]

/-- What a machine shows of itself. -/
def Machine.outline (machine : Machine) : Outline :=
  .record "Chip8State"
    [("memory", machine.memory.outline),
      ("registers", .list (machine.registers.toList.map fun value => .number value.toNat)),
      ("index", .number machine.index.toNat),
      ("pc", .number machine.pc.toNat),
      ("opcode", .number machine.opcode.toNat),
      ("stack", .list (machine.stack.toList.map fun value => .number value.toNat)),
      ("sp", .number machine.sp.toNat),
      ("delay_timer", .number machine.delayTimer.toNat),
      ("sound_timer", .number machine.soundTimer.toNat),
      ("keypad", machine.keypad.outline),
      ("framebuffer", machine.framebuffer.outline)]

end Cosmac
