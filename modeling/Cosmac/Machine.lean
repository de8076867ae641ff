/-
**The machine: everything that a program can see or touch.**

* `Machine` — memory, registers, the address register, the program counter, the instruction last
  fetched, the stack, two timers, the keypad and the framebuffer.
* `Machine.powerOn` — zeros, but for the font and the program counter.
* `Machine.assign?` — one register, stack entry or number given a value.
* `Machine.fetch?` — the instruction at the program counter.
* `Machine.drawGlyph?` — the glyph of a digit, as memory holds it, put on the framebuffer.
* `Machine.loadSource`, `Machine.loadPath` — a program loaded; nothing but memory can change.
-/

import Cosmac.Framebuffer
import Cosmac.Keypad
import Cosmac.Loading.Program

namespace Cosmac

/-- The number of registers. -/
def numRegisters : Nat := 16

/-- The number of stack entries. -/
def stackHeight : Nat := 16

/-- The number of the register that flags are left in. -/
def flagRegister : Nat := 0x0f

/-- Everything that a program can see or touch. -/
structure Machine where
  memory : Memory
  registers : Vector UInt8 numRegisters
  /-- The address register. -/
  index : UInt16
  /-- Where the next instruction is. -/
  pc : UInt16
  /-- The instruction last fetched. -/
  opcode : UInt16
  stack : Vector UInt16 stackHeight
  /-- The stack entry in use. -/
  sp : UInt8
  delayTimer : UInt8
  soundTimer : UInt8
  keypad : Keypad
  framebuffer : Framebuffer
deriving DecidableEq

namespace Machine

/-- The machine as it is switched on. -/
def powerOn : Machine where
  memory := .powerOn
  registers := Vector.replicate numRegisters 0
  index := 0
  pc := programStart
  opcode := 0
  stack := Vector.replicate stackHeight 0
  sp := 0
  delayTimer := 0
  soundTimer := 0
  keypad := .empty
  framebuffer := .blank

/-! ### Registers and numbers -/

/-- A register, stack entry or number, and the value that it is to have. -/
inductive Assignment where
  | register (slot : Nat) (value : UInt8)
  | stackEntry (slot : Nat) (value : UInt16)
  | index (value : UInt16)
  | pc (value : UInt16)
  | opcode (value : UInt16)
  | sp (value : UInt8)
  | delayTimer (value : UInt8)
  | soundTimer (value : UInt8)
deriving DecidableEq

/-- The machine after an assignment, when there is such a register or stack entry. -/
def assign? (machine : Machine) : Assignment → Option Machine
  | .register slot value =>
    if inside : slot < numRegisters then
      some { machine with registers := machine.registers.set slot value }
    else none
  | .stackEntry slot value =>
    if inside : slot < stackHeight then
      some { machine with stack := machine.stack.set slot value }
    else none
  | .index value => some { machine with index := value }
  | .pc value => some { machine with pc := value }
  | .opcode value => some { machine with opcode := value }
  | .sp value => some { machine with sp := value }
  | .delayTimer value => some { machine with delayTimer := value }
  | .soundTimer value => some { machine with soundTimer := value }

/-! ### Memory at work -/

/-- The machine with the two bytes at the program counter fetched, when they are in memory. -/
def fetch? (machine : Machine) : Option Machine :=
  (machine.memory.word? machine.pc).map fun opcode => { machine with opcode }

/-- The machine with the glyph of a digit, as memory holds it, put on the framebuffer with its
top left corner at a point. -/
def drawGlyph? (machine : Machine) (x y : Nat) (digit : UInt8) : Option Machine :=
  (machine.memory.slice? (addressOfGlyph digit) glyphRows).map fun rows =>
    { machine with framebuffer := machine.framebuffer.plot (Framebuffer.glyphDots x y rows.toList) }

/-- Load a program from a source. -/
def loadSource (machine : Machine) (source : Source) : LoadReport Machine :=
  (machine.memory.loadSource source).map fun memory => { machine with memory }

/-- Load a program from the file at a path. -/
def loadPath (machine : Machine) (disk : Disk) (path : String) : LoadReport Machine :=
  (machine.memory.loadPath disk path).map fun memory => { machine with memory }

end Machine

end Cosmac
