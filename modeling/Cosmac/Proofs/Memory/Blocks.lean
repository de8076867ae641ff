/-
**Blocks: what memory holds after a block of bytes is put in.**

* `getElem_overlay_list` — the byte at each position after a block is laid over an image.
* `Memory.write?_eq` — the block write on the machine's memory: it never faults, and is refused
  exactly if the block would run past the end.
* `Memory.withProgram` — memory with a program in its place, and what it holds.
* `Memory.font_powerOn`, `Memory.zero_powerOn` — what memory holds below a program when the machine
  is switched on.
* `Memory.write?_program`, `Memory.loadBytes_eq` — a program that fits is written by the check of
  its length alone; the write's own check never refuses it.
-/

import Cosmac.Loading.Program

namespace Cosmac

namespace Image

variable {size : Nat}

/-- A block hides what it covers and nothing else. -/
theorem getElem_overlay_list (image : Image size) (start : Nat) (block : List UInt8)
    (position : Nat) (inside : position < size) :
    (image.overlay start block.toArray.toVector).bytes[position] =
      if start ≤ position then block[position - start]?.getD image.bytes[position]
      else image.bytes[position] := by
  rw [getElem_overlay]
  by_cases before : start ≤ position
  · rw [if_pos before]
    by_cases covered : position - start < block.length
    · rw [dif_pos ⟨before, by simpa using covered⟩, List.getElem?_eq_getElem covered]
      simp
    · rw [dif_neg fun both => covered (by simpa using both.2),
        List.getElem?_eq_none (Nat.le_of_not_lt covered), Option.getD_none]
  · rw [if_neg before, dif_neg fun both => before both.1]

end Image

namespace Memory

/-- **The block write on the machine's memory** never faults, and is refused exactly if the block
would run past the end. -/
theorem write?_eq (memory : Memory) (address : Address) (data : List UInt8) :
    memory.write? address data =
      some (if address.toNat + data.length > Memory.size then .error ⟨address, data.length⟩
        else .ok (memory.overlay address.toNat data.toArray.toVector)) := by
  unfold Image.write?
  by_cases outside : address.toNat + data.length > Memory.size
  · rw [if_pos outside, if_pos outside]
  · have inside : address.toNat + data.toArray.size ≤ Memory.size := Nat.le_of_not_lt outside
    rw [if_neg outside, if_neg outside, Image.splice?, if_pos inside]
    rfl

/-! ### Switched on -/

/-- The font stands in its place when the machine is switched on. -/
theorem font_powerOn (index : Nat) (inside : index < fontSize)
    (here : fontStart.toNat + index < Memory.size) :
    powerOn.bytes[fontStart.toNat + index] = font[index] := by
  rw [powerOn, Image.getElem_overlay, dif_pos ⟨Nat.le_add_right _ _, by omega⟩]
  simp only [Nat.add_sub_cancel_left]

/-- Zeros stand everywhere else. -/
theorem zero_powerOn (position : Nat) (inside : position < Memory.size)
    (outside : position < fontStart.toNat ∨ fontStart.toNat + fontSize ≤ position) :
    powerOn.bytes[position] = 0 := by
  rw [powerOn, Image.getElem_overlay, dif_neg (by omega), Image.zero, Vector.getElem_replicate]

/-! ### Programs -/

/-- Memory with a program in its place. -/
def withProgram (memory : Memory) (program : List UInt8) : Memory :=
  memory.overlay programStart.toNat program.toArray.toVector

/-- **What memory holds with a program in it**: the program from its start on, and behind its end
and below its start what was there before. -/
theorem getElem_withProgram (memory : Memory) (program : List UInt8) (position : Nat)
    (inside : position < Memory.size) :
    (memory.withProgram program).bytes[position] =
      if programStart.toNat ≤ position then
        program[position - programStart.toNat]?.getD memory.bytes[position]
      else memory.bytes[position] :=
  memory.getElem_overlay_list programStart.toNat program position inside

theorem programStart_add_capacity : programStart.toNat + programCapacity = Memory.size := rfl

/-- **The write's own check never refuses a program that fits.** -/
theorem write?_program (memory : Memory) {program : List UInt8}
    (fits : program.length ≤ programCapacity) :
    memory.write? programStart program = some (.ok (memory.withProgram program)) := by
  have room := programStart_add_capacity
  have inside : ¬ programStart.toNat + program.length > Memory.size := by omega
  rw [write?_eq, if_neg inside, withProgram]

/-- **A program is put in exactly if it fits.** -/
theorem loadBytes_eq (memory : Memory) (program : List UInt8) :
    memory.loadBytes program =
      if program.length ≤ programCapacity then .ok (memory.withProgram program)
      else .error (.tooLarge program.length programCapacity) := by
  unfold loadBytes
  by_cases fits : program.length ≤ programCapacity
  · have small : ¬ program.length > programCapacity := Nat.not_lt.mpr fits
    rw [if_pos fits]
    simp only [if_neg small, write?_program memory fits]
  · have large : program.length > programCapacity := Nat.lt_of_not_le fits
    rw [if_neg fits]
    simp only [if_pos large]

theorem loadBytes_of_fitting (memory : Memory) {program : List UInt8}
    (fits : program.length ≤ programCapacity) :
    memory.loadBytes program = .ok (memory.withProgram program) := by
  rw [loadBytes_eq, if_pos fits]

theorem loadBytes_of_large (memory : Memory) {program : List UInt8}
    (large : programCapacity < program.length) :
    memory.loadBytes program = .error (.tooLarge program.length programCapacity) := by
  rw [loadBytes_eq, if_neg (Nat.not_le.mpr large)]

end Memory

end Cosmac
