/-
**What the text of a machine reveals.**

The text of a machine gives its registers, its stack, its keypad and its numbers in full, but of
memory only how many bytes are not zero, and of the framebuffer only how many pixels are lit. It
gives all of that and nothing else, and it gives it in either layout: the text can be read back, so
two machines have the same text exactly if they agree on what is shown.

* `Machine.legible_outline` — the outline of a machine has proper names throughout.
* `Machine.LooksLike`, `Machine.outline_eq_iff` — when two machines have the same outline.
* `Memory.length_onOneLine_lt`, `Memory.length_indented_lt` — the text of memory is short.
* `Machine.texts_reveal` — all of this side by side.
-/

import Cosmac.Machine.Outline
import Cosmac.Proofs.Screen.Counts
import Cosmac.Proofs.Text.Outlines

namespace Cosmac

open Text (Outline)

/-! ### Legible outlines -/

section Legible

theorem legible_numbers {Value : Type} (toNat : Value → Nat) (values : List Value) :
    (Outline.list (values.map fun value => .number (toNat value))).Legible := by
  refine .list fun item member => ?_
  obtain ⟨value, -, rfl⟩ := List.mem_map.mp member
  exact .number (toNat value)

theorem Memory.legible_outline (memory : Memory) : memory.outline.Legible :=
  .record_cons rfl (.number _) (.record_cons rfl (.number _) (.record_nil rfl))

theorem Keypad.legible_outline (keypad : Keypad) : keypad.outline.Legible :=
  .record_cons rfl (legible_numbers _ _) (.record_nil rfl)

theorem Framebuffer.legible_outline (framebuffer : Framebuffer) : framebuffer.outline.Legible :=
  .record_cons rfl (.number _) (.record_nil rfl)

theorem Machine.legible_outline (machine : Machine) : machine.outline.Legible := by
  apply Outline.Legible.record_cons rfl machine.memory.legible_outline
  apply Outline.Legible.record_cons rfl (legible_numbers _ _)
  apply Outline.Legible.record_cons rfl (.number _)
  apply Outline.Legible.record_cons rfl (.number _)
  apply Outline.Legible.record_cons rfl (.number _)
  apply Outline.Legible.record_cons rfl (legible_numbers _ _)
  apply Outline.Legible.record_cons rfl (.number _)
  apply Outline.Legible.record_cons rfl (.number _)
  apply Outline.Legible.record_cons rfl (.number _)
  apply Outline.Legible.record_cons rfl machine.keypad.legible_outline
  apply Outline.Legible.record_cons rfl machine.framebuffer.legible_outline
  exact .record_nil rfl

end Legible

/-! ### What machines show -/

/-- The lit pixels are as many as the coordinates that are listed. -/
theorem Framebuffer.count_pixels (framebuffer : Framebuffer) :
    framebuffer.pixels.count true = framebuffer.lit.length := by
  have lights : (· == true) = (id : Bool → Bool) := by
    funext on
    cases on <;> rfl
  rw [length_lit, ← Vector.count_toList, List.count_eq_countP, lights]

theorem numbers_inj {Value : Type} {length : Nat} {toNat : Value → Nat}
    (inj : ∀ first second, toNat first = toNat second → first = second)
    {first second : Vector Value length} :
    Outline.list (first.toList.map fun value => .number (toNat value)) =
      .list (second.toList.map fun value => .number (toNat value)) ↔ first = second := by
  rw [Outline.list.injEq, List.map_inj_right, Vector.toList_inj]
  intro value other same
  exact inj value other (Outline.number.inj same)

namespace Machine

/-- Two machines agree on all that they show of themselves. -/
structure LooksLike (first second : Machine) : Prop where
  registers : first.registers = second.registers
  index : first.index = second.index
  pc : first.pc = second.pc
  opcode : first.opcode = second.opcode
  stack : first.stack = second.stack
  sp : first.sp = second.sp
  delayTimer : first.delayTimer = second.delayTimer
  soundTimer : first.soundTimer = second.soundTimer
  keys : first.keypad.keys = second.keypad.keys
  nonZeroBytes : first.memory.bytes.countP (· ≠ 0) = second.memory.bytes.countP (· ≠ 0)
  litPixels : first.framebuffer.pixels.count true = second.framebuffer.pixels.count true

theorem outline_eq_iff {first second : Machine} :
    first.outline = second.outline ↔ first.LooksLike second := by
  have bytes : ∀ first second : UInt8, first.toNat = second.toNat → first = second :=
    fun _ _ => UInt8.toNat.inj
  have words : ∀ first second : UInt16, first.toNat = second.toNat → first = second :=
    fun _ _ => UInt16.toNat.inj
  simp only [outline, Memory.outline, Keypad.outline, Framebuffer.outline, Outline.record.injEq,
    List.cons.injEq, Prod.mk.injEq, true_and, and_true, Outline.number.injEq, numbers_inj bytes,
    numbers_inj words, UInt8.toNat_inj, UInt16.toNat_inj, ← Framebuffer.count_pixels]
  constructor
  · rintro ⟨nonZero, registers, index, pc, opcode, stack, sp, delay, sound, keys, lit⟩
    exact ⟨registers, index, pc, opcode, stack, sp, delay, sound, keys, nonZero, lit⟩
  · rintro ⟨registers, index, pc, opcode, stack, sp, delay, sound, keys, nonZero, lit⟩
    exact ⟨nonZero, registers, index, pc, opcode, stack, sp, delay, sound, keys, lit⟩

end Machine

/-! ### How long the text of memory is -/

namespace Memory

variable (memory : Memory)

/-- The number of bytes that are not zero has four digits at most. -/
theorem length_countNonZero_le : (Nat.toDigits 10 memory.countNonZero).length ≤ 4 := by
  have most : memory.countNonZero ≤ size := Vector.countP_le_size
  refine (Nat.length_toDigits_le_iff (by decide) (by decide)).mpr ?_
  exact Nat.lt_of_le_of_lt most (by decide)

theorem length_write_outline (layout : Text.Layout) :
    (memory.outline.write layout 0).length =
      32 + (Nat.toDigits 10 memory.countNonZero).length + (layout.recordOpening 0).length +
        (layout.separator 0).length + (layout.recordClosing 0).length := by
  have names : "Memory".toList.length = 6 ∧ "size".toList.length = 4 ∧
      "non_zero_bytes".toList.length = 14 ∧ (Nat.toDigits 10 size).length = 4 :=
    ⟨rfl, rfl, rfl, rfl⟩
  rw [outline]
  simp only [Outline.write, Outline.writeFields, List.length_append, List.length_cons,
    List.length_nil]
  omega

theorem length_onOneLine_lt : memory.outline.onOneLine.length < 100 := by
  have layout : (Text.Layout.oneLine.recordOpening 0).length = 3 ∧
      (Text.Layout.oneLine.separator 0).length = 2 ∧
      (Text.Layout.oneLine.recordClosing 0).length = 2 := ⟨rfl, rfl, rfl⟩
  have digits := memory.length_countNonZero_le
  rw [Outline.onOneLine, String.length_ofList, length_write_outline]
  omega

theorem length_indented_lt : memory.outline.indented.length < 100 := by
  have layout : (Text.Layout.stacked.recordOpening 0).length = 7 ∧
      (Text.Layout.stacked.separator 0).length = 6 ∧
      (Text.Layout.stacked.recordClosing 0).length = 3 := ⟨rfl, rfl, rfl⟩
  have digits := memory.length_countNonZero_le
  rw [Outline.indented, String.length_ofList, length_write_outline]
  omega

end Memory

/-! ### Both texts of a machine -/

/-- **What the texts of a machine reveal.** Two machines have the same text on one line exactly if
they have the same text over several lines, and this exactly if they agree on registers, stack,
keypad bytes and numbers, on how many bytes of memory are not zero and on how many pixels are lit,
which is how many coordinates are listed; nothing else of memory or of the framebuffer shows. The
text of any memory is shorter than a hundred characters, in either layout. -/
theorem Machine.texts_reveal :
    (∀ first second : Machine,
      (first.outline.onOneLine = second.outline.onOneLine ↔
        first.outline.indented = second.outline.indented) ∧
      (first.outline.indented = second.outline.indented ↔ first.LooksLike second)) ∧
    (∀ framebuffer : Framebuffer, framebuffer.pixels.count true = framebuffer.lit.length) ∧
    ∀ memory : Memory,
      memory.outline.onOneLine.length < 100 ∧ memory.outline.indented.length < 100 := by
  refine ⟨fun first second => ?_, Framebuffer.count_pixels,
    fun memory => ⟨memory.length_onOneLine_lt, memory.length_indented_lt⟩⟩
  have oneLine := Outline.onOneLine_inj first.legible_outline second.legible_outline
  have indented := Outline.indented_inj first.legible_outline second.legible_outline
  exact ⟨oneLine.trans indented.symm, indented.trans outline_eq_iff⟩

end Cosmac
