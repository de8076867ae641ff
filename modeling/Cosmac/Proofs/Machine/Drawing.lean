/-
**Drawing: the glyph of a digit, anywhere on the screen and at any time.**

The rows of a glyph are five bytes of memory, and they lie inside whatever the digit is, so drawing
never faults. Nothing that is done to the machine from outside writes below the place of a program:
the rows are those of the font for as long as the machine runs, and no load changes the picture of
a digit.

* `Memory.glyph`, `Memory.place_of_row` — the rows of the glyph of a digit, as memory holds them,
  and where they stand.
* `Machine.drawGlyph?_eq` — what drawing does: it puts those rows on the framebuffer, and no more.
* `Machine.Deed`, `Machine.act`, `Machine.actAll` — what is done to a machine from outside, and a
  run of it.
* `Machine.held_act_below`, `Machine.held_actAll_below` — below the place of a program memory stays
  as it is, after a deed and after a run.
* `Machine.glyph_load`, `Machine.held_glyph_powerOn` — so a load leaves the glyphs, and after any
  run they are those of the font.
* `Machine.drawGlyph_anywhere` — all about drawing a digit.
-/

import Cosmac.Keyboard
import Cosmac.Proofs.Framebuffer.Glyphs
import Cosmac.Proofs.Keypad.Edits
import Cosmac.Proofs.Loading.History
import Cosmac.Proofs.Memory.Accesses

namespace Cosmac

open Framebuffer (SamePixel glyphDots)

/-! ### Glyphs in memory -/

namespace Memory

/-- The rows of the glyph of a digit, as memory holds them. -/
def glyph (memory : Memory) (digit : UInt8) : List UInt8 :=
  (List.range glyphRows).map fun row => memory.held ((addressOfGlyph digit).toNat + row)

theorem length_glyph (memory : Memory) (digit : UInt8) : (memory.glyph digit).length = 5 := by
  rw [glyph, List.length_map, List.length_range]
  rfl

theorem getElem_glyph (memory : Memory) (digit : UInt8) {row : Nat}
    (inRows : row < (memory.glyph digit).length) :
    (memory.glyph digit)[row] = memory.held ((addressOfGlyph digit).toNat + row) := by
  simp only [glyph, List.getElem_map, List.getElem_range]

theorem row_lt_fontSize (digit : UInt8) {row : Nat} (inRows : row < 5) :
    5 * (digit.toNat % 16) + row < fontSize := by
  have low : digit.toNat % 16 < 16 := Nat.mod_lt _ (by decide)
  show _ < 80
  omega

/-- The rows of a glyph stand in the font. -/
theorem place_of_row (digit : UInt8) (row : Nat) :
    (addressOfGlyph digit).toNat + row =
      fontStart.toNat + (5 * (digit.toNat % 16) + row) := by
  rw [toNat_addressOfGlyph, Nat.add_assoc]
  rfl

/-- So they stand below the place of a program. -/
theorem place_of_row_lt (digit : UInt8) {row : Nat} (inRows : row < 5) :
    (addressOfGlyph digit).toNat + row < programStart.toNat := by
  rw [place_of_row]
  exact Nat.lt_trans (Nat.add_lt_add_left (row_lt_fontSize digit inRows) _) (by decide)

/-- The rows of a glyph can always be read. -/
theorem slice?_glyph (memory : Memory) (digit : UInt8) :
    (memory.slice? (addressOfGlyph digit) glyphRows).map Vector.toList =
      some (memory.glyph digit) := by
  have last : (addressOfGlyph digit).toNat + 4 < programStart.toNat :=
    place_of_row_lt digit (by decide)
  have inside : (addressOfGlyph digit).toNat + glyphRows ≤ Memory.size :=
    Nat.le_trans last (by decide)
  rw [Image.slice?_eq, if_pos inside, Option.map_some]
  refine congrArg some (List.ext_getElem (by simp [glyph]) fun row here there => ?_)
  rw [getElem_glyph, Vector.getElem_toList, Vector.getElem_ofFn]

end Memory

namespace Machine

variable (machine : Machine)

/-- **What drawing does**: it puts the rows of the glyph on the framebuffer, and no more. -/
theorem drawGlyph?_eq (x y : Nat) (digit : UInt8) :
    machine.drawGlyph? x y digit = some
      { machine with
        framebuffer := machine.framebuffer.plot (glyphDots x y (machine.memory.glyph digit)) } := by
  obtain ⟨rows, read, same⟩ := Option.map_eq_some_iff.mp (machine.memory.slice?_glyph digit)
  rw [drawGlyph?, read, Option.map_some, same]

/-! ### What is done to a machine from outside -/

/-- What is done to a machine from outside. -/
inductive Deed where
  /-- A program loaded, or not if the load fails. -/
  | load (load : Load)
  | keypad (edit : Keypad.Edit)
  /-- A script brought to the keypad. -/
  | pollScript (input : ScriptedInput)
  /-- Typed characters brought to the keypad. -/
  | pollKeyboard (keyboard : Keyboard) (events : List Event)
  | framebuffer (edit : Framebuffer.Edit)
  | drawGlyph (x y : Nat) (digit : UInt8)

/-- The machine after a deed. -/
def act : Deed → Machine
  | .load load => (machine.load load).2
  | .keypad edit => { machine with keypad := machine.keypad.edit edit }
  | .pollScript input => { machine with keypad := (input.poll machine.keypad).2 }
  | .pollKeyboard keyboard events =>
    { machine with keypad := (keyboard.poll machine.keypad events).keypad }
  | .framebuffer edit => { machine with framebuffer := machine.framebuffer.edit edit }
  | .drawGlyph x y digit => (machine.drawGlyph? x y digit).getD machine

/-- The machine after a run of deeds. -/
def actAll (deeds : List Deed) : Machine := deeds.foldl act machine

/-! ### Memory below the place of a program -/

section Below

variable {position : Nat} (below : position < programStart.toNat)

include below

theorem held_load_below (load : Load) :
    (machine.load load).2.memory.held position = machine.memory.held position := by
  have inside : position < Memory.size := Nat.lt_trans below (by decide)
  rw [load_eq, Image.held_of_lt _ inside, Image.held_of_lt _ inside]
  exact machine.getElem_settle_below load.verdict position inside below

/-- **No deed writes below the place of a program.** Only a load writes to memory at all. -/
theorem held_act_below (deed : Deed) :
    (machine.act deed).memory.held position = machine.memory.held position := by
  cases deed with
  | load load => exact machine.held_load_below below load
  | drawGlyph x y digit => rw [act, drawGlyph?_eq, Option.getD_some]
  | _ => rfl

/-- **Nor does a run of deeds.** -/
theorem held_actAll_below (deeds : List Deed) :
    (machine.actAll deeds).memory.held position = machine.memory.held position := by
  induction deeds generalizing machine with
  | nil => rfl
  | cons deed later ih => exact (ih (machine.act deed)).trans (machine.held_act_below below deed)

end Below

/-! ### Glyphs that stay -/

theorem glyph_load (load : Load) (digit : UInt8) :
    (machine.load load).2.memory.glyph digit = machine.memory.glyph digit := by
  refine List.map_congr_left fun row inRows => machine.held_load_below ?_ load
  exact Memory.place_of_row_lt digit (List.mem_range.mp inRows)

/-- **The glyphs are those of the font** for as long as the machine runs. -/
theorem held_glyph_powerOn (deeds : List Deed) (digit : UInt8) {row : Nat} (inRows : row < 5) :
    font[5 * (digit.toNat % 16) + row]? =
      some ((powerOn.actAll deeds).memory.held ((addressOfGlyph digit).toNat + row)) := by
  have inside := Memory.row_lt_fontSize digit inRows
  have here : fontStart.toNat + (5 * (digit.toNat % 16) + row) < Memory.size :=
    Nat.lt_trans (Nat.add_lt_add_left inside _) (by decide)
  rw [powerOn.held_actAll_below (Memory.place_of_row_lt digit inRows), Memory.place_of_row,
    Image.held_of_lt _ here, Vector.getElem?_eq_getElem inside]
  exact congrArg some (Memory.font_powerOn _ inside here).symm

/-- A load leaves the picture of a digit as it is. -/
theorem framebuffer_drawGlyph?_load (load : Load) (x y : Nat) (digit : UInt8) :
    ((machine.load load).2.drawGlyph? x y digit).map framebuffer =
      (machine.drawGlyph? x y digit).map framebuffer := by
  have untouched : (machine.load load).2.framebuffer = machine.framebuffer :=
    congrArg (framebuffer ∘ Prod.snd) (machine.load_eq load)
  rw [drawGlyph?_eq, drawGlyph?_eq, Option.map_some, Option.map_some]
  show some ((machine.load load).2.framebuffer.plot _) = some (machine.framebuffer.plot _)
  rw [untouched, machine.glyph_load]

/-! ### Drawing -/

/-- **Drawing a digit.** Its glyph stands at the place of its low four bits. Drawing never faults
and changes nothing but the framebuffer: each of the forty places of the glyph shows its bit, the
high one at the left, all other pixels are as they were, and the dots may be written in any order,
for no two of the places are one pixel. If the glyph ends within 64-bit numbers, every dot has
64-bit coordinates. It may stand whole screens further, and no load changes the picture: for as long
as the machine runs, the rows are those of the font. -/
theorem drawGlyph_anywhere (x y : Nat) (digit : UInt8) :
    let start := (addressOfGlyph digit).toNat
    let bit := fun row column => (machine.memory.held (start + row)).toNat.testBit (7 - column)
    start = 0x050 + 5 * (digit.toNat % 16) ∧
    (∃ drawn, machine.drawGlyph? x y digit = some { machine with framebuffer := drawn } ∧
      (∀ row column u v, row < 5 → column < 8 → SamePixel (x + column) (y + row) u v →
        drawn.get u v = bit row column) ∧
      (∀ u v, (∀ row column, row < 5 → column < 8 → ¬ SamePixel (x + column) (y + row) u v) →
        drawn.get u v = machine.framebuffer.get u v) ∧
      (∀ dots, dots.Perm (glyphDots x y (machine.memory.glyph digit)) →
        machine.framebuffer.plot dots = drawn)) ∧
    (∀ row column row' column', row < 5 → row' < 5 → column < 8 → column' < 8 →
      SamePixel (x + column) (y + row) (x + column') (y + row') → row = row' ∧ column = column') ∧
    (x + 8 ≤ UInt64.size → y + 5 ≤ UInt64.size → ∀ row column, row < 5 → column < 8 →
      x + column < UInt64.size ∧ y + row < UInt64.size) ∧
    (∀ (x' y' : Nat) (screensRight screensDown : Int),
      (x' : Int) = x + 64 * screensRight → (y' : Int) = y + 32 * screensDown →
        machine.drawGlyph? x' y' digit = machine.drawGlyph? x y digit) ∧
    (∀ load, ((machine.load load).2.drawGlyph? x y digit).map framebuffer =
      (machine.drawGlyph? x y digit).map framebuffer) ∧
    (∀ deeds row, row < 5 → font[5 * (digit.toNat % 16) + row]? =
      some ((powerOn.actAll deeds).memory.held (start + row))) := by
  intro start bit
  have rows : (machine.memory.glyph digit).length = 5 := machine.memory.length_glyph digit
  have short : (machine.memory.glyph digit).length ≤ 32 := by omega
  refine ⟨toNat_addressOfGlyph digit, ⟨_, machine.drawGlyph?_eq x y digit, ?_, ?_, ?_⟩, ?_, ?_, ?_,
    fun load => machine.framebuffer_drawGlyph?_load load x y digit,
    fun deeds row inRows => held_glyph_powerOn deeds digit inRows⟩
  · intro row column u v inRows inColumns here
    rw [machine.framebuffer.get_plot_glyph short (rows.symm ▸ inRows) inColumns here,
      Memory.getElem_glyph]
  · intro u v apart
    refine machine.framebuffer.get_plot_glyph_of_apart fun row column inRows => ?_
    exact apart row column (rows ▸ inRows)
  · exact fun dots moved => machine.framebuffer.plot_glyph_perm short moved
  · intro row column row' column' inRows inRows' inColumns inColumns' same
    exact Framebuffer.glyph_places_inj (by omega) (by omega) inColumns inColumns' same
  · intro wide high row column inRows inColumns
    have inWidth : x + column < UInt64.size := by omega
    have inHeight : y + row < UInt64.size := by omega
    exact ⟨inWidth, inHeight⟩
  · intro x' y' screensRight screensDown right lower
    have further : SamePixel x' y' x y := by
      unfold Framebuffer.SamePixel
      omega
    rw [drawGlyph?_eq, drawGlyph?_eq, machine.framebuffer.plot_glyph_wraps short further]

/-- An F by another name over a corner of the screen, a screen before the end of the 64-bit numbers
and then near the start, on a machine with a program in it, a key held and an 8 on its screen. -/
theorem drawGlyph_anywhere_over_corner :
    let deeds := [.load (.ofBytes [0x12, 0x00]), .keypad (.press 0x1f), .drawGlyph 0 0 8]
    let machine := powerOn.actAll deeds
    (∃ drawn, machine.drawGlyph? (UInt64.size - 68) (UInt64.size - 34) 0x1f =
        some { machine with framebuffer := drawn } ∧
      drawn.get 60 30 = true ∧ drawn.get 3 2 = false ∧
      drawn.get 10 10 = machine.framebuffer.get 10 10) ∧
    machine.drawGlyph? 60 30 0x1f =
      machine.drawGlyph? (UInt64.size - 68) (UInt64.size - 34) 0x1f ∧
    UInt64.size - 68 + 7 < UInt64.size ∧ UInt64.size - 34 + 4 < UInt64.size := by
  intro deeds machine
  obtain ⟨-, ⟨drawn, drawing, shown, kept, -⟩, -, inRange, further, -, rows⟩ :=
    machine.drawGlyph_anywhere (UInt64.size - 68) (UInt64.size - 34) 0x1f
  have top : machine.memory.held ((addressOfGlyph 0x1f).toNat + 0) = 0xf0 :=
    (Option.some.inj (rows deeds 0 (by decide))).symm
  have bottom : machine.memory.held ((addressOfGlyph 0x1f).toNat + 4) = 0x80 :=
    (Option.some.inj (rows deeds 4 (by decide))).symm
  refine ⟨⟨drawn, drawing, ?_, ?_, kept 10 10 ?_⟩,
    further 60 30 (-288230376151711742) (-576460752303423486) (by decide) (by decide),
    inRange (by decide) (by decide) 4 7 (by decide) (by decide)⟩
  · rw [shown 0 0 60 30 (by decide) (by decide) (by decide)]
    exact congrArg (fun bits : UInt8 => bits.toNat.testBit 7) top
  · rw [shown 4 7 3 2 (by decide) (by decide) (by decide)]
    exact congrArg (fun bits : UInt8 => bits.toNat.testBit 0) bottom
  · intro row column inRows inColumns here
    have columns : (UInt64.size - 68 + column) % 64 = 10 := here.1
    unfold UInt64.size at columns
    omega

end Machine

end Cosmac
