/-
**Plots: dots written in any order, and rectangles that wrap.**

Of the dots on one pixel the last counts, so where all dots on a pixel agree their order does not
matter. A filled rectangle is such a plot: it covers a column if the distance to it from the left
edge, counted round the screen, is less than the width, and so for the rows; it may be wider or
higher than the screen.

* `ext_get` — a framebuffer is its pixels.
* `get_plot_of_apart`, `get_plot_of_alike`, `get_plot_uniform` — a pixel after dots are written.
* `plot_perm` — dots that agree, in any order.
* `exists_step_iff` — a place on a circle reached from a start in less than so many steps.
* `get_plot_rectangle` — a pixel after a rectangle is filled.
* `plot_rectangle_wraps` — filled rectangles: every pixel, any order, and whole screens further.
-/

import Cosmac.Proofs.Framebuffer.Edits

namespace Cosmac

/-- A dot as an edit. -/
def Dot.edit (dot : Dot) : Framebuffer.Edit := .set dot.x dot.y dot.on

/-- The place of a number of steps from a start, round a circle. -/
theorem exists_step_iff {circle : Nat} (positive : 0 < circle) (start steps place : Nat) :
    (∃ step, step < steps ∧ (start + step) % circle = place % circle) ↔
      ((place : Int) - start) % circle < steps := by
  constructor
  · rintro ⟨step, below, arrives⟩
    have congruent : ((start + step : Nat) : Int) % circle = (place : Int) % circle := by
      exact_mod_cast arrives
    -- the distance is the number of steps less whole rounds, so it is not more
    have walked : ((start + step : Nat) : Int) - start = step := by omega
    have distance : ((place : Int) - start) % circle = (step : Int) % circle := by
      rw [Int.sub_emod, ← congruent, ← Int.sub_emod, walked]
    have short : (step : Int) % circle ≤ step := by exact_mod_cast Nat.mod_le step circle
    rw [distance]
    omega
  · intro near
    -- the distance itself is a number of steps that arrives
    have nonneg : 0 ≤ ((place : Int) - start) % circle := Int.emod_nonneg _ (by omega)
    refine ⟨(((place : Int) - start) % circle).toNat, by omega, ?_⟩
    have back : (start : Int) + (place - start) = place := by omega
    have arrives : ((start : Int) + ((place : Int) - start) % circle) % circle =
        (place : Int) % circle := by
      rw [Int.add_emod_emod, back]
    rw [← Int.toNat_of_nonneg nonneg] at arrives
    exact_mod_cast arrives

namespace Framebuffer

variable (framebuffer : Framebuffer)

/-! ### Pixels -/

/-- A framebuffer is its pixels. -/
theorem ext_get {first second : Framebuffer}
    (same : ∀ u v, u < 64 → v < 32 → first.get u v = second.get u v) : first = second := by
  have pixels : first.pixels = second.pixels := by
    ext index inside
    have inColumns : index % 64 < 64 := Nat.mod_lt _ (by decide)
    have inRows : index / 64 < 32 := Nat.div_lt_of_lt_mul inside
    have found := first.getElem?_pixels_index inside
    rw [same _ _ inColumns inRows, ← second.getElem?_pixels_index inside,
      Vector.getElem?_eq_getElem inside, Vector.getElem?_eq_getElem inside] at found
    exact Option.some.inj found
  exact congrArg Framebuffer.mk pixels

/-! ### Dots -/

theorem plot_eq_editAll (dots : List Dot) :
    framebuffer.plot dots = framebuffer.editAll (dots.map Dot.edit) := by
  rw [plot, editAll, List.foldl_map]
  rfl

section Dots

variable {dots : List Dot} {u v : Nat} {on : Bool}

/-- A pixel that no dot is on stays as it is. -/
theorem get_plot_of_apart (apart : ∀ dot ∈ dots, ¬ SamePixel dot.x dot.y u v) :
    (framebuffer.plot dots).get u v = framebuffer.get u v := by
  have untouched : ∀ edit ∈ dots.map Dot.edit, ¬ edit.Touches u v := by
    intro edit member
    obtain ⟨dot, among, rfl⟩ := List.mem_map.mp member
    exact apart dot among
  rw [plot_eq_editAll, get_editAll, lastWritten?_eq_none untouched, Option.getD_none]

/-- A pixel is as the dots on it say, if there are any and all say the same. -/
theorem get_plot_of_alike (present : ∃ dot ∈ dots, SamePixel dot.x dot.y u v)
    (alike : ∀ dot ∈ dots, SamePixel dot.x dot.y u v → dot.on = on) :
    (framebuffer.plot dots).get u v = on := by
  rw [plot_eq_editAll, get_editAll]
  cases written : lastWritten? (dots.map Dot.edit) u v with
  | none =>
    obtain ⟨dot, among, here⟩ := present
    have skipped := List.findSome?_eq_none_iff.mp written dot.edit
      (List.mem_reverse.mpr (List.mem_map_of_mem among))
    rw [Dot.edit, Edit.written?, if_pos here] at skipped
    cases skipped
  | some shown =>
    obtain ⟨edit, member, writes⟩ := List.exists_of_findSome?_eq_some written
    obtain ⟨dot, among, rfl⟩ := List.mem_map.mp (List.mem_reverse.mp member)
    have decides : (if SamePixel dot.x dot.y u v then some dot.on else none) = some shown := writes
    split at decides
    case isTrue here => rw [← Option.some.inj decides, alike dot among here, Option.getD_some]
    case isFalse => cases decides

/-- **Dots that all say the same**: they decide every pixel that one of them is on. -/
theorem get_plot_uniform {covered : Prop} [Decidable covered] (same : ∀ dot ∈ dots, dot.on = on)
    (covers : (∃ dot ∈ dots, SamePixel dot.x dot.y u v) ↔ covered) :
    (framebuffer.plot dots).get u v = if covered then on else framebuffer.get u v := by
  split
  case isTrue here =>
    exact framebuffer.get_plot_of_alike (covers.mpr here) fun dot member _ => same dot member
  case isFalse apart =>
    exact framebuffer.get_plot_of_apart fun dot member here => apart (covers.mp ⟨dot, member, here⟩)

/-- **Where all dots on a pixel say the same, their order does not matter.** -/
theorem plot_perm {others : List Dot}
    (alike : ∀ first ∈ dots, ∀ second ∈ dots,
      SamePixel first.x first.y second.x second.y → first.on = second.on)
    (moved : others.Perm dots) : framebuffer.plot others = framebuffer.plot dots := by
  refine ext_get fun u v _ _ => ?_
  by_cases present : ∃ dot ∈ dots, SamePixel dot.x dot.y u v
  case pos =>
    obtain ⟨dot, among, here⟩ := present
    have agree : ∀ other ∈ dots, SamePixel other.x other.y u v → other.on = dot.on :=
      fun other member there => alike other member dot among
        ⟨there.1.trans here.1.symm, there.2.trans here.2.symm⟩
    rw [framebuffer.get_plot_of_alike ⟨dot, among, here⟩ agree]
    exact framebuffer.get_plot_of_alike ⟨dot, moved.mem_iff.mpr among, here⟩
      fun other member => agree other (moved.mem_iff.mp member)
  case neg =>
    have apart : ∀ dot ∈ dots, ¬ SamePixel dot.x dot.y u v :=
      fun dot member here => present ⟨dot, member, here⟩
    rw [framebuffer.get_plot_of_apart apart]
    exact framebuffer.get_plot_of_apart fun dot member => apart dot (moved.mem_iff.mp member)

end Dots

/-! ### Rectangles -/

variable {x y across down : Nat} {on : Bool}

theorem mem_rectangle {dot : Dot} :
    dot ∈ rectangle x y across down on ↔
      ∃ column row, column < across ∧ row < down ∧ dot = ⟨x + column, y + row, on⟩ := by
  simp only [rectangle, List.mem_flatMap, List.mem_map, List.mem_range]
  constructor
  · rintro ⟨row, inRows, column, inColumns, rfl⟩
    exact ⟨column, row, inColumns, inRows, rfl⟩
  · rintro ⟨column, row, inColumns, inRows, rfl⟩
    exact ⟨row, inRows, column, inColumns, rfl⟩

/-- A rectangle covers a pixel if its columns and its rows do, counted round the screen. -/
theorem exists_mem_rectangle_iff {u v : Nat} :
    (∃ dot ∈ rectangle x y across down on, SamePixel dot.x dot.y u v) ↔
      ((u : Int) - x) % 64 < across ∧ ((v : Int) - y) % 32 < down := by
  have columns : (∃ column, column < across ∧ (x + column) % 64 = u % 64) ↔
      ((u : Int) - x) % 64 < across := exists_step_iff (by decide) x across u
  have rows : (∃ row, row < down ∧ (y + row) % 32 = v % 32) ↔
      ((v : Int) - y) % 32 < down := exists_step_iff (by decide) y down v
  rw [← columns, ← rows]
  constructor
  · rintro ⟨dot, member, here⟩
    obtain ⟨column, row, inColumns, inRows, rfl⟩ := mem_rectangle.mp member
    exact ⟨⟨column, inColumns, here.1⟩, ⟨row, inRows, here.2⟩⟩
  · rintro ⟨⟨column, inColumns, sameColumn⟩, ⟨row, inRows, sameRow⟩⟩
    exact ⟨_, mem_rectangle.mpr ⟨column, row, inColumns, inRows, rfl⟩, sameColumn, sameRow⟩

/-- **A pixel after a rectangle is filled.** -/
theorem get_plot_rectangle (u v : Nat) :
    (framebuffer.plot (rectangle x y across down on)).get u v =
      if ((u : Int) - x) % 64 < across ∧ ((v : Int) - y) % 32 < down then on
      else framebuffer.get u v := by
  refine framebuffer.get_plot_uniform (fun dot member => ?_) exists_mem_rectangle_iff
  obtain ⟨_, _, _, _, rfl⟩ := mem_rectangle.mp member
  rfl

/-- **Filled rectangles wrap.** A pixel gets the value of the rectangle if it is reached from the
left upper corner in less than its width and height, counted round the screen, and keeps its own
otherwise. The dots may be written in any order, and the rectangle may stand whole screens further.
If its sides end within 64-bit numbers, every dot has 64-bit coordinates. -/
theorem plot_rectangle_wraps (x y across down : Nat) (on : Bool) :
    (∀ u v, (framebuffer.plot (rectangle x y across down on)).get u v =
      if ((u : Int) - x) % 64 < across ∧ ((v : Int) - y) % 32 < down then on
      else framebuffer.get u v) ∧
    (∀ dots, dots.Perm (rectangle x y across down on) →
      framebuffer.plot dots = framebuffer.plot (rectangle x y across down on)) ∧
    (∀ (x' y' : Nat) (screensRight screensDown : Int),
      (x' : Int) = x + 64 * screensRight → (y' : Int) = y + 32 * screensDown →
        framebuffer.plot (rectangle x' y' across down on) =
          framebuffer.plot (rectangle x y across down on)) ∧
    (x + across ≤ UInt64.size → y + down ≤ UInt64.size →
      ∀ dot ∈ rectangle x y across down on, dot.x < UInt64.size ∧ dot.y < UInt64.size) := by
  refine ⟨fun u v => framebuffer.get_plot_rectangle u v, fun dots moved => ?_,
    fun x' y' screensRight screensDown right lower => ?_, fun wide high dot member => ?_⟩
  · refine ext_get fun u v _ _ => ?_
    have covers : (∃ dot ∈ dots, SamePixel dot.x dot.y u v) ↔
        ((u : Int) - x) % 64 < across ∧ ((v : Int) - y) % 32 < down := by
      simp only [moved.mem_iff]
      exact exists_mem_rectangle_iff
    rw [get_plot_rectangle]
    refine framebuffer.get_plot_uniform (fun dot member => ?_) covers
    obtain ⟨_, _, _, _, rfl⟩ := mem_rectangle.mp (moved.mem_iff.mp member)
    rfl
  · have column : ∀ u : Nat, ((u : Int) - x') % 64 = ((u : Int) - x) % 64 := by omega
    have row : ∀ v : Nat, ((v : Int) - y') % 32 = ((v : Int) - y) % 32 := by omega
    refine ext_get fun u v _ _ => ?_
    rw [get_plot_rectangle, get_plot_rectangle, column, row]
  · obtain ⟨column, row, inColumns, inRows, rfl⟩ := mem_rectangle.mp member
    have inWidth : x + column < UInt64.size := by omega
    have inHeight : y + row < UInt64.size := by omega
    exact ⟨inWidth, inHeight⟩

/-- A rectangle over a corner of the screen, at the end of the 64-bit numbers and written backwards;
one that is wider than the screen; and the first one again, as near the start as can be. -/
theorem plot_rectangle_wraps_at_end :
    (blank.plot (rectangle (UInt64.size - 3) 31 3 2 true).reverse).get 63 0 = true ∧
    (blank.plot (rectangle (UInt64.size - 3) 31 3 2 true).reverse).get 0 0 = false ∧
    (blank.plot (rectangle (UInt64.size - 96) 31 96 2 true)).get 0 0 = true ∧
    blank.plot (rectangle 61 31 3 2 true) =
      blank.plot (rectangle (UInt64.size - 3) 31 3 2 true) ∧
    (∀ dot ∈ rectangle (UInt64.size - 3) 31 3 2 true,
      dot.x < UInt64.size ∧ dot.y < UInt64.size) := by
  obtain ⟨shown, anyOrder, further, inRange⟩ :=
    blank.plot_rectangle_wraps (UInt64.size - 3) 31 3 2 true
  refine ⟨?_, ?_, ?_, further 61 31 (-288230376151711743) 0 (by decide) (by decide),
    inRange (by decide) (by decide)⟩
  · rw [anyOrder _ (List.reverse_perm _), shown]
    decide
  · rw [anyOrder _ (List.reverse_perm _), shown]
    decide
  · rw [(blank.plot_rectangle_wraps (UInt64.size - 96) 31 96 2 true).1]
    decide

end Framebuffer

end Cosmac
