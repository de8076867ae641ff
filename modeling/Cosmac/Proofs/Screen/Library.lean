/-
**What follows from the laws of a terminal library.**

A frame covers a terminal of up to 65535 cells as a whole, and of a larger one a part of the same
shape. So a panel cannot be drawn on a terminal that is too small for it, nor on one that is large
but very oblong.

* `Lawful.draw_eq_none_iff_small` — a panel is a panic exactly if the frame is smaller.
* `Lawful.covered_oblong` — terminals of which a frame covers less than 66 columns or 34 rows.
* `TerminalLibrary.afresh` — from a lawful library, one that draws every frame afresh.
-/

import Cosmac.Screen.Library

namespace Cosmac

namespace TerminalLibrary

variable {library : TerminalLibrary}

namespace Lawful

variable (lawful : library.Lawful)

include lawful

theorem draw_eq_none_iff_small (kept : library.Kept) (terminal : Size) (panel : Panel) :
    (library.draw kept terminal panel).1 = none ↔
      (library.covered terminal).columns < panel.size.columns ∨
        (library.covered terminal).rows < panel.size.rows := by
  have wide := panel.wide
  have high := panel.high
  rw [lawful.draw_eq_none_iff]
  constructor
  · rintro ⟨column, row, inside, outside⟩
    omega
  · rintro (narrow | low)
    · exact ⟨(library.covered terminal).columns, 0, ⟨narrow, by omega⟩, by omega⟩
    · exact ⟨0, (library.covered terminal).rows, ⟨by omega, low⟩, by omega⟩

/-- A panel that the frame has room for is drawn. -/
theorem exists_drawn (kept : library.Kept) {terminal : Size} {panel : Panel}
    (wide : panel.size.columns ≤ (library.covered terminal).columns)
    (high : panel.size.rows ≤ (library.covered terminal).rows) :
    ∃ screen next, library.draw kept terminal panel = (some screen, next) := by
  have room := lawful.draw_eq_none_iff_small kept terminal panel
  cases shown : (library.draw kept terminal panel).1 with
  | some screen => exact ⟨screen, (library.draw kept terminal panel).2, Prod.ext shown rfl⟩
  | none =>
    have small := room.mp shown
    omega

/-- A frame has too few columns or rows on a terminal that has too few. -/
theorem covered_small {columns rows : Nat} {terminal : Size}
    (small : terminal.columns < columns ∨ terminal.rows < rows) :
    (library.covered terminal).columns < columns ∨ (library.covered terminal).rows < rows := by
  have narrower := lawful.covered_columns_le terminal
  have lower := lawful.covered_rows_le terminal
  omega

/-- **A very oblong terminal is covered in a part that is too narrow or too low**, however large the
terminal is. With 66 columns a frame has 992 rows at the most, and with 34 rows 1927 columns. -/
theorem covered_oblong {terminal : Size}
    (oblong : 993 * terminal.columns < 66 * terminal.rows ∨
      1928 * terminal.rows < 34 * terminal.columns) :
    (library.covered terminal).columns < 66 ∨ (library.covered terminal).rows < 34 := by
  obtain ⟨upright, level⟩ := lawful.covered_shape terminal
  have limited := lawful.covered_area_le terminal
  rw [Size.area] at limited
  rcases Nat.lt_or_ge (library.covered terminal).columns 66 with narrow | wide
  · exact .inl narrow
  rcases Nat.lt_or_ge (library.covered terminal).rows 34 with low | high
  · exact .inr low
  exfalso
  obtain oblong | oblong := oblong
  · have few : (library.covered terminal).rows ≤ 992 := by
      have rectangle := Nat.mul_le_mul_right (library.covered terminal).rows wide
      omega
    have tall := Nat.mul_le_mul_right terminal.rows wide
    have short : terminal.columns * ((library.covered terminal).rows + 1) ≤
        terminal.columns * 993 := Nat.mul_le_mul_left _ (Nat.succ_le_succ few)
    omega
  · have few : (library.covered terminal).columns ≤ 1927 := by
      have rectangle := Nat.mul_le_mul_left (library.covered terminal).columns high
      omega
    have broad := Nat.mul_le_mul_right terminal.columns high
    have narrow : terminal.rows * ((library.covered terminal).columns + 1) ≤
        terminal.rows * 1928 := Nat.mul_le_mul_left _ (Nat.succ_le_succ few)
    omega

end Lawful

/-! ### Drawing afresh -/

/-- The library that starts anew for every frame. -/
def afresh (library : TerminalLibrary) : TerminalLibrary where
  Kept := Unit
  start _ := ()
  covered := library.covered
  draw _ terminal panel := ((library.draw (library.start terminal) terminal panel).1, ())

theorem fullRedraw_afresh (library : TerminalLibrary) : library.afresh.FullRedraw :=
  fun _ _ _ => rfl

theorem exists_draw_of_afresh {terminal : Size} {panel : Panel}
    {screen : Screen (library.covered terminal)} {kept next : Unit}
    (drawn : library.afresh.draw kept terminal panel = (some screen, next)) :
    ∃ left, library.draw (library.start terminal) terminal panel = (some screen, left) := by
  have shown : (library.draw (library.start terminal) terminal panel).1 = some screen :=
    congrArg Prod.fst drawn
  exact ⟨_, Prod.ext shown rfl⟩

theorem lawful_afresh (lawful : library.Lawful) : library.afresh.Lawful where
  covered_whole := lawful.covered_whole
  covered_area_le := lawful.covered_area_le
  covered_columns_le := lawful.covered_columns_le
  covered_rows_le := lawful.covered_rows_le
  covered_shape := lawful.covered_shape
  draw_eq_none_iff _ terminal panel :=
    lawful.draw_eq_none_iff (library.start terminal) terminal panel
  cellAt_edge drawn := by
    obtain ⟨_, shown⟩ := exists_draw_of_afresh drawn
    exact lawful.cellAt_edge shown
  cellAt_point drawn := by
    obtain ⟨_, shown⟩ := exists_draw_of_afresh drawn
    exact lawful.cellAt_point shown
  cellAt_outside {_ _ terminal _ _} _ drawn := by
    obtain ⟨_, shown⟩ := exists_draw_of_afresh drawn
    exact lawful.cellAt_outside (.start terminal) shown

end TerminalLibrary

end Cosmac
