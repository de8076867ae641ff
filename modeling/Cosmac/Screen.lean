/-
**Screens: cells with a character and two colours.**

* `Screen size` — a grid of cells, row by row; `blank` holds spaces in the terminal's own colours.
* `Screen.cellAt`, `Screen.lines` — one cell, and all of them line by line; `Screen.ext_cellAt`.
-/

import Cosmac.Screen.Size

namespace Cosmac

/-- A colour; `reset` is the terminal's own. -/
inductive Colour where
  | reset
  | black
  | white
deriving DecidableEq

/-- A character in its colours. -/
structure Cell where
  glyph : Char
  foreground : Colour
  background : Colour
deriving DecidableEq

/-- A space in the terminal's own colours. -/
def Cell.blank : Cell := ⟨' ', .reset, .reset⟩

/-- A grid of cells, row by row from the top. -/
structure Screen (size : Size) where
  cells : Vector Cell size.area
deriving DecidableEq

namespace Screen

variable {size : Size}

/-- A screen with nothing on it. -/
def blank (size : Size) : Screen size := ⟨Vector.replicate _ .blank⟩

/-- The cell at a place. -/
def cellAt (screen : Screen size) (column row : Nat) (inColumns : column < size.columns)
    (inRows : row < size.rows) : Cell :=
  have := Size.index_lt inColumns inRows
  screen.cells[size.index column row]

theorem cellAt_blank {column row : Nat} (inColumns : column < size.columns)
    (inRows : row < size.rows) : (blank size).cellAt column row inColumns inRows = .blank := by
  rw [cellAt, blank, Vector.getElem_replicate]

/-- A screen is its cells. -/
theorem ext_cellAt {first second : Screen size}
    (same : ∀ column row inColumns inRows,
      first.cellAt column row inColumns inRows = second.cellAt column row inColumns inRows) :
    first = second := by
  have cells : first.cells = second.cells := by
    ext index inside
    have wide : 0 < size.columns := by
      refine Nat.pos_of_ne_zero fun none_there => ?_
      rw [Size.area, none_there, Nat.zero_mul] at inside
      exact Nat.not_lt_zero _ inside
    have place : size.index (index % size.columns) (index / size.columns) = index := by
      rw [Size.index, Nat.mul_comm]
      exact Nat.div_add_mod index size.columns
    have here := same (index % size.columns) (index / size.columns) (Nat.mod_lt _ wide)
      (Nat.div_lt_of_lt_mul inside)
    simp only [cellAt, place] at here
    exact here
  exact congrArg Screen.mk cells

/-- The rows of cells, from the top. -/
def lines (screen : Screen size) : List (List Cell) :=
  List.ofFn fun row : Fin size.rows => List.ofFn fun column : Fin size.columns =>
    screen.cellAt column row column.isLt row.isLt

end Screen

end Cosmac
