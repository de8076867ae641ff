/-
**Sizes: columns and rows.**

* `Size` — columns and rows, of a terminal or of a part of one.
* `Size.index`, `Size.index_lt` — a cell's index, counted row by row, is below the number of cells.
-/

namespace Cosmac

/-- Columns and rows. -/
structure Size where
  columns : Nat
  rows : Nat
deriving DecidableEq

namespace Size

/-- The number of cells. -/
def area (size : Size) : Nat := size.columns * size.rows

/-- The index of a cell, counted row by row from the top. -/
def index (size : Size) (column row : Nat) : Nat := row * size.columns + column

/-- A cell's index is below the number of cells. -/
theorem index_lt {size : Size} {column row : Nat} (inColumns : column < size.columns)
    (inRows : row < size.rows) : size.index column row < size.area := by
  have below : (row + 1) * size.columns ≤ size.rows * size.columns :=
    Nat.mul_le_mul_right _ inRows
  rw [Nat.add_mul, Nat.one_mul] at below
  rw [index, area, Nat.mul_comm size.columns]
  omega

/-- The column of a cell, from its index. -/
theorem index_mod {size : Size} {column : Nat} (row : Nat) (inColumns : column < size.columns) :
    size.index column row % size.columns = column := by
  rw [index, Nat.mul_comm, Nat.mul_add_mod, Nat.mod_eq_of_lt inColumns]

/-- The row of a cell, from its index. -/
theorem index_div {size : Size} {column : Nat} (row : Nat) (inColumns : column < size.columns) :
    size.index column row / size.columns = row := by
  rw [index, Nat.mul_comm, Nat.mul_add_div (by omega), Nat.div_eq_of_lt inColumns, Nat.add_zero]

/-- Two cells have one index only if they are the same. -/
theorem index_inj {size : Size} {column row otherColumn otherRow : Nat}
    (inColumns : column < size.columns) (otherInColumns : otherColumn < size.columns) :
    size.index column row = size.index otherColumn otherRow ↔
      column = otherColumn ∧ row = otherRow := by
  constructor
  · intro same
    constructor
    · rw [← index_mod row inColumns, same, index_mod otherRow otherInColumns]
    · rw [← index_div row inColumns, same, index_div otherRow otherInColumns]
  · rintro ⟨rfl, rfl⟩
    rfl

end Size

end Cosmac
