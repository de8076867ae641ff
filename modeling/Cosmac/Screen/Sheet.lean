/-
**Sheets: screens on which a frame is put together.**

The library of `Cosmac.Screen.Buffered` keeps one from frame to frame.

* `Mark` — a cell and its place.
* `Screen.put?` — one mark written, when there is a cell at its place.
* `Screen.putAll` — marks written in order, up to the first that has no cell.
* `Screen.relaid` — the cells, in order, laid out on another size.
* `Sheet` — a screen of any size.
-/

import Cosmac.Screen

namespace Cosmac

/-- A cell and the place where it is to be written. -/
structure Mark where
  column : Nat
  row : Nat
  cell : Cell
deriving DecidableEq

/-- The mark moved away from the top left corner. -/
def Mark.moved (right down : Nat) (mark : Mark) : Mark :=
  { mark with column := mark.column + right, row := mark.row + down }

namespace Screen

variable {size : Size}

/-! ### Writing -/

/-- The screen with one mark written, when there is a cell at its place. -/
def put? (screen : Screen size) (mark : Mark) : Option (Screen size) :=
  if inside : mark.column < size.columns ∧ mark.row < size.rows then
    some ⟨screen.cells.set (size.index mark.column mark.row) mark.cell
      (Size.index_lt inside.1 inside.2)⟩
  else none

/-- The screen with marks written in order. If one of them has no cell, nothing after it is written,
and the screen as it is by then is the error. -/
def putAll (screen : Screen size) : List Mark → Except (Screen size) (Screen size)
  | [] => .ok screen
  | mark :: later =>
    match screen.put? mark with
    | some written => written.putAll later
    | none => .error screen

/-- Every cell after a mark is written. -/
theorem cellAt_put? {screen written : Screen size} {mark : Mark}
    (done : screen.put? mark = some written) (column row : Nat)
    (inColumns : column < size.columns) (inRows : row < size.rows) :
    written.cellAt column row inColumns inRows =
      if mark.column = column ∧ mark.row = row then mark.cell
      else screen.cellAt column row inColumns inRows := by
  unfold put? at done
  split at done
  case isTrue inside =>
    rw [← Option.some.inj done]
    unfold cellAt
    rw [Vector.getElem_set]
    simp only [Size.index_inj inside.1 inColumns]
  case isFalse => exact absurd done nofun

/-! ### Another size -/

/-- The cells, in order, laid out on another size: those left over are dropped, and those missing
are blank. -/
def relaid (other : Size) (screen : Screen size) : Screen other :=
  ⟨Vector.ofFn fun index => screen.cells[index.val]?.getD .blank⟩

/-- Nothing comes onto a blank screen that is laid out on another size. -/
theorem relaid_blank (other : Size) : (Screen.blank size).relaid other = .blank other := by
  have same : ((Screen.blank size).relaid other).cells = (Screen.blank other).cells := by
    ext index inside
    rw [relaid, Vector.getElem_ofFn, blank, blank, Vector.getElem_replicate,
      Vector.getElem?_replicate]
    split <;> rfl
  exact congrArg Screen.mk same

end Screen

/-- A screen of any size, on which a frame is put together. -/
structure Sheet where
  size : Size
  screen : Screen size
deriving DecidableEq

end Cosmac
