/-
**The terminal library that the program runs with here.**

Frames are put together on a sheet and then shown. A sheet whose frame has been shown is replaced by
a blank one. A panel that the frame has no room for is a panic; what there is of it stays on the
sheet, and the next frame is put together over it. When a frame covers another size than the sheet,
the cells of the sheet are laid out anew, in order. The ground of a box is laid first, so that this
is all that can stay.

A frame has at most 65535 cells. On a terminal with more it covers a part of the same shape with
about that many.

* `Size.clipped` — the part of a terminal that a frame covers.
* `Panel.marks` — the marks of a panel: its box, and its canvas inside.
* `TerminalLibrary.buffered` — the library. `Cosmac.Proofs.Screen.Buffered` proves it lawful.
-/

import Cosmac.Screen.Canvas
import Cosmac.Screen.Library

namespace Cosmac

/-! ### The size of a frame -/

/-- The largest number up to a bound with a property, or zero. -/
def largest (property : Nat → Bool) : Nat → Nat
  | 0 => 0
  | bound + 1 => if property (bound + 1) then bound + 1 else largest property bound

namespace Size

/-- The most cells that a frame can have. -/
def largestArea : Nat := 65535

/-- The columns and rows of a rectangle of the same shape with the most cells that a frame can have,
without fractions: if its width is `w` and its height `h`, then `w ^ 2 = area * columns / rows` and
`h ^ 2 = area * rows / columns`. -/
def reduced (size : Size) : Size where
  columns := largest (fun width => width * width * size.rows ≤ largestArea * size.columns)
    size.columns
  rows := largest (fun height => height * height * size.columns ≤ largestArea * size.rows) size.rows

/-- The part of a terminal that a frame covers, from the top left corner. -/
def clipped (size : Size) : Size :=
  if size.area ≤ largestArea then size else size.reduced

end Size

/-! ### Panels -/

/-- The mark of a character of a box. -/
def boxMark (ground : Colour) (column row : Nat) (glyph : Char) : Mark :=
  ⟨column, row, ⟨glyph, .reset, ground⟩⟩

namespace Panel

/-- The ground of the box, row by row. -/
def groundMarks (panel : Panel) : List Mark :=
  (List.range panel.size.rows).flatMap fun row =>
    (List.range panel.size.columns).map fun column => boxMark panel.ground column row ' '

/-- The edges, the corners over them, and the title, which starts after the upper left corner. -/
def edgeMarks (panel : Panel) : List Mark :=
  let rightmost := panel.size.columns - 1
  let lowest := panel.size.rows - 1
  (List.range panel.size.rows).map (fun row => boxMark panel.ground 0 row '│') ++
    (List.range panel.size.columns).map (fun column => boxMark panel.ground column 0 '─') ++
    (List.range panel.size.rows).map (fun row => boxMark panel.ground rightmost row '│') ++
    (List.range panel.size.columns).map (fun column => boxMark panel.ground column lowest '─') ++
    [boxMark panel.ground rightmost lowest '┘', boxMark panel.ground rightmost 0 '┐',
      boxMark panel.ground 0 lowest '└', boxMark panel.ground 0 0 '┌'] ++
    (panel.title.toList.take (panel.size.columns - 2)).zipIdx.map fun (glyph, index) =>
      boxMark panel.ground (index + 1) 0 glyph

/-- The canvas with its layers. -/
def canvas (panel : Panel) : Canvas panel.inner :=
  (Canvas.empty _).paintLayers panel.bounds panel.layers

/-- The marks of the whole panel. -/
def marks (panel : Panel) : List Mark :=
  panel.groundMarks ++ panel.edgeMarks ++ panel.canvas.marks.map (Mark.moved 1 1)

end Panel

/-! ### Frames -/

/-- The library that puts frames together on a sheet. -/
def TerminalLibrary.buffered : TerminalLibrary where
  Kept := Sheet
  start terminal := ⟨terminal.clipped, .blank _⟩
  covered := Size.clipped
  draw sheet terminal panel :=
    match (sheet.screen.relaid terminal.clipped).putAll panel.marks with
    | .ok screen => (some screen, ⟨terminal.clipped, .blank _⟩)
    | .error screen => (none, ⟨terminal.clipped, screen⟩)

end Cosmac
