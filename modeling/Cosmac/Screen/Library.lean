/-
**The terminal library, which is not part of this development.**

Frames come onto the terminal through a library (tui). It is a parameter: `TerminalLibrary` is what
can be asked of it, and `TerminalLibrary.Lawful` names what is relied on. Everything about frames is
stated for any lawful library; the one that the program runs with here is in
`Cosmac.Screen.Buffered`. That the terminal itself can fail is left out.

* `TerminalLibrary` — the part of a terminal that a frame covers, and drawing a frame.
* `TerminalLibrary.Settled` — nothing is left over of a frame that could not be drawn.
* `TerminalLibrary.Lawful` — the laws.
* `TerminalLibrary.FullRedraw` — one assumption more: every frame is drawn afresh, also after one
  that could not be drawn. What needs it says so.
-/

import Cosmac.Screen.Panel

namespace Cosmac

/-- A terminal library: what it keeps, what it covers and what it draws. -/
structure TerminalLibrary where
  /-- What the library keeps from one frame to the next. -/
  Kept : Type
  /-- What it keeps when it has taken over a terminal of some size and cleared it. -/
  start : Size → Kept
  /-- The part of a terminal that a frame covers, from the top left corner. -/
  covered : Size → Size
  /-- Draw a frame with one panel at the top left of a terminal of some size. The answer is what
  the frame then shows, or nothing if drawing it is a panic. -/
  draw : Kept → (terminal : Size) → Panel → Option (Screen (covered terminal)) × Kept

namespace TerminalLibrary

/-- The library has just taken over a terminal, or has just shown a frame. -/
inductive Settled (library : TerminalLibrary) : library.Kept → Prop
  | start (terminal : Size) : Settled library (library.start terminal)
  | shown {kept next : library.Kept} {terminal : Size} {panel : Panel}
      {screen : Screen (library.covered terminal)}
      (drawn : library.draw kept terminal panel = (some screen, next)) : Settled library next

/-- **What is relied on of a terminal library.** -/
structure Lawful (library : TerminalLibrary) : Prop where
  /-- A frame covers a terminal as a whole if it does not have too many cells. -/
  covered_whole : ∀ {terminal : Size}, terminal.area ≤ 65535 → library.covered terminal = terminal
  /-- What a frame covers is limited, so that it does not have too many cells. -/
  covered_area_le : ∀ terminal, (library.covered terminal).area ≤ 65535
  covered_columns_le : ∀ terminal, (library.covered terminal).columns ≤ terminal.columns
  covered_rows_le : ∀ terminal, (library.covered terminal).rows ≤ terminal.rows
  /-- What a frame covers has the shape of the terminal, but for what is lost by cutting off
  fractions of a cell. -/
  covered_shape : ∀ terminal,
    (library.covered terminal).columns * terminal.rows ≤
        terminal.columns * ((library.covered terminal).rows + 1) ∧
      (library.covered terminal).rows * terminal.columns ≤
        terminal.rows * ((library.covered terminal).columns + 1)
  /-- A cell outside the frame cannot be written: drawing a panel that has one is a panic. -/
  draw_eq_none_iff : ∀ kept terminal (panel : Panel), (library.draw kept terminal panel).1 = none ↔
    ∃ column row, (column < panel.size.columns ∧ row < panel.size.rows) ∧
      ¬ (column < (library.covered terminal).columns ∧ row < (library.covered terminal).rows)
  /-- Edges, corners and title are drawn in the terminal's own colour on the ground of the box. -/
  cellAt_edge : ∀ {kept next terminal} {panel : Panel} {screen : Screen (library.covered terminal)},
    library.draw kept terminal panel = (some screen, next) → panel.HasPlainTitle →
    ∀ {column row}, panel.IsEdge column row → ∀ inColumns inRows,
      screen.cellAt column row inColumns inRows =
        ⟨panel.edgeGlyph column row, .reset, panel.ground⟩
  /-- A cell of the canvas is a half block in the colour of the last layer with a point that goes
  there, with nothing behind it. -/
  cellAt_point : ∀ {kept next terminal} {panel : Panel}
    {screen : Screen (library.covered terminal)},
    library.draw kept terminal panel = (some screen, next) → panel.bounds.IsExact →
    ∀ {before layer after}, panel.layers = before ++ layer :: after →
    ∀ {point column row}, point ∈ layer.points →
      panel.bounds.Places panel.inner point column row →
      column < panel.inner.columns → row < panel.inner.rows →
      (∀ later ∈ after, ∀ other ∈ later.points,
        ¬ panel.bounds.Places panel.inner other column row) →
      ∀ inColumns inRows,
        screen.cellAt (column + 1) (row + 1) inColumns inRows = ⟨'▄', layer.colour, .reset⟩
  /-- A frame begins blank when nothing is left over: there is nothing outside the panel. -/
  cellAt_outside : ∀ {kept next terminal} {panel : Panel}
    {screen : Screen (library.covered terminal)}, library.Settled kept →
    library.draw kept terminal panel = (some screen, next) →
    ∀ {column row}, ¬ (column < panel.size.columns ∧ row < panel.size.rows) →
      ∀ inColumns inRows, screen.cellAt column row inColumns inRows = .blank

/-- Every frame is drawn afresh: what it shows does not depend on the frames before it, not even on
one that could not be drawn. -/
def FullRedraw (library : TerminalLibrary) : Prop :=
  ∀ kept terminal panel, (library.draw kept terminal panel).1 =
    (library.draw (library.start terminal) terminal panel).1

end TerminalLibrary

end Cosmac
