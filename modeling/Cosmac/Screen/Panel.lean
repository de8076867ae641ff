/-
**Panels: what a terminal library is asked to draw.**

A panel is a box with edges one cell wide, a title in its upper edge and a canvas inside. On the
canvas lie layers of points, each in one colour, the later ones over the earlier ones. The points
are points of the plane, and a region of the plane is stretched over the canvas.

* `Point`, `Bounds`, `Layer`, `Panel` — the request.
* `Bounds.Places` — the cell of a grid that a point goes to.
* `Panel.edgeGlyph` — the characters of edges, corners and title.
-/

import Cosmac.Screen

namespace Cosmac

/-! ### Points -/

/-- A point of the plane, with `y` upwards. -/
structure Point where
  x : Int
  y : Int
deriving DecidableEq

/-- A region of the plane. -/
structure Bounds where
  left : Int
  right : Int
  bottom : Int
  top : Int
deriving DecidableEq

namespace Bounds

/-- A region has some width and some height, and its edges are small enough for arithmetic in
double precision to be exact on them. -/
structure IsExact (bounds : Bounds) : Prop where
  wide : bounds.left < bounds.right
  high : bounds.bottom < bounds.top
  small : ∀ edge ∈ [bounds.left, bounds.right, bounds.bottom, bounds.top],
    edge.natAbs < 2147483648

/-- **The cell of a grid that a point goes to.** The left edge of the region goes to the first
column and the right edge to the last, the top to the first row and the bottom to the last, and what
lies between in proportion, rounded towards the top left. -/
structure Places (bounds : Bounds) (grid : Size) (point : Point) (column row : Nat) : Prop where
  across : bounds.left ≤ point.x ∧ point.x ≤ bounds.right
  upright : bounds.bottom ≤ point.y ∧ point.y ≤ bounds.top
  column_eq :
    (point.x - bounds.left) * (grid.columns - 1) / (bounds.right - bounds.left) = column
  row_eq : (bounds.top - point.y) * (grid.rows - 1) / (bounds.top - bounds.bottom) = row

end Bounds

/-- Points in one colour. -/
structure Layer where
  points : List Point
  colour : Colour
deriving DecidableEq

/-! ### Panels -/

/-- A box with a title, and a canvas inside it. -/
structure Panel where
  /-- The size of the box, edges included. -/
  size : Size
  /-- The box has room for its edges. -/
  wide : 2 ≤ size.columns
  high : 2 ≤ size.rows
  title : String
  /-- The colour behind edges and title. -/
  ground : Colour
  /-- The region of the plane that is stretched over the canvas. -/
  bounds : Bounds
  /-- What lies on the canvas, the later over the earlier. -/
  layers : List Layer

namespace Panel

/-- The size of the canvas: what the edges leave. -/
def inner (panel : Panel) : Size := ⟨panel.size.columns - 2, panel.size.rows - 2⟩

/-- The title has one cell for each character. -/
def HasPlainTitle (panel : Panel) : Prop :=
  ∀ character ∈ panel.title.toList, ' ' ≤ character ∧ character ≤ '~'

/-- A place on the edges of a panel. -/
def IsEdge (panel : Panel) (column row : Nat) : Prop :=
  (column < panel.size.columns ∧ row < panel.size.rows) ∧
    (column = 0 ∨ column = panel.size.columns - 1 ∨ row = 0 ∨ row = panel.size.rows - 1)

/-- The character at a place on the edges: the title begins after the upper left corner and ends
before the right one at the latest. -/
def edgeGlyph (panel : Panel) (column row : Nat) : Char :=
  if row = 0 then
    if column = 0 then '┌'
    else if column = panel.size.columns - 1 then '┐'
    else (panel.title.toList.take (panel.size.columns - 2))[column - 1]?.getD '─'
  else if row = panel.size.rows - 1 then
    if column = 0 then '└' else if column = panel.size.columns - 1 then '┘' else '─'
  else '│'

end Panel

end Cosmac
