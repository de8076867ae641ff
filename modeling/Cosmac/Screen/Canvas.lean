/-
**Canvases: points of a plane painted on a grid.**

The library of `Cosmac.Screen.Buffered` paints its canvases so. Nothing about canvases in general is
relied on but the laws in `Cosmac.Screen.Library`.

* `Bounds.locate?` — the column and row of a point.
* `Canvas.paint`, `Canvas.paintLayers` — points painted in a colour, and layers over each other.
* `Canvas.marks` — a half block for every painted cell.
-/

import Cosmac.Screen.Panel
import Cosmac.Screen.Sheet

namespace Cosmac

namespace Bounds

/-- Whether a point lies in the region, edges included. -/
def contains (bounds : Bounds) (point : Point) : Bool :=
  bounds.left ≤ point.x ∧ point.x ≤ bounds.right ∧ bounds.bottom ≤ point.y ∧ point.y ≤ bounds.top

/-- The column and row of a point on a grid over the region. -/
def locate? (bounds : Bounds) (grid : Size) (point : Point) : Option (Nat × Nat) :=
  if bounds.contains point ∧ bounds.left ≠ bounds.right ∧ bounds.bottom ≠ bounds.top then
    some (((point.x - bounds.left) * (grid.columns - 1) / (bounds.right - bounds.left)).toNat,
      ((bounds.top - point.y) * (grid.rows - 1) / (bounds.top - bounds.bottom)).toNat)
  else none

end Bounds

/-- A grid of cells, each painted in a colour or not at all, row by row from the top. -/
structure Canvas (grid : Size) where
  cells : Vector (Option Colour) grid.area
deriving DecidableEq

namespace Canvas

variable {grid : Size}

/-- A canvas with nothing painted. -/
def empty (grid : Size) : Canvas grid := ⟨Vector.replicate _ none⟩

/-- The canvas with one point painted. -/
def paintPoint (bounds : Bounds) (colour : Colour) (canvas : Canvas grid) (point : Point) :
    Canvas grid :=
  match bounds.locate? grid point with
  | some (column, row) => ⟨canvas.cells.setIfInBounds (grid.index column row) (some colour)⟩
  | none => canvas

/-- The canvas with points painted in a colour. -/
def paint (canvas : Canvas grid) (bounds : Bounds) (colour : Colour) (points : List Point) :
    Canvas grid :=
  points.foldl (paintPoint bounds colour) canvas

/-- The canvas with layers painted over each other. -/
def paintLayers (canvas : Canvas grid) (bounds : Bounds) (layers : List Layer) : Canvas grid :=
  layers.foldl (fun painted layer => painted.paint bounds layer.colour layer.points) canvas

/-- A half block in its colour for every painted cell. -/
def marks (canvas : Canvas grid) : List Mark :=
  canvas.cells.toList.zipIdx.filterMap fun (painted, index) =>
    painted.map fun colour =>
      ⟨index % grid.columns, index / grid.columns, ⟨'▄', colour, .reset⟩⟩

end Canvas

end Cosmac
