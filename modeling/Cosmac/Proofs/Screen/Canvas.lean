/-
**Canvases after points are painted.**

A cell of a canvas has the colour of the last layer with a point that goes to it.

* `Bounds.locate?_eq_some_iff` — the cell that a point goes to.
* `Canvas.getElem?_paint`, `Canvas.getElem?_paintLayers` — cells after points, and after layers, are
  painted.
* `Canvas.lastMark?_marks` — what the marks of a canvas show.
-/

import Cosmac.Proofs.Screen.Marks
import Cosmac.Screen.Canvas

namespace Cosmac

/-! ### The cell of a point -/

namespace Bounds

variable {bounds : Bounds} {grid : Size} {point : Point} {column row : Nat}

/-- A whole number that is scaled down by less than all of it stays in the range of the scale. -/
theorem scaled_bounds {offset extent : Int} {count : Nat} (positive : 0 < extent)
    (low : 0 ≤ offset) (high : offset ≤ extent) (some_there : 0 < count) :
    0 ≤ offset * (count - 1) / extent ∧ offset * (count - 1) / extent < count := by
  have scale : (0 : Int) ≤ count - 1 := by omega
  have most : offset * (count - 1) ≤ extent * (count - 1) :=
    Int.mul_le_mul_of_nonneg_right high scale
  constructor
  · exact Int.ediv_nonneg (Int.mul_nonneg low scale) (Int.le_of_lt positive)
  · have quotient := Int.ediv_le_ediv positive most
    rw [Int.mul_ediv_cancel_left _ (by omega)] at quotient
    omega

/-- The column of a point that the bounds contain. -/
theorem across_bounds (exact_bounds : bounds.IsExact) (someColumns : 0 < grid.columns)
    (left : bounds.left ≤ point.x) (right : point.x ≤ bounds.right) :
    0 ≤ (point.x - bounds.left) * (grid.columns - 1) / (bounds.right - bounds.left) ∧
      (point.x - bounds.left) * (grid.columns - 1) / (bounds.right - bounds.left) < grid.columns :=
  scaled_bounds (Int.sub_pos_of_lt exact_bounds.wide) (Int.sub_nonneg_of_le left)
    (Int.sub_le_sub_right right _) someColumns

/-- The row of a point that the bounds contain. -/
theorem down_bounds (exact_bounds : bounds.IsExact) (someRows : 0 < grid.rows)
    (bottom : bounds.bottom ≤ point.y) (top : point.y ≤ bounds.top) :
    0 ≤ (bounds.top - point.y) * (grid.rows - 1) / (bounds.top - bounds.bottom) ∧
      (bounds.top - point.y) * (grid.rows - 1) / (bounds.top - bounds.bottom) < grid.rows :=
  scaled_bounds (Int.sub_pos_of_lt exact_bounds.high) (Int.sub_nonneg_of_le top)
    (Int.sub_le_sub_left bottom _) someRows

section Located

variable (exact_bounds : bounds.IsExact) (someColumns : 0 < grid.columns) (someRows : 0 < grid.rows)

include exact_bounds someColumns someRows

theorem Places.inside (places : bounds.Places grid point column row) :
    column < grid.columns ∧ row < grid.rows := by
  obtain ⟨⟨left, right⟩, ⟨bottom, top⟩, column_eq, row_eq⟩ := places
  have across := across_bounds exact_bounds someColumns left right
  have down := down_bounds exact_bounds someRows bottom top
  rw [column_eq] at across
  rw [row_eq] at down
  omega

/-- **The cell of a point**, as it is worked out and as it is described. -/
theorem locate?_eq_some_iff :
    bounds.locate? grid point = some (column, row) ↔ bounds.Places grid point column row := by
  have wide := exact_bounds.wide
  have high := exact_bounds.high
  unfold locate?
  constructor
  · intro located
    split at located
    case isTrue within =>
      obtain ⟨rfl, rfl⟩ := Prod.mk.inj (Option.some.inj located)
      obtain ⟨left, right, bottom, top⟩ := of_decide_eq_true within.1
      have across := across_bounds exact_bounds someColumns left right
      have down := down_bounds exact_bounds someRows bottom top
      exact ⟨⟨left, right⟩, ⟨bottom, top⟩, (Int.toNat_of_nonneg across.1).symm,
        (Int.toNat_of_nonneg down.1).symm⟩
    case isFalse => cases located
  · rintro ⟨⟨left, right⟩, ⟨bottom, top⟩, column_eq, row_eq⟩
    have within : bounds.contains point = true := decide_eq_true ⟨left, right, bottom, top⟩
    rw [if_pos ⟨within, Int.ne_of_lt wide, Int.ne_of_lt high⟩, column_eq, row_eq]
    rfl

end Located

/-- The number of the cell that a point goes to, counted row by row. -/
def cell? (bounds : Bounds) (grid : Size) (point : Point) : Option Nat :=
  (bounds.locate? grid point).map fun (column, row) => grid.index column row

/-- The points that go to a cell are those that are placed there. -/
theorem cell?_eq_some_iff (exact_bounds : bounds.IsExact) (inColumns : column < grid.columns)
    (inRows : row < grid.rows) :
    bounds.cell? grid point = some (grid.index column row) ↔
      bounds.Places grid point column row := by
  have located : ∀ {c r}, bounds.locate? grid point = some (c, r) ↔ bounds.Places grid point c r :=
    locate?_eq_some_iff exact_bounds (by omega) (by omega)
  rw [cell?, Option.map_eq_some_iff]
  constructor
  · rintro ⟨⟨otherColumn, otherRow⟩, found, same⟩
    have places := located.mp found
    have inside := places.inside exact_bounds (by omega) (by omega)
    obtain ⟨rfl, rfl⟩ := (Size.index_inj inside.1 inColumns).mp same
    exact places
  · intro places
    exact ⟨_, located.mpr places, rfl⟩

end Bounds

/-! ### Painting -/

namespace Canvas

variable {grid : Size}

/-- **Every cell after points are painted**: those that a point goes to have the colour. -/
theorem getElem?_paint (canvas : Canvas grid) (bounds : Bounds) (colour : Colour)
    (points : List Point) {index : Nat} (inside : index < grid.area) :
    (canvas.paint bounds colour points).cells[index]? =
      if index ∈ points.filterMap (bounds.cell? grid) then some (some colour)
      else canvas.cells[index]? := by
  induction points generalizing canvas with
  | nil => rfl
  | cons point later ih =>
    show ((canvas.paintPoint bounds colour point).paint bounds colour later).cells[index]? = _
    rw [ih, List.filterMap_cons]
    cases located : bounds.locate? grid point with
    | none => simp only [paintPoint, Bounds.cell?, located, Option.map_none]
    | some place =>
      simp only [paintPoint, Bounds.cell?, located, Option.map_some, List.mem_cons,
        Vector.getElem?_setIfInBounds]
      by_cases again : index ∈ later.filterMap (bounds.cell? grid)
      · rw [if_pos again, if_pos (Or.inr again)]
      · rw [if_neg again]
        by_cases here : grid.index place.1 place.2 = index
        · rw [if_pos here, if_pos (here ▸ inside), if_pos (Or.inl here.symm)]
        · rw [if_neg here, if_neg fun either => either.elim (fun same => here same.symm) again]

/-- Layers without a point at a cell leave it as it was. -/
theorem getElem?_paintLayers_of_apart (canvas : Canvas grid) (bounds : Bounds) {layers : List Layer}
    {index : Nat} (inside : index < grid.area)
    (apart : ∀ layer ∈ layers, index ∉ layer.points.filterMap (bounds.cell? grid)) :
    (canvas.paintLayers bounds layers).cells[index]? = canvas.cells[index]? := by
  induction layers generalizing canvas with
  | nil => rfl
  | cons layer later ih =>
    obtain ⟨here, others⟩ := List.forall_mem_cons.mp apart
    show ((canvas.paint bounds layer.colour layer.points).paintLayers bounds later).cells[index]? = _
    rw [ih _ others, canvas.getElem?_paint bounds layer.colour layer.points inside, if_neg here]

/-- **A cell after layers are painted**: the last one with a point there decides. -/
theorem getElem?_paintLayers (canvas : Canvas grid) (bounds : Bounds) (before : List Layer)
    {layer : Layer} {after : List Layer} {index : Nat} (inside : index < grid.area)
    (here : index ∈ layer.points.filterMap (bounds.cell? grid))
    (apart : ∀ later ∈ after, index ∉ later.points.filterMap (bounds.cell? grid)) :
    (canvas.paintLayers bounds (before ++ layer :: after)).cells[index]? =
      some (some layer.colour) := by
  have split : canvas.paintLayers bounds (before ++ layer :: after) =
      ((canvas.paintLayers bounds before).paint bounds layer.colour layer.points).paintLayers
        bounds after := List.foldl_append
  rw [split, getElem?_paintLayers_of_apart _ bounds inside apart,
    getElem?_paint _ bounds layer.colour layer.points inside, if_pos here]

/-! ### Marks of a canvas -/

theorem mem_marks {canvas : Canvas grid} {mark : Mark} :
    mark ∈ canvas.marks ↔ ∃ index colour, canvas.cells[index]? = some (some colour) ∧
      mark = ⟨index % grid.columns, index / grid.columns, ⟨'▄', colour, .reset⟩⟩ := by
  simp only [marks, List.mem_filterMap, Prod.exists, List.mem_zipIdx_iff_getElem?,
    Vector.getElem?_toList, Option.map_eq_some_iff]
  constructor
  · rintro ⟨_, index, painted, colour, rfl, rfl⟩
    exact ⟨index, colour, painted, rfl⟩
  · rintro ⟨index, colour, painted, rfl⟩
    exact ⟨some colour, index, painted, colour, rfl, rfl⟩

/-- The marks of a canvas lie within it. -/
theorem isOn_of_mem_marks {canvas : Canvas grid} {mark : Mark} (member : mark ∈ canvas.marks) :
    mark.IsOn grid := by
  obtain ⟨index, colour, painted, rfl⟩ := mem_marks.mp member
  have below : index < grid.columns * grid.rows := (Vector.getElem?_eq_some_iff.mp painted).1
  have positive : 0 < grid.columns := Nat.pos_of_ne_zero fun zero => by simp [zero] at below
  exact ⟨Nat.mod_lt _ positive, Nat.div_lt_of_lt_mul below⟩

/-- A painted cell is marked in its colour. -/
theorem lastMark?_marks {canvas : Canvas grid} {column row : Nat} {colour : Colour}
    (inColumns : column < grid.columns)
    (painted : canvas.cells[grid.index column row]? = some (some colour)) :
    lastMark? canvas.marks column row = some ⟨'▄', colour, .reset⟩ := by
  refine lastMark?_eq_some ⟨_, mem_marks.mpr ⟨_, colour, painted, rfl⟩,
    Size.index_mod row inColumns, Size.index_div row inColumns⟩ ?_
  intro mark member sameColumn sameRow
  obtain ⟨index, other, otherPainted, rfl⟩ := mem_marks.mp member
  have sameIndex : index = grid.index column row := by
    rw [← sameColumn, ← sameRow, Size.index, Nat.mul_comm]
    exact (Nat.div_add_mod index grid.columns).symm
  rw [sameIndex, painted] at otherPainted
  rw [← Option.some.inj (Option.some.inj otherPainted)]

end Canvas

end Cosmac
