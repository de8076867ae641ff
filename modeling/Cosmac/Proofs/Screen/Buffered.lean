/-
**The library that puts frames together on a sheet is lawful.**

All marks of a panel lie within it and its ground covers it, so they can be written exactly if the
frame has room for the panel. Canvas marks do not reach the edges, and edge marks are written over
the ground. After a frame that was shown, the sheet is blank.

* `Size.reduced_area_le`, `Size.reduced_shape` — the part of a large terminal that a frame covers.
* `Panel.lastMark?_edgeMarks`, `Panel.lastMark?_canvas` — what the marks of a panel show.
* `TerminalLibrary.buffered_lawful` — the library is lawful.
-/

import Cosmac.Proofs.Screen.Canvas
import Cosmac.Proofs.Screen.Library
import Cosmac.Screen.Buffered

namespace Cosmac

/-! ### The size of a frame -/

section Largest

variable {p : Nat → Bool}

theorem largest_le (bound : Nat) : largest p bound ≤ bound := by
  induction bound with
  | zero => exact Nat.le_refl 0
  | succ bound ih =>
    rw [largest]
    split
    · exact Nat.le_refl _
    · exact Nat.le_succ_of_le ih

theorem largest_holds (zero : p 0 = true) (bound : Nat) :
    p (largest p bound) = true := by
  induction bound with
  | zero => exact zero
  | succ bound ih =>
    rw [largest]
    split
    case isTrue here => exact here
    case isFalse => exact ih

theorem largest_succ {bound : Nat} (below : largest p bound < bound) :
    p (largest p bound + 1) = false := by
  induction bound with
  | zero => exact absurd below (Nat.not_lt_zero _)
  | succ bound ih =>
    rw [largest] at below ⊢
    split at below
    case isTrue => exact absurd below (Nat.lt_irrefl _)
    case isFalse fails =>
      rw [if_neg fails]
      rcases Nat.lt_or_ge (largest p bound) bound with lower | not_lower
      · exact ih lower
      · have same : largest p bound = bound := Nat.le_antisymm (largest_le bound) not_lower
        rw [same]
        exact Bool.eq_false_iff.mpr fails

end Largest

namespace Size

/-- **One side of a reduced rectangle**: the largest whole number whose square, times the other
side, is at most the area times this side. It is smaller than the side itself if the area is. -/
theorem side_bounds {area side other : Nat} (large : area < side * other) :
    let found := largest (fun length => length * length * other ≤ area * side) side
    found * found * other ≤ area * side ∧ area * side < (found + 1) * (found + 1) * other := by
  intro found
  have zero : decide (0 * 0 * other ≤ area * side) = true := by simp
  have found_holds : decide (found * found * other ≤ area * side) = true :=
    largest_holds (p := fun length => length * length * other ≤ area * side) zero side
  have holds : found * found * other ≤ area * side := of_decide_eq_true found_holds
  refine ⟨holds, ?_⟩
  have below : found < side := by
    refine Nat.lt_of_le_of_ne (largest_le side) fun same => ?_
    rw [same] at holds
    have positive : 0 < side := Nat.pos_of_ne_zero fun none_there => by simp [none_there] at large
    have beyond : area * side < side * other * side := Nat.mul_lt_mul_of_pos_right large positive
    have reordered : side * other * side = side * side * other := by
      rw [Nat.mul_assoc, Nat.mul_comm other, ← Nat.mul_assoc]
    omega
  have fails := largest_succ below
  simpa using fails

/-- Two sides of a reduced rectangle, one from below and the other from above. -/
theorem side_shape {area side other found opposite : Nat}
    (low : found * found * other ≤ area * side)
    (high : area * other < (opposite + 1) * (opposite + 1) * side) :
    found * other ≤ side * (opposite + 1) := by
  refine Nat.mul_self_le_mul_self_iff.mp ?_
  calc found * other * (found * other)
      = found * found * other * other := by ac_rfl
    _ ≤ area * side * other := Nat.mul_le_mul_right _ low
    _ = area * other * side := by ac_rfl
    _ ≤ (opposite + 1) * (opposite + 1) * side * side :=
      Nat.mul_le_mul_right _ (Nat.le_of_lt high)
    _ = side * (opposite + 1) * (side * (opposite + 1)) := by ac_rfl

variable {size : Size}

theorem reduced_columns_le (size : Size) : size.reduced.columns ≤ size.columns := largest_le _

theorem reduced_rows_le (size : Size) : size.reduced.rows ≤ size.rows := largest_le _

section Reduced

variable (large : largestArea < size.area)

include large

theorem columns_bounds :
    size.reduced.columns * size.reduced.columns * size.rows ≤ largestArea * size.columns ∧
      largestArea * size.columns <
        (size.reduced.columns + 1) * (size.reduced.columns + 1) * size.rows :=
  side_bounds large

theorem rows_bounds :
    size.reduced.rows * size.reduced.rows * size.columns ≤ largestArea * size.rows ∧
      largestArea * size.rows < (size.reduced.rows + 1) * (size.reduced.rows + 1) * size.columns :=
  side_bounds (by rw [Nat.mul_comm]; exact large)

/-- The reduced rectangle is not too large: the product of both squares is at most that of the
area. -/
theorem reduced_area_le : size.reduced.area ≤ largestArea := by
  have squares := Nat.mul_le_mul (columns_bounds large).1 (rows_bounds large).1
  have positive : 0 < size.rows * size.columns := by
    rw [Nat.mul_comm]
    exact Nat.zero_lt_of_lt large
  refine Nat.mul_self_le_mul_self_iff.mp (Nat.le_of_mul_le_mul_right ?_ positive)
  calc size.reduced.area * size.reduced.area * (size.rows * size.columns)
      = size.reduced.columns * size.reduced.columns * size.rows *
          (size.reduced.rows * size.reduced.rows * size.columns) := by
        rw [area]
        ac_rfl
    _ ≤ largestArea * size.columns * (largestArea * size.rows) := squares
    _ = largestArea * largestArea * (size.rows * size.columns) := by ac_rfl

/-- The reduced rectangle has the shape of the whole, but for fractions of a cell. -/
theorem reduced_shape :
    size.reduced.columns * size.rows ≤ size.columns * (size.reduced.rows + 1) ∧
      size.reduced.rows * size.columns ≤ size.rows * (size.reduced.columns + 1) :=
  ⟨side_shape (columns_bounds large).1 (rows_bounds large).2,
    side_shape (rows_bounds large).1 (columns_bounds large).2⟩

end Reduced

/-- What is true of a terminal that a frame covers, and of a reduced one, is true of the part that a
frame covers. -/
theorem clipped_induction (P : Size → Prop) (whole : size.area ≤ largestArea → P size)
    (part : largestArea < size.area → P size.reduced) : P size.clipped := by
  rw [clipped]
  split
  case isTrue fits => exact whole fits
  case isFalse beyond => exact part (Nat.lt_of_not_le beyond)

end Size

/-! ### The marks of a panel -/

theorem at?_boxMark (ground : Colour) (edgeColumn edgeRow : Nat) (glyph : Char) (column row : Nat) :
    (boxMark ground edgeColumn edgeRow glyph).at? column row =
      if edgeColumn = column ∧ edgeRow = row then some ⟨glyph, .reset, ground⟩ else none :=
  rfl

/-- A row of marks that all show one character. -/
theorem lastMark?_row (ground : Colour) (glyph : Char) (count : Nat) (place : Nat → Nat × Nat)
    {column row : Nat} {covered : Prop} [Decidable covered]
    (covers : (∃ index < count, place index = (column, row)) ↔ covered) :
    lastMark? ((List.range count).map fun index =>
        boxMark ground (place index).1 (place index).2 glyph) column row =
      if covered then some ⟨glyph, .reset, ground⟩ else none := by
  refine lastMark?_uniform (fun mark member => ?_) ?_
  · obtain ⟨_, _, rfl⟩ := List.mem_map.mp member
    rfl
  · simp only [← covers, List.mem_map, List.mem_range]
    constructor
    · rintro ⟨_, ⟨index, inside, rfl⟩, sameColumn, sameRow⟩
      exact ⟨index, inside, Prod.ext sameColumn sameRow⟩
    · rintro ⟨index, inside, same⟩
      exact ⟨_, ⟨index, inside, rfl⟩, congrArg Prod.fst same, congrArg Prod.snd same⟩

/-- An upright edge. -/
theorem lastMark?_upright (ground : Colour) (edge rows : Nat) (glyph : Char) (column row : Nat) :
    lastMark? ((List.range rows).map fun row => boxMark ground edge row glyph) column row =
      if column = edge ∧ row < rows then some ⟨glyph, .reset, ground⟩ else none := by
  refine lastMark?_row ground glyph rows (fun row => (edge, row)) ?_
  simp only [Prod.mk.injEq]
  constructor
  · rintro ⟨_, inRows, rfl, rfl⟩
    exact ⟨rfl, inRows⟩
  · rintro ⟨rfl, inRows⟩
    exact ⟨row, inRows, rfl, rfl⟩

/-- A level edge. -/
theorem lastMark?_level (ground : Colour) (edge columns : Nat) (glyph : Char) (column row : Nat) :
    lastMark? ((List.range columns).map fun column => boxMark ground column edge glyph) column row =
      if column < columns ∧ row = edge then some ⟨glyph, .reset, ground⟩ else none := by
  refine lastMark?_row ground glyph columns (fun column => (column, edge)) ?_
  simp only [Prod.mk.injEq]
  constructor
  · rintro ⟨_, inColumns, rfl, rfl⟩
    exact ⟨inColumns, rfl⟩
  · rintro ⟨inColumns, rfl⟩
    exact ⟨column, inColumns, rfl, rfl⟩

/-- The marks of a text after the upper left corner. -/
theorem mem_textMarks {ground : Colour} {text : List Char} {mark : Mark} :
    mark ∈ (text.zipIdx.map fun (glyph, index) => boxMark ground (index + 1) 0 glyph) ↔
      ∃ index glyph, text[index]? = some glyph ∧ mark = boxMark ground (index + 1) 0 glyph := by
  simp only [List.mem_map, Prod.exists, List.mem_zipIdx_iff_getElem?]
  constructor
  · rintro ⟨glyph, index, found, rfl⟩
    exact ⟨index, glyph, found, rfl⟩
  · rintro ⟨index, glyph, found, rfl⟩
    exact ⟨glyph, index, found, rfl⟩

/-- A text after the upper left corner. -/
theorem lastMark?_text (ground : Colour) (text : List Char) (column row : Nat) :
    lastMark? (text.zipIdx.map fun (glyph, index) => boxMark ground (index + 1) 0 glyph)
        column row =
      if 0 < column ∧ row = 0 then text[column - 1]?.map fun glyph => ⟨glyph, .reset, ground⟩
      else none := by
  cases shown : if 0 < column ∧ row = 0 then
      text[column - 1]?.map fun glyph => Cell.mk glyph .reset ground else none with
  | some cell =>
    split at shown
    case isTrue here =>
      obtain ⟨glyph, found, rfl⟩ := Option.map_eq_some_iff.mp shown
      refine lastMark?_eq_some ⟨boxMark ground (column - 1 + 1) 0 glyph,
        mem_textMarks.mpr ⟨_, glyph, found, rfl⟩, Nat.sub_add_cancel here.1, here.2.symm⟩ ?_
      intro mark among sameColumn sameRow
      obtain ⟨index, other, otherFound, rfl⟩ := mem_textMarks.mp among
      have sameIndex : index = column - 1 := by
        rw [← sameColumn]
        rfl
      rw [sameIndex, found] at otherFound
      rw [← Option.some.inj otherFound]
      rfl
    case isFalse => cases shown
  | none =>
    refine lastMark?_eq_none_iff.mpr fun mark among => ?_
    obtain ⟨index, glyph, found, rfl⟩ := mem_textMarks.mp among
    rintro ⟨rfl, rfl⟩
    have later : 0 < (boxMark ground (index + 1) 0 glyph).column := Nat.succ_pos index
    rw [if_pos ⟨later, rfl⟩] at shown
    have same : (boxMark ground (index + 1) 0 glyph).column - 1 = index := rfl
    rw [same, found] at shown
    cases shown

namespace Panel

variable {panel : Panel}

theorem mem_groundMarks {mark : Mark} :
    mark ∈ panel.groundMarks ↔ ∃ column row, column < panel.size.columns ∧ row < panel.size.rows ∧
      mark = boxMark panel.ground column row ' ' := by
  simp only [groundMarks, List.mem_flatMap, List.mem_map, List.mem_range]
  constructor
  · rintro ⟨row, inRows, column, inColumns, rfl⟩
    exact ⟨column, row, inColumns, inRows, rfl⟩
  · rintro ⟨column, row, inColumns, inRows, rfl⟩
    exact ⟨row, inRows, column, inColumns, rfl⟩

/-- The marks of edges, corners and title lie within the panel. -/
theorem isOn_of_mem_edgeMarks {mark : Mark} (member : mark ∈ panel.edgeMarks) :
    mark.IsOn panel.size := by
  have wide := panel.wide
  have high := panel.high
  simp only [edgeMarks, List.mem_append, List.mem_map, List.mem_range, List.mem_cons,
    List.not_mem_nil, or_false] at member
  unfold Mark.IsOn
  obtain ((((((⟨row, inRows, rfl⟩ | ⟨column, inColumns, rfl⟩) | ⟨row, inRows, rfl⟩) |
    ⟨column, inColumns, rfl⟩) | rfl | rfl | rfl | rfl)) | title) := member
  case inr =>
    obtain ⟨index, glyph, found, rfl⟩ := mem_textMarks.mp (List.mem_map.mpr title)
    have within := (List.getElem?_eq_some_iff.mp found).1
    rw [List.length_take] at within
    simp only [boxMark]
    omega
  all_goals
    simp only [boxMark]
    omega

/-- The marks of the canvas lie inside the edges. -/
theorem isOn_of_mem_canvasMarks {mark : Mark}
    (member : mark ∈ panel.canvas.marks.map (Mark.moved 1 1)) :
    (0 < mark.column ∧ mark.column < panel.size.columns - 1) ∧
      0 < mark.row ∧ mark.row < panel.size.rows - 1 := by
  have wide := panel.wide
  have high := panel.high
  obtain ⟨unmoved, among, rfl⟩ := List.mem_map.mp member
  obtain ⟨inColumns, inRows⟩ := Canvas.isOn_of_mem_marks among
  simp only [inner] at inColumns inRows
  simp only [Mark.moved]
  omega

/-- **A screen has a cell for every mark of a panel exactly if it has room for the panel.** -/
theorem marks_isOn_iff {size : Size} : (∀ mark ∈ panel.marks, mark.IsOn size) ↔
    ∀ column row, column < panel.size.columns ∧ row < panel.size.rows →
      column < size.columns ∧ row < size.rows := by
  constructor
  · intro fits column row inside
    have ground : boxMark panel.ground column row ' ' ∈ panel.groundMarks :=
      mem_groundMarks.mpr ⟨column, row, inside.1, inside.2, rfl⟩
    exact fits _ (List.mem_append_left _ (List.mem_append_left _ ground))
  · intro room mark member
    refine room mark.column mark.row ?_
    simp only [marks, List.mem_append] at member
    obtain (ground | edge) | canvas := member
    · obtain ⟨column, row, inColumns, inRows, rfl⟩ := mem_groundMarks.mp ground
      exact ⟨inColumns, inRows⟩
    · exact isOn_of_mem_edgeMarks edge
    · obtain ⟨⟨_, _⟩, _, _⟩ := isOn_of_mem_canvasMarks canvas
      omega

theorem lastMark?_outside {column row : Nat}
    (outside : ¬ (column < panel.size.columns ∧ row < panel.size.rows)) :
    lastMark? panel.marks column row = none := by
  refine lastMark?_eq_none_iff.mpr fun mark member here => outside ?_
  have on := marks_isOn_iff.mpr (fun _ _ inside => inside) mark member
  rwa [Mark.IsOn, here.1, here.2] at on

/-- **The edges of a panel**, with corners and title. -/
theorem lastMark?_edgeMarks {column row : Nat} (edge : panel.IsEdge column row) :
    lastMark? panel.edgeMarks column row =
      some ⟨panel.edgeGlyph column row, .reset, panel.ground⟩ := by
  obtain ⟨⟨inColumns, inRows⟩, side⟩ := edge
  have wide := panel.wide
  have high := panel.high
  have short : (panel.title.toList.take (panel.size.columns - 2)).length ≤ panel.size.columns - 2 :=
    List.length_take_le _ _
  have titleEnd : panel.size.columns - 1 ≤ column →
      (panel.title.toList.take (panel.size.columns - 2))[column - 1]? = none :=
    fun after => List.getElem?_eq_none (by omega)
  have no_mark : lastMark? [] column row = none := rfl
  simp only [edgeMarks, lastMark?_append, lastMark?_upright, lastMark?_level, lastMark?_text,
    lastMark?_cons, no_mark, at?_boxMark, Option.none_or]
  unfold edgeGlyph
  have across : 0 = column ∨ column = panel.size.columns - 1 ∨
      (0 < column ∧ column < panel.size.columns - 1) := by omega
  have down : 0 = row ∨ row = panel.size.rows - 1 ∨ (0 < row ∧ row < panel.size.rows - 1) := by
    omega
  -- only between the corners of the upper edge is there a title to look up
  obtain left | right | between := across <;> obtain top | bottom | middle := down <;>
    try simp (disch := omega) only [if_pos, if_neg, Option.some_or, Option.none_or, titleEnd,
      Option.map_none]
  · cases (panel.title.toList.take (panel.size.columns - 2))[column - 1]? <;> rfl

/-- The canvas does not reach the edges. -/
theorem lastMark?_edge {column row : Nat} (edge : panel.IsEdge column row) :
    lastMark? panel.marks column row =
      some ⟨panel.edgeGlyph column row, .reset, panel.ground⟩ := by
  have uncovered : lastMark? (panel.canvas.marks.map (Mark.moved 1 1)) column row = none := by
    refine lastMark?_eq_none_iff.mpr fun mark member here => ?_
    obtain ⟨⟨_, _⟩, _, _⟩ := isOn_of_mem_canvasMarks member
    obtain ⟨-, side⟩ := edge
    omega
  rw [marks, lastMark?_append, lastMark?_append, uncovered, lastMark?_edgeMarks edge,
    Option.none_or, Option.some_or]

/-- **A cell of the canvas**: the last layer with a point that goes there decides. -/
theorem lastMark?_canvas (exact_bounds : panel.bounds.IsExact) {before after : List Layer}
    {layer : Layer} (split : panel.layers = before ++ layer :: after) {point : Point}
    {column row : Nat} (member : point ∈ layer.points)
    (places : panel.bounds.Places panel.inner point column row)
    (inColumns : column < panel.inner.columns) (inRows : row < panel.inner.rows)
    (apart : ∀ later ∈ after, ∀ other ∈ later.points,
      ¬ panel.bounds.Places panel.inner other column row) :
    lastMark? panel.marks (column + 1) (row + 1) = some ⟨'▄', layer.colour, .reset⟩ := by
  have goes : ∀ {other : Point}, panel.bounds.cell? panel.inner other =
      some (panel.inner.index column row) ↔ panel.bounds.Places panel.inner other column row :=
    Bounds.cell?_eq_some_iff exact_bounds inColumns inRows
  have painted : panel.canvas.cells[panel.inner.index column row]? = some (some layer.colour) := by
    rw [canvas, split]
    refine Canvas.getElem?_paintLayers _ _ before (Size.index_lt inColumns inRows) ?_ ?_
    · exact List.mem_filterMap.mpr ⟨point, member, goes.mpr places⟩
    · intro later among found
      obtain ⟨other, lies, there⟩ := List.mem_filterMap.mp found
      exact apart later among other lies (goes.mp there)
  rw [marks, lastMark?_append, lastMark?_moved, Canvas.lastMark?_marks inColumns painted,
    Option.some_or]

end Panel

/-! ### The laws -/

namespace TerminalLibrary

/-- A frame is drawn on the sheet exactly if all marks of its panel are written. -/
theorem putAll_of_buffered_draw {sheet next : Sheet} {terminal : Size} {panel : Panel}
    {screen : Screen terminal.clipped}
    (drawn : buffered.draw sheet terminal panel = (some screen, next)) :
    (sheet.screen.relaid terminal.clipped).putAll panel.marks = .ok screen ∧
      next = ⟨terminal.clipped, .blank _⟩ := by
  simp only [buffered] at drawn
  split at drawn
  case h_1 written done =>
    obtain ⟨shown, left⟩ := Prod.mk.inj drawn
    rw [← Option.some.inj shown]
    exact ⟨done, left.symm⟩
  case h_2 => cases (Prod.mk.inj drawn).1

theorem cellAt_of_buffered_draw {sheet next : Sheet} {terminal : Size} {panel : Panel}
    {screen : Screen terminal.clipped}
    (drawn : buffered.draw sheet terminal panel = (some screen, next)) {column row : Nat}
    (inColumns : column < terminal.clipped.columns) (inRows : row < terminal.clipped.rows) :
    screen.cellAt column row inColumns inRows = (lastMark? panel.marks column row).getD
      ((sheet.screen.relaid terminal.clipped).cellAt column row inColumns inRows) :=
  Screen.cellAt_putAll (putAll_of_buffered_draw drawn).1 column row inColumns inRows

theorem buffered_draw_eq_none_iff (sheet : Sheet) (terminal : Size) (panel : Panel) :
    (buffered.draw sheet terminal panel).1 = none ↔
      ∃ column row, (column < panel.size.columns ∧ row < panel.size.rows) ∧
        ¬ (column < terminal.clipped.columns ∧ row < terminal.clipped.rows) := by
  have written := (sheet.screen.relaid terminal.clipped).putAll_ok_iff panel.marks
  rw [Panel.marks_isOn_iff] at written
  simp only [buffered]
  split
  case h_1 screen done =>
    have room := written.mp ⟨screen, done⟩
    refine iff_of_false nofun ?_
    rintro ⟨column, row, inside, outside⟩
    exact outside (room column row inside)
  case h_2 screen failed =>
    refine iff_of_true rfl ?_
    have no_room := mt written.mpr (by rw [failed]; exact nofun)
    simpa only [Classical.not_forall, exists_prop] using no_room

/-- A sheet on which nothing is left over is blank. -/
theorem eq_blank_of_settled {kept : buffered.Kept} (settled : buffered.Settled kept) :
    Sheet.screen kept = .blank (Sheet.size kept) := by
  cases settled with
  | start terminal => rfl
  | shown drawn =>
    obtain ⟨-, rfl⟩ := putAll_of_buffered_draw drawn
    rfl

/-- **The library is lawful.** -/
theorem buffered_lawful : buffered.Lawful where
  covered_whole fits := if_pos fits
  covered_area_le _ :=
    Size.clipped_induction (fun part => part.area ≤ 65535) id Size.reduced_area_le
  covered_columns_le terminal :=
    Size.clipped_induction (fun part => part.columns ≤ terminal.columns)
      (fun _ => Nat.le_refl _) fun _ => terminal.reduced_columns_le
  covered_rows_le terminal :=
    Size.clipped_induction (fun part => part.rows ≤ terminal.rows)
      (fun _ => Nat.le_refl _) fun _ => terminal.reduced_rows_le
  covered_shape terminal :=
    Size.clipped_induction (fun part =>
      part.columns * terminal.rows ≤ terminal.columns * (part.rows + 1) ∧
        part.rows * terminal.columns ≤ terminal.rows * (part.columns + 1))
      (fun _ => ⟨Nat.mul_le_mul_left _ (Nat.le_succ _), Nat.mul_le_mul_left _ (Nat.le_succ _)⟩)
      Size.reduced_shape
  draw_eq_none_iff := buffered_draw_eq_none_iff
  cellAt_edge drawn _ _ _ edge inColumns inRows := by
    refine (cellAt_of_buffered_draw drawn inColumns inRows).trans ?_
    rw [Panel.lastMark?_edge edge, Option.getD_some]
  cellAt_point drawn exact_bounds _ _ _ split _ _ _ member places inner_columns inner_rows apart
      inColumns inRows := by
    refine (cellAt_of_buffered_draw drawn inColumns inRows).trans ?_
    rw [Panel.lastMark?_canvas exact_bounds split member places inner_columns inner_rows apart,
      Option.getD_some]
  cellAt_outside settled drawn _ _ outside inColumns inRows := by
    refine (cellAt_of_buffered_draw drawn inColumns inRows).trans ?_
    rw [Panel.lastMark?_outside outside, Option.getD_none, eq_blank_of_settled settled,
      Screen.relaid_blank]
    exact Screen.cellAt_blank inColumns inRows

end TerminalLibrary

end Cosmac
