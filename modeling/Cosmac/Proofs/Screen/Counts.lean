/-
**How many cells of a picture have which colours.**

The cells of the box are counted apart from those of the pixels. The lines of pixels hold all pixels
in order, so of their cells as many are white as pixels are lit. On a screen the cells outside the
picture do not count if they have other colours, which blank ones have.

* `coloured` — the number of cells with given colours.
* `Framebuffer.toList_pixels` — all pixels, row by row.
* `Picture.coloured_white`, `Picture.coloured_black`, `Picture.coloured_box` — the three kinds of
  cells of a picture.
* `Screen.coloured_corner_iff` — cells outside the corner of a screen that have other colours.
* `Picture.Shows`, `Picture.ShowsAlone` — what a screen with the picture shows, in the corner alone
  and as a whole; `Picture.InCorner.shows`, `Picture.showsAlone_alone`.
-/

import Cosmac.Proofs.Screen.Picture

namespace Cosmac

/-- Whether a cell has given colours. -/
def Cell.hasColours (foreground background : Colour) (cell : Cell) : Bool :=
  cell.foreground = foreground ∧ cell.background = background

/-- The number of cells with given colours. -/
def coloured (foreground background : Colour) (lines : List (List Cell)) : Nat :=
  lines.flatten.countP (Cell.hasColours foreground background)

/-! ### All pixels -/

/-- The numbers below a product, in blocks. -/
theorem range_blocks (blocks width : Nat) :
    List.range (blocks * width) = (List.range blocks).flatMap fun block =>
      (List.range width).map fun place => block * width + place := by
  induction blocks with
  | zero => rw [Nat.zero_mul]; rfl
  | succ blocks ih =>
    rw [Nat.succ_mul, List.range_add, ih, List.range_succ, List.flatMap_append,
      List.flatMap_singleton]

namespace Framebuffer

variable (framebuffer : Framebuffer)

/-- All pixels, row by row. -/
theorem toList_pixels :
    framebuffer.pixels.toList = (List.range 32).flatMap fun y =>
      (List.range 64).map fun x => framebuffer.get x y := by
  have numbered : framebuffer.pixels.toList =
      (List.range (32 * 64)).map fun index => framebuffer.get (index % 64) (index / 64) := by
    refine List.ext_getElem? fun index => ?_
    rw [Vector.getElem?_toList, List.getElem?_map]
    by_cases inside : index < 32 * 64
    case pos =>
      rw [framebuffer.getElem?_pixels_index inside, List.getElem?_range inside, Option.map_some]
    case neg =>
      have none_left : (List.range (32 * 64))[index]? = none :=
        List.getElem?_eq_none (List.length_range ▸ Nat.le_of_not_lt inside)
      rw [none_left, Option.map_none]
      exact Vector.getElem?_eq_none (Nat.le_of_not_lt inside)
  rw [numbered, range_blocks, List.map_flatMap]
  refine congrArg (fun row => (List.range 32).flatMap row) (funext fun y => ?_)
  rw [List.map_map]
  refine List.map_congr_left fun x member => ?_
  have inColumns : x < 64 := List.mem_range.mp member
  rw [Function.comp_apply, Nat.mul_comm, Nat.mul_add_mod, Nat.mod_eq_of_lt inColumns,
    Nat.mul_add_div (by decide), Nat.div_eq_of_lt inColumns, Nat.add_zero]

theorem length_lit : framebuffer.lit.length = framebuffer.pixels.toList.countP id := by
  have firsts : framebuffer.pixels.toList = framebuffer.pixels.toList.zipIdx.map Prod.fst :=
    (List.zipIdx_map_fst 0 _).symm
  rw [lit, List.length_map, ← List.countP_eq_length_filter, firsts, List.countP_map, ← firsts]
  rfl

end Framebuffer

namespace Picture

variable (framebuffer : Framebuffer)

theorem countP_pixelLine (counts : Cell → Bool) (y : Nat) :
    (pixelLine framebuffer y).countP counts =
      (if counts (boxCell '│') then 2 else 0) +
        ((List.range 64).map fun x => framebuffer.get x y).countP (counts ∘ pixelCell) := by
  have pixels : (List.range 64).map (fun x => pixelCell (framebuffer.get x y)) =
      ((List.range 64).map fun x => framebuffer.get x y).map pixelCell := by
    rw [List.map_map]
    rfl
  rw [pixelLine, pixels, List.countP_append, List.countP_cons, List.countP_singleton,
    List.countP_map]
  split <;> omega

theorem countP_pixelLines (counts : Cell → Bool) (count : Nat) :
    ((List.range count).map (pixelLine framebuffer)).flatten.countP counts =
      count * (if counts (boxCell '│') then 2 else 0) +
        ((List.range count).flatMap fun y => (List.range 64).map fun x =>
          framebuffer.get x y).countP (counts ∘ pixelCell) := by
  induction count with
  | zero => rw [Nat.zero_mul]; rfl
  | succ count ih =>
    rw [List.range_succ, List.map_append, List.flatten_append, List.countP_append, ih,
      List.flatMap_append, List.countP_append, List.flatMap_singleton, List.map_singleton,
      List.flatten_singleton, countP_pixelLine, Nat.succ_mul]
    omega

/-- **The cells of a picture**: those of the edges, and one for every pixel. -/
theorem countP_lines (counts : Cell → Bool) :
    (lines framebuffer).flatten.countP counts =
      (topEdge.countP (counts ∘ boxCell) + 32 * (if counts (boxCell '│') then 2 else 0) +
        bottomEdge.countP (counts ∘ boxCell)) +
      framebuffer.pixels.toList.countP (counts ∘ pixelCell) := by
  rw [lines, List.flatten_append, List.flatten_cons, List.flatten_singleton, List.countP_append,
    List.countP_append, List.countP_map, List.countP_map, countP_pixelLines,
    framebuffer.toList_pixels]
  omega

theorem coloured_lines (foreground background : Colour) :
    coloured foreground background (lines framebuffer) =
      (if foreground = .reset ∧ background = .black then 196 else 0) +
        framebuffer.pixels.toList.countP (Cell.hasColours foreground background ∘ pixelCell) := by
  rw [coloured, countP_lines]
  congr 1
  cases foreground <;> cases background <;> rfl

theorem coloured_white : coloured .white .reset (lines framebuffer) = framebuffer.lit.length := by
  have pixel : Cell.hasColours .white .reset ∘ pixelCell = id := by
    funext on
    cases on <;> rfl
  rw [coloured_lines, pixel, framebuffer.length_lit, if_neg (by decide), Nat.zero_add]

theorem coloured_black :
    coloured .black .reset (lines framebuffer) = 2048 - framebuffer.lit.length := by
  have pixel : Cell.hasColours .black .reset ∘ pixelCell = fun on => decide ¬ id on = true := by
    funext on
    cases on <;> rfl
  have pixels : framebuffer.pixels.toList.length = _ :=
    List.length_eq_countP_add_countP id
  rw [Vector.length_toList] at pixels
  rw [coloured_lines, pixel, framebuffer.length_lit, if_neg (by decide), Nat.zero_add]
  have all : Framebuffer.width * Framebuffer.height = 2048 := rfl
  omega

theorem coloured_box : coloured .reset .black (lines framebuffer) = 196 := by
  have pixel : Cell.hasColours .reset .black ∘ pixelCell = fun _ => false := by
    funext on
    cases on <;> rfl
  rw [coloured_lines, pixel, if_pos ⟨rfl, rfl⟩, List.countP_false]
  rfl

end Picture

/-! ### The corner of a screen -/

/-- Cells up to a column, and those from it on. -/
theorem countP_columns {α : Type} (counts : α → Bool) (width : Nat) (rows : List (List α)) :
    rows.flatten.countP counts =
      (rows.map (List.take width)).flatten.countP counts +
        (rows.map (List.drop width)).flatten.countP counts := by
  induction rows with
  | nil => rfl
  | cons row later ih =>
    have parts := congrArg (List.countP counts) (List.take_append_drop width row)
    rw [List.countP_append] at parts
    rw [List.map_cons, List.map_cons, List.flatten_cons, List.flatten_cons, List.flatten_cons,
      List.countP_append, List.countP_append, List.countP_append, ih, ← parts]
    omega

namespace Screen

variable {size : Size} (screen : Screen size) (width height : Nat)

/-- The cells of a screen outside a corner. -/
def around : List Cell :=
  ((screen.lines.take height).map (List.drop width)).flatten ++ (screen.lines.drop height).flatten

variable {width height}

theorem mem_around {cell : Cell} :
    cell ∈ screen.around width height ↔
      ∃ (column row : Nat) (inColumns : column < size.columns) (inRows : row < size.rows),
        ¬ (column < width ∧ row < height) ∧ screen.cellAt column row inColumns inRows = cell := by
  rw [around, List.mem_append, List.mem_flatten, List.mem_flatten]
  constructor
  · rintro (⟨cut, member, inCut⟩ | ⟨line, member, inLine⟩)
    · obtain ⟨line, among, rfl⟩ := List.mem_map.mp member
      obtain ⟨row, rfl⟩ := List.mem_ofFn.mp (List.mem_of_mem_take among)
      obtain ⟨place, found⟩ := List.mem_iff_getElem?.mp inCut
      rw [List.getElem?_drop, List.getElem?_ofFn] at found
      split at found
      case isTrue inColumns =>
        exact ⟨width + place, row, inColumns, row.isLt, by omega, Option.some.inj found⟩
      case isFalse => cases found
    · obtain ⟨place, found⟩ := List.mem_iff_getElem?.mp member
      rw [List.getElem?_drop, lines, List.getElem?_ofFn] at found
      split at found
      case isTrue inRows =>
        rw [← Option.some.inj found] at inLine
        obtain ⟨column, rfl⟩ := List.mem_ofFn.mp inLine
        exact ⟨column, height + place, column.isLt, inRows, by omega, rfl⟩
      case isFalse => cases found
  · rintro ⟨column, row, inColumns, inRows, outside, rfl⟩
    obtain ⟨line, found, cells⟩ : ∃ line, screen.lines[row]? = some line ∧ line =
        List.ofFn fun place : Fin size.columns => screen.cellAt place row place.isLt inRows :=
      ⟨_, by rw [lines, List.getElem?_ofFn, dif_pos inRows], rfl⟩
    by_cases above : row < height
    · have line_kept : line ∈ screen.lines.take height :=
        List.mem_iff_getElem?.mpr ⟨row, by rw [List.getElem?_take, if_pos above, found]⟩
      have place : width + (column - width) = column := by omega
      have cell_left : screen.cellAt column row inColumns inRows ∈ line.drop width := by
        refine List.mem_iff_getElem?.mpr ⟨column - width, ?_⟩
        rw [List.getElem?_drop, place, cells, List.getElem?_ofFn, dif_pos inColumns]
      exact .inl ⟨_, List.mem_map_of_mem line_kept, cell_left⟩
    · have place : height + (row - height) = row := by omega
      have line_left : line ∈ screen.lines.drop height :=
        List.mem_iff_getElem?.mpr ⟨row - height, by rw [List.getElem?_drop, place, found]⟩
      have cell_there : screen.cellAt column row inColumns inRows ∈ line := by
        rw [cells]
        exact List.mem_ofFn.mpr ⟨⟨column, inColumns⟩, rfl⟩
      exact .inr ⟨_, line_left, cell_there⟩

/-- The cells of a screen are those in a corner and those around it. -/
theorem coloured_eq (foreground background : Colour) :
    coloured foreground background screen.lines =
      coloured foreground background ((screen.lines.take height).map (List.take width)) +
        (screen.around width height).countP (Cell.hasColours foreground background) := by
  have parts := congrArg (fun all => coloured foreground background all)
    (List.take_append_drop height screen.lines)
  simp only [coloured, List.flatten_append, List.countP_append] at parts
  rw [coloured, ← parts, countP_columns _ width, around, List.countP_append, coloured,
    Nat.add_assoc]

/-- **Only a corner of a screen counts exactly if the cells around it have other colours.** -/
theorem coloured_corner_iff {foreground background : Colour} :
    coloured foreground background screen.lines =
        coloured foreground background ((screen.lines.take height).map (List.take width)) ↔
      ∀ column row (inColumns : column < size.columns) (inRows : row < size.rows),
        ¬ (column < width ∧ row < height) →
          (screen.cellAt column row inColumns inRows).hasColours foreground background = false := by
  rw [screen.coloured_eq, Nat.add_eq_left, List.countP_eq_zero]
  constructor
  · intro none_there column row inColumns inRows outside
    have member := screen.mem_around.mpr ⟨column, row, inColumns, inRows, outside, rfl⟩
    exact Bool.eq_false_iff.mpr (none_there _ member)
  · intro others cell member
    obtain ⟨column, row, inColumns, inRows, outside, rfl⟩ := screen.mem_around.mp member
    exact Bool.eq_false_iff.mp (others column row inColumns inRows outside)

end Screen

/-! ### Pictures on a screen -/

namespace Picture

variable {framebuffer : Framebuffer} {size : Size}

/-- The picture of a framebuffer at the top left of a screen. -/
structure Shows (framebuffer : Framebuffer) (screen : Screen size) : Prop where
  /-- The first 66 cells of the first 34 lines are the picture. -/
  corner : (screen.lines.take 34).map (List.take 66) = lines framebuffer
  /-- A pixel is a block one column and one row away from the edges, white if it is lit. -/
  pixel : ∀ x y, x < 64 → y < 32 → (screen.lines[y + 1]?.bind fun cells => cells[x + 1]?) =
    some (pixelCell (framebuffer.get x y))
  readBack : readBack screen.lines = framebuffer
  white : coloured .white .reset ((screen.lines.take 34).map (List.take 66)) =
    framebuffer.lit.length
  black : coloured .black .reset ((screen.lines.take 34).map (List.take 66)) =
    2048 - framebuffer.lit.length
  box : coloured .reset .black ((screen.lines.take 34).map (List.take 66)) = 196

/-- The picture with nothing around it. -/
structure ShowsAlone (framebuffer : Framebuffer) (screen : Screen size) : Prop extends
    Shows framebuffer screen where
  around_blank : ∀ column row inColumns inRows, ¬ (column < 66 ∧ row < 34) →
    screen.cellAt column row inColumns inRows = .blank
  white_only : coloured .white .reset screen.lines = framebuffer.lit.length
  black_only : coloured .black .reset screen.lines = 2048 - framebuffer.lit.length
  box_only : coloured .reset .black screen.lines = 196

theorem InCorner.shows {screen : Screen size} (corner : InCorner framebuffer screen) :
    Shows framebuffer screen where
  corner := corner.lines_eq
  pixel _ _ := corner.pixel
  readBack := readBack_eq framebuffer corner.pixel
  white := by rw [corner.lines_eq, coloured_white]
  black := by rw [corner.lines_eq, coloured_black]
  box := by rw [corner.lines_eq, coloured_box]

/-- **The screen with the picture alone**: what is blank has none of the three colours. -/
theorem showsAlone_alone (wide : 66 ≤ size.columns) (high : 34 ≤ size.rows) :
    ShowsAlone framebuffer (alone framebuffer size) := by
  have corner := inCorner_alone framebuffer wide high
  have only : ∀ foreground background, (foreground, background) ≠ (Colour.reset, Colour.reset) →
      coloured foreground background (alone framebuffer size).lines =
        coloured foreground background (lines framebuffer) := by
    intro foreground background colours
    rw [← corner.lines_eq, Screen.coloured_corner_iff]
    intro column row inColumns inRows outside
    rw [cellAt_alone_outside framebuffer outside]
    exact decide_eq_false fun both => colours (Prod.ext both.1.symm both.2.symm)
  exact
    { corner.shows with
      around_blank := fun _ _ inColumns inRows outside =>
        cellAt_alone_outside framebuffer outside inColumns inRows
      white_only := (only .white .reset (by decide)).trans (coloured_white framebuffer)
      black_only := (only .black .reset (by decide)).trans (coloured_black framebuffer)
      box_only := (only .reset .black (by decide)).trans (coloured_box framebuffer) }

end Picture

end Cosmac
