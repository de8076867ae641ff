/-
**The picture: what is shown of a framebuffer.**

The picture has 34 lines of 66 characters: a box with the title in its upper edge, and inside it a
block for every pixel, white if the pixel is lit and black if it is not. The laws of the terminal
library fix every place of it, so that a frame that is shown has the picture in its upper left
corner. A frame that began blank has nothing else.

* `Raster.places_ofPixel_iff` — a pixel's point goes to the cell of that pixel.
* `Picture.pixelCell`, `Picture.boxCell`, `Picture.lines` — the picture, line by line.
* `Picture.InCorner`, `Picture.alone` — screens with the picture in a corner, and with nothing else.
* `Picture.draw_eq_none_iff`, `Picture.inCorner_drawn`, `Picture.draw_settled` — frames of the
  picture.
* `Picture.lines_inj` — the framebuffer read back from its picture.
-/

import Cosmac.Proofs.Framebuffer.Views
import Cosmac.Proofs.Screen.Library

namespace Cosmac

/-! ### Points of pixels -/

namespace Raster

theorem isExact_bounds : full.bounds.IsExact where
  wide := by decide
  high := by decide
  small := by decide

/-- **A pixel's point goes to the cell of that pixel** and to no other. -/
theorem places_ofPixel_iff {x y column row : Nat} (inColumns : x < 64) (inRows : y < 32) :
    full.bounds.Places ⟨64, 32⟩ (.ofPixel (x, y)) column row ↔ column = x ∧ row = y := by
  have region : full.bounds = ⟨0, 63, -31, 0⟩ := rfl
  rw [region]
  constructor
  · rintro ⟨-, -, column_eq, row_eq⟩
    simp only [Point.ofPixel] at column_eq row_eq
    omega
  · rintro ⟨rfl, rfl⟩
    constructor <;> simp only [Point.ofPixel] <;> omega

end Raster

namespace Picture

/-- A pixel: a block, white if it is lit. -/
def pixelCell (on : Bool) : Cell := ⟨'▄', if on then .white else .black, .reset⟩

/-- A character of the box. -/
def boxCell (glyph : Char) : Cell := ⟨glyph, .reset, .black⟩

/-! ### The lines -/

/-- The upper edge, with the title after the corner. -/
def topEdge : List Char := '┌' :: (title.toList ++ List.replicate 58 '─') ++ ['┐']

def bottomEdge : List Char := '└' :: List.replicate 64 '─' ++ ['┘']

/-- A line of pixels between the edges. -/
def pixelLine (framebuffer : Framebuffer) (y : Nat) : List Cell :=
  boxCell '│' :: (List.range 64).map (fun x => pixelCell (framebuffer.get x y)) ++ [boxCell '│']

/-- The picture of a framebuffer, line by line. -/
def lines (framebuffer : Framebuffer) : List (List Cell) :=
  topEdge.map boxCell :: (List.range 32).map (pixelLine framebuffer) ++ [bottomEdge.map boxCell]

variable (framebuffer : Framebuffer)

theorem length_lines : (lines framebuffer).length = 34 := rfl

theorem length_of_mem_lines {line : List Cell} (member : line ∈ lines framebuffer) :
    line.length = 66 := by
  simp only [lines, List.cons_append, List.mem_cons, List.mem_append, List.mem_map,
    List.not_mem_nil, or_false] at member
  obtain rfl | ⟨y, -, rfl⟩ | rfl := member
  · rfl
  · rfl
  · rfl

/-- The cell of the picture at a place. -/
def cell? (column row : Nat) : Option Cell :=
  (lines framebuffer)[row]?.bind fun cells => cells[column]?

theorem getElem?_enclosed {α : Type} (first last : α) (count : Nat) (between : Nat → α)
    (index : Nat) :
    (first :: (List.range count).map between ++ [last])[index]? =
      if index = 0 then some first
      else if index ≤ count then some (between (index - 1))
      else if index = count + 1 then some last
      else none := by
  cases index with
  | zero => rfl
  | succ place =>
    rw [List.cons_append, List.getElem?_cons_succ, if_neg (Nat.succ_ne_zero place),
      Nat.add_sub_cancel, List.getElem?_append, List.length_map, List.length_range]
    by_cases inside : place < count
    · rw [if_pos inside, if_pos (Nat.succ_le_of_lt inside), List.getElem?_map,
        List.getElem?_range inside, Option.map_some]
    · rw [if_neg inside, if_neg (by omega), List.getElem?_singleton]
      simp only [Nat.add_right_cancel_iff]
      congr 1
      exact propext (by omega)

/-- The places of the picture. -/
theorem cell?_eq_none_iff (column row : Nat) :
    cell? framebuffer column row = none ↔ ¬ (column < 66 ∧ row < 34) := by
  rw [cell?, Option.bind_eq_none_iff]
  by_cases inRows : row < 34
  case neg =>
    have missing : (lines framebuffer)[row]? = none := by
      rw [List.getElem?_eq_none_iff, length_lines]
      omega
    rw [missing]
    exact iff_of_true nofun (by omega)
  case pos =>
    obtain ⟨cells, found⟩ : ∃ cells, (lines framebuffer)[row]? = some cells :=
      ⟨_, List.getElem?_eq_getElem inRows⟩
    have long := length_of_mem_lines framebuffer (List.mem_of_getElem? found)
    rw [found]
    simp only [Option.some.injEq, forall_eq', List.getElem?_eq_none_iff, long]
    omega

/-- A pixel is one column and one row away from the edges. -/
theorem cell?_pixel {x y : Nat} (inColumns : x < 64) (inRows : y < 32) :
    cell? framebuffer (x + 1) (y + 1) = some (pixelCell (framebuffer.get x y)) := by
  have line : (lines framebuffer)[y + 1]? = some (pixelLine framebuffer y) := by
    rw [lines, getElem?_enclosed, if_neg (Nat.succ_ne_zero y), if_pos (Nat.succ_le_of_lt inRows)]
    rfl
  rw [cell?, line, Option.bind_some, pixelLine, getElem?_enclosed, if_neg (Nat.succ_ne_zero x),
    if_pos (Nat.succ_le_of_lt inColumns)]
  rfl

theorem hasPlainTitle_panel : (panel framebuffer).HasPlainTitle := by
  have letters : title.toList = ['C', 'H', 'I', 'P', '-', '8'] := rfl
  show ∀ character ∈ title.toList, ' ' ≤ character ∧ character ≤ '~'
  simp [letters]

/-- The edges are the same for all framebuffers. -/
theorem edgeGlyph_panel : (panel framebuffer).edgeGlyph = (panel .blank).edgeGlyph := rfl

/-- The edges are as they are drawn around a panel. -/
theorem cell?_edge {column row : Nat} (edge : (panel framebuffer).IsEdge column row) :
    cell? framebuffer column row = some (boxCell ((panel framebuffer).edgeGlyph column row)) := by
  obtain ⟨⟨inColumns, inRows⟩, side⟩ := edge
  replace inColumns : column < 66 := inColumns
  replace inRows : row < 34 := inRows
  replace side : column = 0 ∨ column = 65 ∨ row = 0 ∨ row = 33 := side
  rw [edgeGlyph_panel]
  have level : ∀ {edge : List Char} {row : Nat},
      (∀ column < 66, edge[column]? = some ((panel .blank).edgeGlyph column row)) →
        (edge.map boxCell)[column]? = some (boxCell ((panel .blank).edgeGlyph column row)) := by
    intro edge row glyphs
    rw [List.getElem?_map, glyphs column inColumns, Option.map_some]
  -- the first and the last line are the box's alone; between them only their ends are
  by_cases top : row = 0
  case pos =>
    subst top
    exact level (by decide)
  by_cases bottom : row = 33
  case pos =>
    subst bottom
    have last : (lines framebuffer)[33]? = some (bottomEdge.map boxCell) :=
      getElem?_enclosed _ _ _ _ 33
    rw [cell?, last]
    exact level (by decide)
  obtain ⟨y, rfl⟩ : ∃ y, row = y + 1 := ⟨row - 1, by omega⟩
  have line : (lines framebuffer)[y + 1]? = some (pixelLine framebuffer y) := by
    rw [lines, getElem?_enclosed, if_neg (Nat.succ_ne_zero y), if_pos (by omega)]
    rfl
  have upright : (panel .blank).edgeGlyph column (y + 1) = '│' := by
    have lowest : ¬ y + 1 = (panel .blank).size.rows - 1 := bottom
    rw [Panel.edgeGlyph, if_neg (Nat.succ_ne_zero y), if_neg lowest]
  rw [upright, cell?, line]
  have ends : column = 0 ∨ column = 65 := by omega
  obtain rfl | rfl := ends
  · rfl
  · exact getElem?_enclosed _ _ _ _ 65

/-! ### The picture in the corner of a screen -/

/-- The picture of a framebuffer stands in the upper left corner of a screen. -/
structure InCorner {size : Size} (screen : Screen size) : Prop where
  wide : 66 ≤ size.columns
  high : 34 ≤ size.rows
  cell : ∀ {column row : Nat}, column < 66 ∧ row < 34 → ∀ inColumns inRows,
    cell? framebuffer column row = some (screen.cellAt column row inColumns inRows)

section InCorner

variable {size : Size} {screen : Screen size} {framebuffer}
  (corner : InCorner framebuffer screen)

include corner

/-- **The first 66 cells of the first 34 lines of the screen are the picture.** -/
theorem InCorner.lines_eq : (screen.lines.take 34).map (List.take 66) = lines framebuffer := by
  have lineCount := length_lines framebuffer
  refine List.ext_getElem? fun row => ?_
  by_cases inRows : row < 34
  case neg =>
    have short : ((screen.lines.take 34).map (List.take 66)).length ≤ 34 := by
      rw [List.length_map]
      exact List.length_take_le _ _
    rw [List.getElem?_eq_none (by omega), List.getElem?_eq_none (by omega)]
  case pos =>
    obtain ⟨cells, found⟩ : ∃ cells, (lines framebuffer)[row]? = some cells :=
      ⟨_, List.getElem?_eq_getElem (lineCount ▸ inRows)⟩
    rw [found, List.getElem?_map, List.getElem?_take, if_pos inRows, Screen.lines,
      List.getElem?_ofFn, dif_pos (Nat.lt_of_lt_of_le inRows corner.high), Option.map_some]
    congr 1
    refine List.ext_getElem? fun column => ?_
    have shown : cells[column]? = cell? framebuffer column row := by
      rw [cell?, found]
      rfl
    rw [shown, List.getElem?_take, List.getElem?_ofFn]
    by_cases inColumns : column < 66
    case neg =>
      rw [if_neg inColumns]
      exact ((cell?_eq_none_iff framebuffer column row).mpr fun inside => inColumns inside.1).symm
    case pos =>
      rw [if_pos inColumns, dif_pos (Nat.lt_of_lt_of_le inColumns corner.wide)]
      exact (corner.cell ⟨inColumns, inRows⟩ _ _).symm

theorem InCorner.pixel {x y : Nat} (inColumns : x < 64) (inRows : y < 32) :
    (screen.lines[y + 1]?.bind fun cells => cells[x + 1]?) =
      some (pixelCell (framebuffer.get x y)) := by
  have wide := corner.wide
  have high := corner.high
  rw [← cell?_pixel framebuffer inColumns inRows, corner.cell (by omega) (by omega) (by omega),
    Screen.lines, List.getElem?_ofFn, dif_pos (by omega), Option.bind_some, List.getElem?_ofFn,
    dif_pos (by omega)]

end InCorner

/-- The screen with the picture and nothing else. -/
def alone (size : Size) : Screen size :=
  ⟨Vector.ofFn fun index =>
    (cell? framebuffer (index.val % size.columns) (index.val / size.columns)).getD .blank⟩

theorem cellAt_alone {size : Size} {column row : Nat} (inColumns : column < size.columns)
    (inRows : row < size.rows) :
    (alone framebuffer size).cellAt column row inColumns inRows =
      (cell? framebuffer column row).getD .blank := by
  simp only [alone, Screen.cellAt, Vector.getElem_ofFn, Size.index_mod row inColumns,
    Size.index_div row inColumns]

theorem inCorner_alone {size : Size} (wide : 66 ≤ size.columns) (high : 34 ≤ size.rows) :
    InCorner framebuffer (alone framebuffer size) where
  wide
  high
  cell {column row} inside inColumns inRows := by
    rw [cellAt_alone]
    cases shown : cell? framebuffer column row with
    | some cell => rfl
    | none => exact absurd inside ((cell?_eq_none_iff framebuffer column row).mp shown)

theorem cellAt_alone_outside {size : Size} {column row : Nat}
    (outside : ¬ (column < 66 ∧ row < 34)) (inColumns : column < size.columns)
    (inRows : row < size.rows) :
    (alone framebuffer size).cellAt column row inColumns inRows = .blank := by
  rw [cellAt_alone, (cell?_eq_none_iff framebuffer column row).mpr outside, Option.getD_none]

theorem eq_alone {size : Size} {screen : Screen size} (corner : InCorner framebuffer screen)
    (around : ∀ column row inColumns inRows, ¬ (column < 66 ∧ row < 34) →
      screen.cellAt column row inColumns inRows = .blank) : screen = alone framebuffer size := by
  refine Screen.ext_cellAt fun column row inColumns inRows => ?_
  rw [cellAt_alone]
  by_cases inside : column < 66 ∧ row < 34
  · rw [corner.cell inside inColumns inRows, Option.getD_some]
  · rw [(cell?_eq_none_iff framebuffer column row).mpr inside, Option.getD_none]
    exact around column row inColumns inRows inside

/-! ### Frames -/

/-- The picture cannot be drawn exactly if the frame has fewer than 66 columns or 34 rows. -/
theorem draw_eq_none_iff {library : TerminalLibrary} (lawful : library.Lawful)
    (kept : library.Kept) (terminal : Size) :
    (library.draw kept terminal (panel framebuffer)).1 = none ↔
      (library.covered terminal).columns < 66 ∨ (library.covered terminal).rows < 34 :=
  lawful.draw_eq_none_iff_small kept terminal (panel framebuffer)

section Drawn

variable {library : TerminalLibrary} (lawful : library.Lawful) {kept next : library.Kept}
  {terminal : Size} {screen : Screen (library.covered terminal)} {framebuffer}
  (drawn : library.draw kept terminal (panel framebuffer) = (some screen, next))

include lawful drawn

/-- A pixel's cell has the colour of the plane that the pixel is in. A pixel that is not lit is in
the lower plane, and no point of the upper one goes to its cell. -/
theorem cellAt_pixel {x y : Nat} (inColumns : x < 64) (inRows : y < 32)
    (wide : x + 1 < (library.covered terminal).columns)
    (high : y + 1 < (library.covered terminal).rows) :
    screen.cellAt (x + 1) (y + 1) wide high = pixelCell (framebuffer.get x y) := by
  have stands : ∀ {u v : Nat}, u < 64 → v < 32 →
      (Raster.full.bounds.Places ⟨64, 32⟩ (.ofPixel (u, v)) x y ↔ x = u ∧ y = v) :=
    Raster.places_ofPixel_iff
  have here := (stands inColumns inRows).mpr ⟨rfl, rfl⟩
  cases shines : framebuffer.get x y with
  | true =>
    have point := (Raster.mem_plane_iff framebuffer).mpr ⟨x, y, inColumns, inRows, shines, rfl⟩
    have upper : (panel framebuffer).layers = [⟨Raster.full.plane framebuffer false, .black⟩] ++
        ⟨Raster.full.plane framebuffer true, .white⟩ :: [] := rfl
    exact lawful.cellAt_point drawn Raster.isExact_bounds upper point here inColumns inRows nofun
      wide high
  | false =>
    have point := (Raster.mem_plane_iff framebuffer).mpr ⟨x, y, inColumns, inRows, shines, rfl⟩
    have lower : (panel framebuffer).layers = [] ++ ⟨Raster.full.plane framebuffer false, .black⟩ ::
        [⟨Raster.full.plane framebuffer true, .white⟩] := rfl
    refine lawful.cellAt_point drawn Raster.isExact_bounds lower point here inColumns inRows
      (fun later member other lit places => ?_) wide high
    obtain rfl := List.mem_singleton.mp member
    obtain ⟨u, v, inU, inV, bright, rfl⟩ := (Raster.mem_plane_iff framebuffer).mp lit
    obtain ⟨rfl, rfl⟩ := (stands inU inV).mp places
    rw [shines] at bright
    cases bright

/-- Every place of the picture is on an edge, or it is a pixel's. -/
theorem cell?_drawn {column row : Nat} (inside : column < 66 ∧ row < 34)
    (inColumns : column < (library.covered terminal).columns)
    (inRows : row < (library.covered terminal).rows) :
    cell? framebuffer column row = some (screen.cellAt column row inColumns inRows) := by
  by_cases edge : column = 0 ∨ column = 65 ∨ row = 0 ∨ row = 33
  case pos =>
    have onEdge : (panel framebuffer).IsEdge column row := ⟨inside, edge⟩
    rw [cell?_edge framebuffer onEdge,
      lawful.cellAt_edge drawn (hasPlainTitle_panel framebuffer) onEdge]
    rfl
  case neg =>
    obtain ⟨x, rfl⟩ : ∃ x, column = x + 1 := ⟨column - 1, by omega⟩
    obtain ⟨y, rfl⟩ : ∃ y, row = y + 1 := ⟨row - 1, by omega⟩
    rw [cell?_pixel framebuffer (by omega) (by omega),
      cellAt_pixel lawful drawn (by omega) (by omega)]

/-- **A frame that is shown has the picture in its corner**, whatever was drawn before it. -/
theorem inCorner_drawn : InCorner framebuffer screen := by
  have room := draw_eq_none_iff framebuffer lawful kept terminal
  rw [drawn] at room
  have large := mt room.mpr nofun
  exact ⟨by omega, by omega, cell?_drawn lawful drawn⟩

/-- **A frame that began blank has nothing else.** -/
theorem eq_alone_of_drawn (settled : library.Settled kept) :
    screen = alone framebuffer (library.covered terminal) :=
  eq_alone framebuffer (inCorner_drawn lawful drawn) fun _ _ inColumns inRows outside =>
    lawful.cellAt_outside settled drawn outside inColumns inRows

end Drawn

/-- A settled library shows the picture and nothing else, and is settled afterwards. -/
theorem draw_settled {library : TerminalLibrary} (lawful : library.Lawful) {kept : library.Kept}
    (settled : library.Settled kept) {terminal : Size}
    (wide : 66 ≤ (library.covered terminal).columns)
    (high : 34 ≤ (library.covered terminal).rows) :
    ∃ next, library.Settled next ∧ library.draw kept terminal (panel framebuffer) =
      (some (alone framebuffer (library.covered terminal)), next) := by
  obtain ⟨screen, next, drawn⟩ : ∃ screen next,
      library.draw kept terminal (panel framebuffer) = (some screen, next) :=
    lawful.exists_drawn kept wide high
  obtain rfl := eq_alone_of_drawn lawful drawn settled
  exact ⟨next, .shown drawn, drawn⟩

/-! ### Reading a framebuffer back -/

/-- The framebuffer whose lit pixels are the white cells. -/
def readBack (shown : List (List Cell)) : Framebuffer :=
  ⟨Vector.ofFn fun index =>
    (shown[index.val / 64 + 1]?.bind fun cells => cells[index.val % 64 + 1]?).any fun cell =>
      cell.foreground = .white⟩

/-- Lines that show every pixel give the framebuffer back. -/
theorem readBack_eq {shown : List (List Cell)} (pixels : ∀ {x y : Nat}, x < 64 → y < 32 →
    (shown[y + 1]?.bind fun cells => cells[x + 1]?) = some (pixelCell (framebuffer.get x y))) :
    readBack shown = framebuffer := by
  have same : (readBack shown).pixels = framebuffer.pixels := by
    ext index inside
    have inColumns : index % 64 < 64 := Nat.mod_lt _ (by decide)
    have inRows : index / 64 < 32 := Nat.div_lt_of_lt_mul inside
    have found := framebuffer.getElem?_pixels_index inside
    rw [Vector.getElem?_eq_getElem inside] at found
    simp only [readBack, Vector.getElem_ofFn, pixels inColumns inRows]
    rw [Option.some.inj found]
    cases framebuffer.get (index % 64) (index / 64) <;> rfl
  exact congrArg Framebuffer.mk same

theorem readBack_lines (framebuffer : Framebuffer) : readBack (lines framebuffer) = framebuffer :=
  readBack_eq framebuffer fun inColumns inRows => cell?_pixel framebuffer inColumns inRows

/-- **A framebuffer can be read back from its picture**, so no two have the same one. -/
theorem lines_inj {framebuffer other : Framebuffer} :
    lines framebuffer = lines other ↔ framebuffer = other := by
  constructor
  · intro same
    rw [← readBack_lines framebuffer, same, readBack_lines]
  · rintro rfl
    rfl

end Picture

end Cosmac
