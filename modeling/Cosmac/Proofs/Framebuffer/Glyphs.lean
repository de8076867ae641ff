/-
**Glyphs: rows of eight pixels at any place of the screen.**

The dots of a glyph are its bits, row by row and from the left. As long as it has no more rows than
the screen, no two of them are on one pixel, not even where it wraps at an edge: so every dot shows,
all other pixels stay as they are, and the dots may be written in any order. A glyph that stands
whole screens further is the same.

* `mem_glyphDots` — the dots of a glyph.
* `glyph_places_inj` — each of its places is a pixel of its own.
* `get_plot_glyph`, `get_plot_glyph_of_apart` — a pixel after a glyph is drawn.
* `plot_glyph_perm`, `plot_glyph_wraps` — its dots in any order, and whole screens further.
-/

import Cosmac.Proofs.Framebuffer.Plots

namespace Cosmac.Framebuffer

theorem mem_glyphDots {x y : Nat} {rows : List UInt8} {dot : Dot} :
    dot ∈ glyphDots x y rows ↔
      ∃ row column, ∃ inRows : row < rows.length, column < 8 ∧
        dot = ⟨x + column, y + row, rows[row].toNat.testBit (7 - column)⟩ := by
  simp only [glyphDots, List.mem_flatMap, List.mem_map, List.mem_range, Prod.exists,
    List.mem_zipIdx_iff_getElem?]
  constructor
  · rintro ⟨bits, row, found, column, inColumns, rfl⟩
    obtain ⟨inRows, rfl⟩ := List.getElem?_eq_some_iff.mp found
    exact ⟨row, column, inRows, inColumns, rfl⟩
  · rintro ⟨row, column, inRows, inColumns, rfl⟩
    exact ⟨rows[row], row, List.getElem?_eq_getElem inRows, column, inColumns, rfl⟩

/-- **Each place of a glyph is a pixel of its own**, also across the edges of the screen. -/
theorem glyph_places_inj {x y row column row' column' : Nat} (inRows : row < 32)
    (inRows' : row' < 32) (inColumns : column < 8) (inColumns' : column' < 8)
    (same : SamePixel (x + column) (y + row) (x + column') (y + row')) :
    row = row' ∧ column = column' := by
  obtain ⟨sameColumn, sameRow⟩ := same
  omega

section Glyph

variable (framebuffer : Framebuffer) {x y u v : Nat} {rows : List UInt8}

section Short

variable (short : rows.length ≤ 32)

include short

/-- Dots of a glyph on one pixel are one dot. -/
theorem on_eq_of_mem_glyphDots {first second : Dot} (member : first ∈ glyphDots x y rows)
    (member' : second ∈ glyphDots x y rows)
    (same : SamePixel first.x first.y second.x second.y) : first.on = second.on := by
  obtain ⟨row, column, inRows, inColumns, rfl⟩ := mem_glyphDots.mp member
  obtain ⟨row', column', inRows', inColumns', rfl⟩ := mem_glyphDots.mp member'
  obtain ⟨rfl, rfl⟩ := glyph_places_inj (by omega) (by omega) inColumns inColumns' same
  rfl

/-- **A pixel of a glyph shows its bit.** -/
theorem get_plot_glyph {row column : Nat} (inRows : row < rows.length) (inColumns : column < 8)
    (here : SamePixel (x + column) (y + row) u v) :
    (framebuffer.plot (glyphDots x y rows)).get u v = rows[row].toNat.testBit (7 - column) := by
  have member : (⟨x + column, y + row, rows[row].toNat.testBit (7 - column)⟩ : Dot) ∈
      glyphDots x y rows := mem_glyphDots.mpr ⟨row, column, inRows, inColumns, rfl⟩
  refine framebuffer.get_plot_of_alike ⟨_, member, here⟩ fun other among there => ?_
  exact on_eq_of_mem_glyphDots short among member
    ⟨there.1.trans here.1.symm, there.2.trans here.2.symm⟩

/-- **The dots of a glyph may be written in any order.** -/
theorem plot_glyph_perm {dots : List Dot} (moved : dots.Perm (glyphDots x y rows)) :
    framebuffer.plot dots = framebuffer.plot (glyphDots x y rows) :=
  framebuffer.plot_perm
    (fun _ member _ member' => on_eq_of_mem_glyphDots short member member') moved

end Short

/-- A pixel beside a glyph stays as it is. -/
theorem get_plot_glyph_of_apart
    (apart : ∀ row column, row < rows.length → column < 8 →
      ¬ SamePixel (x + column) (y + row) u v) :
    (framebuffer.plot (glyphDots x y rows)).get u v = framebuffer.get u v := by
  refine framebuffer.get_plot_of_apart fun dot member => ?_
  obtain ⟨row, column, inRows, inColumns, rfl⟩ := mem_glyphDots.mp member
  exact apart row column inRows inColumns

/-- **A glyph that stands whole screens further is the same.** -/
theorem plot_glyph_wraps (short : rows.length ≤ 32) {x' y' : Nat} (further : SamePixel x' y' x y) :
    framebuffer.plot (glyphDots x' y' rows) = framebuffer.plot (glyphDots x y rows) := by
  have moved : ∀ row column u v, SamePixel (x' + column) (y' + row) u v ↔
      SamePixel (x + column) (y + row) u v := by
    intro row column u v
    obtain ⟨sameColumn, sameRow⟩ := further
    unfold SamePixel
    omega
  refine ext_get fun u v _ _ => ?_
  by_cases covered : ∃ row column, row < rows.length ∧ column < 8 ∧
      SamePixel (x + column) (y + row) u v
  case pos =>
    obtain ⟨row, column, inRows, inColumns, here⟩ := covered
    rw [framebuffer.get_plot_glyph short inRows inColumns here,
      framebuffer.get_plot_glyph short inRows inColumns ((moved row column u v).mpr here)]
  case neg =>
    have apart : ∀ row column, row < rows.length → column < 8 →
        ¬ SamePixel (x + column) (y + row) u v :=
      fun row column inRows inColumns here => covered ⟨row, column, inRows, inColumns, here⟩
    rw [framebuffer.get_plot_glyph_of_apart apart, framebuffer.get_plot_glyph_of_apart]
    exact fun row column inRows inColumns here =>
      apart row column inRows inColumns ((moved row column u v).mp here)

end Glyph

end Cosmac.Framebuffer
