/-
**The picture: a framebuffer as a panel.**

The picture is a panel of 66 by 34 cells, with a title and a canvas of 64 by 32 cells inside it, one
for each pixel. The pixels lie on it in two planes, first those that are not lit and then those that
are; the plane has row 0 at the top, so a pixel's row counts downwards from zero.

* `Raster.plane`, `Raster.bounds` — the points of one plane, and the region of all.
* `Picture.panel` — the panel of a framebuffer.
-/

import Cosmac.Framebuffer
import Cosmac.Screen.Panel

namespace Cosmac

/-! ### The planes -/

/-- The number of pixels in a row, and of rows. -/
structure Raster where
  columns : Nat
  rows : Nat
deriving DecidableEq

namespace Raster

/-- The raster of the framebuffer. -/
def full : Raster := ⟨Framebuffer.width, Framebuffer.height⟩

/-- The region of the plane that the pixels lie in. -/
def bounds (raster : Raster) : Bounds where
  left := 0
  right := raster.columns - 1
  bottom := -(raster.rows - 1)
  top := 0

/-- The points of the pixels that are lit, or of those that are not, row by row from the top. -/
def plane (raster : Raster) (framebuffer : Framebuffer) (lit : Bool) : List Point :=
  (framebuffer.pixels.toList.zipIdx.filter fun (on, _) => on == lit).map fun (_, index) =>
    ⟨Int.ofNat (index % raster.columns), -Int.ofNat (index / raster.columns)⟩

end Raster

/-! ### The panel -/

namespace Picture

/-- The title of the picture. -/
def title : String := "CHIP-8"

/-- The size of the picture: one cell for each pixel, and the edges around them. -/
def size : Size := ⟨2 + Raster.full.columns, 2 + Raster.full.rows⟩

/-- The picture of a framebuffer. -/
def panel (framebuffer : Framebuffer) : Panel where
  size := size
  wide := Nat.le_add_right 2 _
  high := Nat.le_add_right 2 _
  title := title
  ground := .black
  bounds := Raster.full.bounds
  layers := [⟨Raster.full.plane framebuffer false, .black⟩,
    ⟨Raster.full.plane framebuffer true, .white⟩]

end Picture

end Cosmac
