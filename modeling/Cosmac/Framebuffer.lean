/-
**The framebuffer: 64 by 32 pixels, each lit or not.**

Coordinates wrap at the edges, so any two natural numbers name a pixel.

* `get`, `set`, `clear` — one pixel read, one pixel written, all put out.
* `plot` — a list of dots written in order; `rectangle` and `glyphDots` are the dots of a filled
  rectangle and of rows of eight bits.
* `lit` — the coordinates of the lit pixels, row by row from the top.
* `get_set`, `get_clear` — every pixel afterwards.
-/

namespace Cosmac

namespace Framebuffer

/-- The number of pixels in a row. -/
def width : Nat := 64

/-- The number of rows. -/
def height : Nat := 32

end Framebuffer

/-- The pixels row by row from the top, true for lit. -/
structure Framebuffer where
  pixels : Vector Bool (Framebuffer.width * Framebuffer.height)
deriving DecidableEq

/-- A pixel to be written. -/
structure Dot where
  x : Nat
  y : Nat
  on : Bool
deriving DecidableEq

namespace Framebuffer

/-- All pixels out. -/
def blank : Framebuffer := ⟨Vector.replicate _ false⟩

/-- Where a pixel stands among all of them; coordinates wrap at the edges. -/
def offset (x y : Nat) : Fin (width * height) :=
  ⟨y % height * width + x % width, by unfold width height; omega⟩

/-- Whether a pixel is lit. -/
def get (framebuffer : Framebuffer) (x y : Nat) : Bool := framebuffer.pixels[offset x y]

/-- The framebuffer with one pixel written. -/
def set (framebuffer : Framebuffer) (x y : Nat) (on : Bool) : Framebuffer :=
  ⟨framebuffer.pixels.set (offset x y) on⟩

/-- The framebuffer with all pixels put out. -/
def clear (_framebuffer : Framebuffer) : Framebuffer := blank

/-- The framebuffer with dots written in order. -/
def plot (framebuffer : Framebuffer) (dots : List Dot) : Framebuffer :=
  dots.foldl (fun drawn dot => drawn.set dot.x dot.y dot.on) framebuffer

/-- The dots of a filled rectangle, row by row. -/
def rectangle (x y across down : Nat) (on : Bool) : List Dot :=
  (List.range down).flatMap fun row => (List.range across).map fun column =>
    ⟨x + column, y + row, on⟩

/-- The dots of rows of eight bits, the high bit at the left. -/
def glyphDots (x y : Nat) (rows : List UInt8) : List Dot :=
  rows.zipIdx.flatMap fun (bits, row) => (List.range 8).map fun column =>
    ⟨x + column, y + row, bits.toNat.testBit (7 - column)⟩

/-- The coordinates of the lit pixels, row by row from the top. -/
def lit (framebuffer : Framebuffer) : List (Nat × Nat) :=
  (framebuffer.pixels.toList.zipIdx.filter fun (on, _) => on).map fun (_, index) =>
    (index % width, index / width)

/-! ### Every pixel afterwards -/

theorem offset_inj {x y u v : Nat} :
    offset x y = offset u v ↔ x % 64 = u % 64 ∧ y % 32 = v % 32 := by
  simp only [offset, Fin.mk.injEq, width, height]
  omega

theorem get_set (framebuffer : Framebuffer) (x y u v : Nat) (on : Bool) :
    (framebuffer.set x y on).get u v =
      if x % 64 = u % 64 ∧ y % 32 = v % 32 then on else framebuffer.get u v := by
  simp only [get, set, Fin.getElem_fin, Vector.getElem_set, ← Fin.ext_iff, offset_inj]

theorem get_clear (framebuffer : Framebuffer) (x y : Nat) : framebuffer.clear.get x y = false := by
  simp [get, clear, blank]

end Framebuffer

end Cosmac
