/-
**Edits: what a framebuffer shows after any number of writes and clears.**

The framebuffer is a picture on a torus: a column further by 64, or a row further by 32, is the
same pixel again. Whatever was written before, a pixel shows what the last edit that touches it
wrote there, and a clear touches every pixel.

* `Edit`, `editAll` — one pixel written or all cleared, and a run of these.
* `SamePixel`, `Edit.Touches` — two points on one pixel, and an edit that writes to a point's pixel.
* `lastWritten?` — what the last edit of a run that touches a pixel wrote there.
* `get_editAll` — a run at one pixel.
* `editAll_torus` — the framebuffer after a run, pixel by pixel and as a list of cells.
-/

import Cosmac.Framebuffer

namespace Cosmac

namespace Framebuffer

/-- One pixel written, or all of them put out. -/
inductive Edit where
  | set (x y : Nat) (on : Bool)
  | clear
deriving DecidableEq

variable (framebuffer : Framebuffer)

def edit : Edit → Framebuffer
  | .set x y on => framebuffer.set x y on
  | .clear => framebuffer.clear

/-- The framebuffer after a run of edits. -/
def editAll (edits : List Edit) : Framebuffer := edits.foldl edit framebuffer

/-- Two points are the same pixel if they differ by whole screens. -/
def SamePixel (x y u v : Nat) : Prop := x % 64 = u % 64 ∧ y % 32 = v % 32

instance (x y u v : Nat) : Decidable (SamePixel x y u v) :=
  inferInstanceAs (Decidable (_ ∧ _))

/-- An edit writes to the pixel of a point. -/
def Edit.Touches (u v : Nat) : Edit → Prop
  | .set x y _ => SamePixel x y u v
  | .clear => True

/-- What an edit writes to the pixel of a point, if it touches it. -/
def Edit.written? (u v : Nat) : Edit → Option Bool
  | .set x y on => if SamePixel x y u v then some on else none
  | .clear => some false

/-- What the last edit of a run that touches the pixel of a point writes there. -/
def lastWritten? (edits : List Edit) (u v : Nat) : Option Bool :=
  edits.reverse.findSome? (Edit.written? u v)

/-! ### The last edit that touches a pixel -/

theorem Edit.written?_eq_none {edit : Edit} {u v : Nat} (apart : ¬ edit.Touches u v) :
    edit.written? u v = none := by
  cases edit with
  | set x y on => exact if_neg apart
  | clear => exact absurd trivial apart

theorem lastWritten?_eq_none {edits : List Edit} {u v : Nat}
    (apart : ∀ edit ∈ edits, ¬ edit.Touches u v) : lastWritten? edits u v = none := by
  refine List.findSome?_eq_none_iff.mpr fun edit member => ?_
  exact Edit.written?_eq_none (apart edit (List.mem_reverse.mp member))

/-- An edit that touches a pixel decides, whatever came before, if no later one touches it. -/
theorem lastWritten?_decided {edit : Edit} {later : List Edit} {u v : Nat} {on : Bool}
    (writes : edit.written? u v = some on) (apart : ∀ edit ∈ later, ¬ edit.Touches u v)
    (earlier : List Edit) : lastWritten? (earlier ++ edit :: later) u v = some on := by
  have none_later : later.reverse.findSome? (Edit.written? u v) = none := lastWritten?_eq_none apart
  rw [lastWritten?, List.reverse_append, List.reverse_cons, List.append_assoc,
    List.findSome?_append, none_later, Option.none_or, List.singleton_append,
    List.findSome?_cons, writes]

/-! ### A run at one pixel -/

/-- **One edit at one pixel.** -/
theorem get_edit (edit : Edit) (u v : Nat) :
    (framebuffer.edit edit).get u v = (edit.written? u v).getD (framebuffer.get u v) := by
  cases edit with
  | set x y on =>
    have shown : (framebuffer.set x y on).get u v =
        if SamePixel x y u v then on else framebuffer.get u v := framebuffer.get_set x y u v on
    show (framebuffer.set x y on).get u v = _
    rw [shown, Edit.written?]
    by_cases same : SamePixel x y u v
    · rw [if_pos same, if_pos same, Option.getD_some]
    · rw [if_neg same, if_neg same, Option.getD_none]
  | clear => exact framebuffer.get_clear u v

/-- **A run at one pixel**: the last edit that touches it decides. The induction is on the run,
for every framebuffer that the earlier edits may have left. -/
theorem get_editAll (edits : List Edit) (u v : Nat) :
    (framebuffer.editAll edits).get u v =
      (lastWritten? edits u v).getD (framebuffer.get u v) := by
  induction edits generalizing framebuffer with
  | nil => rfl
  | cons edit later ih =>
    have split : lastWritten? (edit :: later) u v =
        (lastWritten? later u v).or (edit.written? u v) := by
      rw [lastWritten?, List.reverse_cons, List.findSome?_append, List.findSome?_singleton]
      rfl
    show ((framebuffer.edit edit).editAll later).get u v = _
    rw [ih, get_edit, split]
    cases lastWritten? later u v <;> rfl

/-! ### The cells -/

/-- The pixel at a column and a row of the screen stands at its place among all of them. -/
theorem getElem?_pixels {u v : Nat} (inColumns : u < 64) (inRows : v < 32) :
    framebuffer.pixels[64 * v + u]? = some (framebuffer.get u v) := by
  have place : (offset u v).val = 64 * v + u := by
    show v % 32 * 64 + u % 64 = 64 * v + u
    rw [Nat.mod_eq_of_lt inRows, Nat.mod_eq_of_lt inColumns, Nat.mul_comm]
  rw [← place]
  exact Vector.getElem?_eq_getElem (offset u v).isLt

/-- Each place among all of them holds the pixel at a column and a row. -/
theorem getElem?_pixels_index {index : Nat} (inside : index < 2048) :
    framebuffer.pixels[index]? = some (framebuffer.get (index % 64) (index / 64)) := by
  have inColumns : index % 64 < 64 := Nat.mod_lt _ (by decide)
  have inRows : index / 64 < 32 := Nat.div_lt_of_lt_mul inside
  rw [← framebuffer.getElem?_pixels inColumns inRows, Nat.div_add_mod]

/-- **The framebuffer after a run of edits.** A pixel shows what was written by the last write to
it that no clear follows; if there is none, it is out after a clear and as it was without one.
Every point has a cell, two points share one only if they are the same pixel, and the 2048 cells
are the pixels row by row. -/
theorem editAll_torus (edits : List Edit) (u v : Nat) :
    (∀ earlier later x y on, edits = earlier ++ .set x y on :: later →
      SamePixel x y u v → (∀ edit ∈ later, ¬ edit.Touches u v) →
        (framebuffer.editAll edits).get u v = on) ∧
    (∀ earlier later, edits = earlier ++ .clear :: later →
      (∀ edit ∈ later, ¬ edit.Touches u v) →
        (framebuffer.editAll edits).get u v = false) ∧
    ((∀ edit ∈ edits, ¬ edit.Touches u v) →
      (framebuffer.editAll edits).get u v = framebuffer.get u v) ∧
    (∀ x y, (offset x y).val < 2048 ∧ (offset x y = offset u v ↔ SamePixel x y u v)) ∧
    (framebuffer.editAll edits).pixels.toList.length = 2048 ∧
    (u < 64 → v < 32 → (framebuffer.editAll edits).pixels[64 * v + u]? =
      some ((framebuffer.editAll edits).get u v)) := by
  refine ⟨?_, ?_, ?_, fun x y => ⟨(offset x y).isLt, offset_inj⟩, Vector.length_toList, ?_⟩
  · intro earlier later x y on run same apart
    have writes : (Edit.set x y on).written? u v = some on := if_pos same
    rw [get_editAll, run, lastWritten?_decided writes apart earlier, Option.getD_some]
  · intro earlier later run apart
    have writes : Edit.clear.written? u v = some false := rfl
    rw [get_editAll, run, lastWritten?_decided writes apart earlier, Option.getD_some]
  · intro apart
    rw [get_editAll, lastWritten?_eq_none apart, Option.getD_none]
  · exact fun inColumns inRows => getElem?_pixels _ inColumns inRows

/-- A write two screens to the right and one down, behind a clear and before a write next to it. -/
theorem editAll_torus_wrapped :
    (blank.editAll [.set 3 2 true, .clear, .set 131 34 true, .set 4 2 false]).get 3 2 = true ∧
      (blank.editAll [.set 3 2 true, .clear, .set 131 34 true, .set 4 2 false]).get 4 3 = false ∧
      (blank.editAll [.set 131 34 true]).pixels[131]? = some true := by
  refine ⟨?_, ?_, ?_⟩
  · exact (blank.editAll_torus _ 3 2).1 [.set 3 2 true, .clear] [.set 4 2 false] 131 34 true rfl
      (by decide) (by simp [Edit.Touches, SamePixel])
  · exact (blank.editAll_torus _ 4 3).2.1 [.set 3 2 true] [.set 131 34 true, .set 4 2 false] rfl
      (by simp [Edit.Touches, SamePixel])
  · have shown := (blank.editAll_torus [.set 131 34 true] 3 2).1 [] [] 131 34 true rfl
      (by decide) (by simp)
    have cell := (blank.editAll_torus [.set 131 34 true] 3 2).2.2.2.2.2 (by decide) (by decide)
    rw [shown] at cell
    exact cell

end Framebuffer

end Cosmac
