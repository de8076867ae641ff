/-
**Memory images: a fixed number of bytes behind 16-bit addresses.**

An `Image size` holds `size` bytes, one for each position from zero up. Every access names a range
by its first address and its length, and is answered only if the whole range lies inside the
image, where the end of the range is an exact natural number: an empty range may stand at the very
end, and no length is so long that it comes round to the start.

* `slice?` — the bytes of a range.
* `splice?` — the image with a block of bytes put in at an address.
* `byte?`, `word?` — a single byte, and two bytes as a number with the high byte first.
* `getElem_overlay` — what stands at each position after a block is laid over an image.
-/

namespace Cosmac

/-- The place of a byte, in sixteen bits. -/
abbrev Address := UInt16

/-- A number of bytes, one at each position. -/
structure Image (size : Nat) where
  bytes : Vector UInt8 size
deriving DecidableEq

/-- Two bytes as one number, the high byte first. -/
def wordOf (high low : UInt8) : UInt16 :=
  high.toUInt16 * 256 + low.toUInt16

namespace Image

variable {size : Nat}

/-- An image of zeros. -/
def zero (size : Nat) : Image size := ⟨Vector.replicate size 0⟩

/-! ### Ranges -/

/-- The bytes of a range, when all of it lies inside the image. -/
def slice? (image : Image size) (address : Address) (length : Nat) :
    Option (Vector UInt8 length) :=
  if inside : address.toNat + length ≤ size then
    some (Vector.ofFn fun offset => image.bytes[address.toNat + offset.val])
  else none

/-- The image with a block laid over it from a position on; what would stand beyond the end of the
image is dropped. -/
def overlay {length : Nat} (image : Image size) (start : Nat) (block : Vector UInt8 length) :
    Image size where
  bytes := Vector.ofFn fun position =>
    if covered : start ≤ position.val ∧ position.val - start < length then
      block[position.val - start]
    else image.bytes[position.val]

/-- The image with a block put in at an address, when all of the block lies inside the image. -/
def splice? {length : Nat} (image : Image size) (address : Address)
    (block : Vector UInt8 length) : Option (Image size) :=
  if address.toNat + length ≤ size then some (image.overlay address.toNat block) else none

/-- The byte at an address. -/
def byte? (image : Image size) (address : Address) : Option UInt8 :=
  (image.slice? address 1).map fun found => found[0]

/-- The two bytes from an address on, as a number with the high byte first. -/
def word? (image : Image size) (address : Address) : Option UInt16 :=
  (image.slice? address 2).map fun found => wordOf found[0] found[1]

/-- How many bytes of the image are not zero. -/
def countNonZero (image : Image size) : Nat :=
  image.bytes.countP (· ≠ 0)

/-! ### What ranges show -/

theorem getElem_overlay {length : Nat} (image : Image size) (start : Nat)
    (block : Vector UInt8 length) (position : Nat) (inside : position < size) :
    (image.overlay start block).bytes[position] =
      if covered : start ≤ position ∧ position - start < length then block[position - start]
      else image.bytes[position] := by
  simp [overlay]

theorem slice?_eq_some_iff {image : Image size} {address : Address} {length : Nat}
    {found : Vector UInt8 length} :
    image.slice? address length = some found ↔
      ∃ inside : address.toNat + length ≤ size,
        ∀ offset (below : offset < length),
          found[offset] = image.bytes[address.toNat + offset] := by
  unfold slice?
  split
  case isTrue inside =>
    constructor
    · intro same
      refine ⟨inside, fun offset below => ?_⟩
      simp [← Option.some.inj same]
    · rintro ⟨_, agree⟩
      refine congrArg some (Vector.ext fun offset below => ?_)
      simp [agree offset below]
  case isFalse outside =>
    exact ⟨nofun, fun ⟨inside, _⟩ => absurd inside outside⟩

theorem slice?_isSome (image : Image size) (address : Address) (length : Nat) :
    (image.slice? address length).isSome = decide (address.toNat + length ≤ size) := by
  unfold slice?
  split <;> simp [*]

theorem splice?_isSome {length : Nat} (image : Image size) (address : Address)
    (block : Vector UInt8 length) :
    (image.splice? address block).isSome = decide (address.toNat + length ≤ size) := by
  unfold splice?
  split <;> simp [*]

end Image

end Cosmac
