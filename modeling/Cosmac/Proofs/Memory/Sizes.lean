/-
**Sizes: images that are shorter or longer than the machine's memory.**

A block write is checked against the machine's 4096 addresses first and against the image itself
after that; every other access is checked against the image alone. So on an image of another size a
block write has three ends, and on a longer one the other accesses reach bytes that it refuses. As
long as every range ends inside both, an image answers as the machine's memory does.

* `Image.perform_readByte_of_lt`, `Image.perform_readWord_of_lt`, `Image.perform_writeByte_of_lt`,
  `Image.getElem_perform_write` — what accesses tell and leave that are carried out.
* `Image.AgreeBelow` — images of any sizes that hold the same bytes up to a bound.
* `Image.perform_agree`, `Image.performAll_agree` — an access, and a run of them, on such images.
* `Image.perform_at_any_size` — all of this side by side.
-/

import Cosmac.Proofs.Memory.Accesses

namespace Cosmac

/-! ### What an access depends on -/

namespace Access

variable {size bound : Nat} {access : Access}

/-- A range that ends inside an image and inside the machine's memory ends inside for every kind of
access. -/
theorem fits_of_le_min (ends : access.start + access.length ≤ min size Memory.size) :
    access.Fits size := by
  cases access with
  | write => exact ends
  | _ => exact Nat.le_trans ends (Nat.min_le_left _ _)

section Congruence

variable {held other : Nat → UInt8}
  (same : ∀ position, position < bound → held position = other position)
  (ends : access.start + access.length ≤ bound)

include same ends

/-- What an access tells depends on the bytes of its range alone. -/
theorem answer_congr : access.answer held = access.answer other := by
  have inRange : ∀ offset, offset < access.length →
      held (access.start + offset) = other (access.start + offset) :=
    fun offset below => same _ (by omega)
  cases access with
  | write => rfl
  | writeByte => rfl
  | readByte address => exact congrArg Reply.byte (inRange 0 Nat.zero_lt_one)
  | readWord address =>
    have high : held address.toNat = other address.toNat := inRange 0 Nat.zero_lt_two
    have low : held (address.toNat + 1) = other (address.toNat + 1) := inRange 1 Nat.one_lt_two
    rw [answer, answer, high, low]
  | readSlice address length | revise address length change =>
    refine congrArg Reply.slice (List.map_congr_left fun offset member => ?_)
    exact inRange offset (List.mem_range.mp member)

/-- What an access puts in depends on the bytes of its range alone. -/
theorem stored_congr : access.stored held = access.stored other := by
  cases access with
  | revise address length change =>
    have found : (fun offset : Fin length => held (address.toNat + offset.val)) =
        fun offset : Fin length => other (address.toNat + offset.val) := by
      funext offset
      refine same _ (Nat.lt_of_lt_of_le ?_ ends)
      exact Nat.add_lt_add_left offset.isLt address.toNat
    rw [stored, stored, found]
  | _ => rfl

end Congruence

end Access

namespace Image

variable {size : Nat} (image : Image size)

/-! ### What an access changes -/

/-- Whatever is not carried out changes nothing. -/
theorem perform_unchanged {access : Access}
    (refused : (image.perform access).1 ≠ access.answer image.held) :
    (image.perform access).2 = image := by
  by_cases fits : access.Fits size
  · rw [image.perform_of_fits fits] at refused
    exact absurd rfl refused
  · rw [image.perform_of_not_fits fits]

/-- Every byte after bytes are laid over an image. -/
theorem getElem_laid {start : Nat} {bytes : List UInt8} {position : Nat}
    (inside : position < size) :
    (image.laid start bytes).bytes[position] =
      if covered : start ≤ position ∧ position - start < bytes.length then bytes[position - start]
      else image.bytes[position] := by
  simp [laid, getElem_overlay]

section Inside

variable {address : Address}

theorem perform_readByte_of_lt (inside : address.toNat < size) :
    (image.perform (.readByte address)).1 = .byte image.bytes[address.toNat] := by
  have fits : (Access.readByte address).Fits size := inside
  rw [image.perform_of_fits fits, Access.answer, image.held_of_lt inside]

theorem perform_readWord_of_lt (inside : address.toNat + 1 < size) :
    (image.perform (.readWord address)).1 =
      .word (wordOf image.bytes[address.toNat] image.bytes[address.toNat + 1]) := by
  have fits : (Access.readWord address).Fits size := inside
  rw [image.perform_of_fits fits, Access.answer, image.held_of_lt inside,
    image.held_of_lt (Nat.lt_of_succ_lt inside)]

/-- A byte that is put in is the only one that changes. -/
theorem perform_writeByte_of_lt (value : UInt8) (here : address.toNat < size) :
    (image.perform (.writeByte address value)).1 = .done ∧
      ∀ position (inside : position < size),
        (image.perform (.writeByte address value)).2.bytes[position] =
          if position = address.toNat then value else image.bytes[position] := by
  have fits : (Access.writeByte address value).Fits size := here
  simp only [image.perform_of_fits fits]
  refine ⟨rfl, fun position inside => ?_⟩
  rw [image.getElem_laid inside]
  by_cases same : position = address.toNat
  · simp [same, Access.start, Access.stored]
  · have apart : ¬ (address.toNat ≤ position ∧ position - address.toNat < 1) := by omega
    rw [if_neg same]
    exact dif_neg apart

/-- Exactly the bytes of its range become those of a block that is put in. -/
theorem getElem_perform_write {data : List UInt8}
    (fits : address.toNat + data.length ≤ min size Memory.size) {position : Nat}
    (inside : position < size) :
    (image.perform (.write address data)).2.bytes[position] =
      if covered : address.toNat ≤ position ∧ position - address.toNat < data.length then
        data[position - address.toNat]
      else image.bytes[position] := by
  have carried : (Access.write address data).Fits size := fits
  simp only [image.perform_of_fits carried]
  exact image.getElem_laid inside

end Inside

/-! ### Images side by side -/

section Agreement

variable {size' bound : Nat} {first : Image size} {second : Image size'}

/-- Two images hold the same bytes up to a bound. -/
def AgreeBelow (bound : Nat) (first : Image size) (second : Image size') : Prop :=
  ∀ position, position < bound → first.held position = second.held position

/-- Where both images have bytes they are compared as bytes. -/
theorem agreeBelow_min_iff :
    first.AgreeBelow (min size size') second ↔
      ∀ position (inFirst : position < size) (inSecond : position < size'),
        first.bytes[position] = second.bytes[position] := by
  constructor
  · intro agree position inFirst inSecond
    rw [← first.held_of_lt inFirst, ← second.held_of_lt inSecond]
    exact agree position (Nat.lt_min.mpr ⟨inFirst, inSecond⟩)
  · intro same position below
    obtain ⟨inFirst, inSecond⟩ := Nat.lt_min.mp below
    rw [first.held_of_lt inFirst, second.held_of_lt inSecond]
    exact same position inFirst inSecond

/-- **An access that ends below the bound** is answered alike and leaves the images alike. -/
theorem perform_agree (agree : first.AgreeBelow bound second) {access : Access}
    (ends : access.start + access.length ≤ bound) (fits : access.Fits size)
    (fits' : access.Fits size') :
    (first.perform access).1 = (second.perform access).1 ∧
      (first.perform access).2.AgreeBelow bound (second.perform access).2 := by
  rw [first.perform_of_fits fits, second.perform_of_fits fits']
  refine ⟨Access.answer_congr agree ends, fun position below => ?_⟩
  show (first.laid access.start (access.stored first.held)).held position =
    (second.laid access.start (access.stored second.held)).held position
  rw [first.held_laid_stored fits, second.held_laid_stored fits',
    Access.stored_congr agree ends, agree position below]

/-- **A run of such accesses.** The induction is on the run; what goes along is that the images
still hold the same bytes up to the bound. -/
theorem performAll_agree (agree : first.AgreeBelow bound second) {accesses : List Access}
    (within : ∀ access ∈ accesses, access.start + access.length ≤ bound ∧ access.Fits size ∧
      access.Fits size') :
    (first.performAll accesses).1 = (second.performAll accesses).1 ∧
      (first.performAll accesses).2.AgreeBelow bound (second.performAll accesses).2 := by
  induction accesses generalizing first second with
  | nil => exact ⟨rfl, agree⟩
  | cons access later ih =>
    obtain ⟨⟨ends, fits, fits'⟩, rest⟩ := List.forall_mem_cons.mp within
    obtain ⟨reply, next⟩ := perform_agree agree ends fits fits'
    obtain ⟨replies, final⟩ := ih next rest
    exact ⟨List.cons_eq_cons.mpr ⟨reply, replies⟩, final⟩

end Agreement

/-! ### Any size -/

/-- **Accesses to an image of any size.** A block write is refused if it ends beyond the machine's
memory, a fault if it ends inside it but beyond the image, and carried out if it ends inside both;
only then does anything change, and then exactly the bytes of its range. Reading and writing a byte
and reading a word know the end of the image alone. A run of accesses that end inside both is
answered as the machine's memory answers it that starts from the same bytes, and leaves the same
bytes. -/
theorem perform_at_any_size :
    (∀ (address : Address) (data : List UInt8),
      let reply := (image.perform (.write address data)).1
      let next := (image.perform (.write address data)).2
      (∀ error, reply = .refused error ↔
        4096 < address.toNat + data.length ∧ error = ⟨address, data.length⟩) ∧
      (reply = .fault ↔
        size < address.toNat + data.length ∧ address.toNat + data.length ≤ 4096) ∧
      (reply = .done ↔ address.toNat + data.length ≤ min size 4096) ∧
      (reply ≠ .done → next = image) ∧
      (reply = .done → ∀ position (inside : position < size), next.bytes[position] =
        if covered : address.toNat ≤ position ∧ position - address.toNat < data.length then
          data[position - address.toNat]
        else image.bytes[position])) ∧
    (∀ address : Address,
      ((image.perform (.readByte address)).1 = .fault ↔ size < address.toNat + 1) ∧
      ∀ inside : address.toNat < size,
        (image.perform (.readByte address)).1 = .byte image.bytes[address.toNat]) ∧
    (∀ (address : Address) (value : UInt8),
      let reply := (image.perform (.writeByte address value)).1
      let next := (image.perform (.writeByte address value)).2
      (reply = .fault ↔ size < address.toNat + 1) ∧ (reply = .fault → next = image) ∧
      (address.toNat < size → reply = .done ∧
        ∀ position (inside : position < size), next.bytes[position] =
          if position = address.toNat then value else image.bytes[position])) ∧
    (∀ address : Address,
      ((image.perform (.readWord address)).1 = .fault ↔ size < address.toNat + 2) ∧
      ∀ inside : address.toNat + 1 < size, (image.perform (.readWord address)).1 =
        .word (wordOf image.bytes[address.toNat] image.bytes[address.toNat + 1])) ∧
    (∀ (memory : Memory) (accesses : List Access),
      (∀ position (inside : position < size) (there : position < Memory.size),
        image.bytes[position] = memory.bytes[position]) →
      (∀ access ∈ accesses, access.start + access.length ≤ min size 4096) →
      (image.performAll accesses).1 = (memory.performAll accesses).1 ∧
      ∀ position (inside : position < size) (there : position < Memory.size),
        (image.performAll accesses).2.bytes[position] =
          (memory.performAll accesses).2.bytes[position]) := by
  refine ⟨fun address data => ⟨?_, ?_, ?_, ?_, ?_⟩, fun address => ⟨?_, ?_⟩,
    fun address value => ⟨?_, ?_, ?_⟩, fun address => ⟨?_, ?_⟩, ?_⟩
  · exact image.perform_write_refused_iff address data
  · exact image.perform_write_fault_iff address data
  · exact image.perform_write_done_iff address data
  · exact fun refused => image.perform_unchanged refused
  · intro done position inside
    exact image.getElem_perform_write ((image.perform_write_done_iff address data).mp done) inside
  · exact image.perform_fault_iff nofun
  · exact fun inside => image.perform_readByte_of_lt inside
  · exact image.perform_fault_iff nofun
  · exact fun fault => image.perform_unchanged (fault ▸ (Access.answer_ne_fault _ _).symm)
  · exact fun here => image.perform_writeByte_of_lt value here
  · exact image.perform_fault_iff nofun
  · exact fun inside => image.perform_readWord_of_lt inside
  · intro memory accesses same within
    have agree : image.AgreeBelow (min size Memory.size) memory := agreeBelow_min_iff.mpr same
    obtain ⟨replies, final⟩ := performAll_agree agree fun access member =>
      have ends : access.start + access.length ≤ min size Memory.size := within access member
      ⟨ends, Access.fits_of_le_min ends,
        Access.fits_memory.mpr (Nat.le_trans ends (Nat.min_le_right _ _))⟩
    exact ⟨replies, agreeBelow_min_iff.mp final⟩

/-- A block that ends behind a short image is a fault. Behind the machine's memory a long image
takes a byte, but not as a block. Where both have bytes the machine's memory answers as a short
image. -/
theorem perform_at_any_size_short_and_long :
    ((zero 8).perform (.write 6 [1, 2, 3])).1 = .fault ∧
    ((zero 5000).perform (.write 4999 [1])).1 = .refused ⟨4999, 1⟩ ∧
    ((zero 5000).perform (.writeByte 4999 1)).1 = .done ∧
    (Memory.powerOn.performAll [.write 6 [1, 2], .revise 7 1 fun found => found.map (255 - ·),
      .readWord 6]).1 = [.done, .slice [2], .word 0x01fd] := by
  obtain ⟨writes, -, -, -, runs⟩ := (zero 8).perform_at_any_size
  obtain ⟨longWrites, -, longBytes, -⟩ := (zero 5000).perform_at_any_size
  refine ⟨(writes 6 [1, 2, 3]).2.1.mpr (by decide), ((longWrites 4999 [1]).1 _).mpr (by decide),
    ((longBytes 4999 1).2.2 (by decide)).1, ?_⟩
  refine (runs Memory.powerOn _ (fun position inside there => ?_) ?_).1.symm.trans
    (by decide +kernel)
  · have below : position < fontStart.toNat := Nat.lt_trans inside (by decide)
    rw [zero, Vector.getElem_replicate, Memory.zero_powerOn position there (.inl below)]
  · simp only [List.forall_mem_cons]
    decide

end Image

end Cosmac
