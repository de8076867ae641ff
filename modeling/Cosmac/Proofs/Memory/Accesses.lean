/-
**Accesses: memory is a plain map from positions to bytes.**

The map is told as a ledger of the blocks that were put in: a position holds the byte of the last
block that covers it, and before the first such block the byte it held at the start. An access is
carried out exactly if its range ends inside; then it tells what the map holds and adds its block
to the ledger, and otherwise it leaves the ledger alone.

* `Access.start`, `Access.length`, `Access.Fits` — the range of an access, and whether it ends
  inside.
* `Access.answer`, `Access.stored`, `Access.refusal` — what an access tells and puts in if it is
  carried out, and what it tells if it is not.
* `Access.EndsInside` — the range check on 64-bit numbers, where the end may come round.
* `Image.perform_eq` — all that an access does.
* `Image.perform_fault_iff`, `Image.perform_write_done_iff`, `Image.perform_write_refused_iff`,
  `Image.perform_write_fault_iff` — how an access to an image of any size ends.
* `Block`, `heldAfter`, `ledger` — the blocks put in, what is held after them, and the blocks of a
  run.
* `Memory.performAll_refines` — runs of accesses on the machine's memory.
-/

import Cosmac.Memory.Access
import Cosmac.Proofs.Memory.Blocks

namespace Cosmac

/-! ### The range of an access -/

namespace Access

/-- The position that an access begins at. -/
def start : Access → Nat
  | .write address _ | .readByte address | .writeByte address _ | .readWord address
  | .readSlice address _ | .revise address _ _ => address.toNat

/-- The number of bytes that an access is about. -/
def length : Access → Nat
  | .write _ data => data.length
  | .readByte _ | .writeByte _ _ => 1
  | .readWord _ => 2
  | .readSlice _ length | .revise _ length _ => length

/-- Where the range of an access must end on an image: a block write is held to the machine's
memory too. -/
def limit (size : Nat) : Access → Nat
  | .write _ _ => min size Memory.size
  | _ => size

/-- The range of an access ends inside. -/
def Fits (size : Nat) (access : Access) : Prop :=
  access.start + access.length ≤ access.limit size

instance (size : Nat) (access : Access) : Decidable (access.Fits size) :=
  inferInstanceAs (Decidable (_ ≤ _))

/-- What an access that is carried out tells of the bytes held. -/
def answer (held : Nat → UInt8) : Access → Reply
  | .write _ _ | .writeByte _ _ => .done
  | .readByte address => .byte (held address.toNat)
  | .readWord address => .word (wordOf (held address.toNat) (held (address.toNat + 1)))
  | .readSlice address length | .revise address length _ =>
    .slice ((List.range length).map fun offset => held (address.toNat + offset))

/-- The bytes that an access puts in from its start on when it is carried out. -/
def stored (held : Nat → UInt8) : Access → List UInt8
  | .write _ data => data
  | .writeByte _ value => [value]
  | .revise address length change =>
    (change (Vector.ofFn fun offset : Fin length => held (address.toNat + offset.val))).toList
  | .readByte _ | .readWord _ | .readSlice _ _ => []

/-- What an access tells that is not carried out. -/
def refusal : Access → Reply
  | .write address data =>
    if address.toNat + data.length > Memory.size then .refused ⟨address, data.length⟩ else .fault
  | _ => .fault

/-- The range check on 64-bit numbers, where an end beyond the largest one comes round: the range
must not end before it begins, and must end inside. -/
def EndsInside (address : Address) (length : UInt64) : Prop :=
  address.toUInt64 ≤ address.toUInt64 + length ∧ address.toUInt64 + length ≤ 4096

instance (address : Address) (length : UInt64) : Decidable (EndsInside address length) :=
  inferInstanceAs (Decidable (_ ∧ _))

/-- An end that comes round lies before the start, so the check is that of the exact end. -/
theorem endsInside_iff (address : Address) (length : UInt64) :
    EndsInside address length ↔ address.toNat + length.toNat ≤ 4096 := by
  have start_lt := address.toNat_lt
  have length_lt := length.toNat_lt
  have last : (4096 : UInt64).toNat = 4096 := rfl
  simp only [EndsInside, UInt64.le_iff_toNat_le, UInt64.toNat_add, UInt16.toNat_toUInt64, last]
  omega

theorem refusal_ne_answer (access : Access) (held : Nat → UInt8) :
    access.refusal ≠ access.answer held := by
  cases access with
  | write address data =>
    show (if address.toNat + data.length > Memory.size then Reply.refused _ else .fault) ≠ .done
    split <;> exact nofun
  | _ => exact nofun

theorem answer_ne_fault (access : Access) (held : Nat → UInt8) : access.answer held ≠ .fault := by
  cases access <;> exact nofun

theorem answer_ne_refused (access : Access) (held : Nat → UInt8) (error : Overrun) :
    access.answer held ≠ .refused error := by
  cases access <;> exact nofun

theorem length_stored_le (held : Nat → UInt8) (access : Access) :
    (access.stored held).length ≤ access.length := by
  cases access <;> simp [stored, length]

section NotWrite

variable {access : Access} (other : ∀ address data, access ≠ .write address data)

include other

theorem fits_iff_of_not_write {size : Nat} :
    access.Fits size ↔ access.start + access.length ≤ size := by
  cases access with
  | write address data => exact absurd rfl (other address data)
  | _ => exact Iff.rfl

theorem refusal_of_not_write : access.refusal = .fault := by
  cases access with
  | write address data => exact absurd rfl (other address data)
  | _ => rfl

end NotWrite

/-- On the machine's memory every access is held to the same end. -/
theorem fits_memory {access : Access} :
    access.Fits Memory.size ↔ access.start + access.length ≤ 4096 := by
  have same : access.limit Memory.size = 4096 := by cases access <;> rfl
  rw [Fits, same]

end Access

/-- Two bytes as a number never run over sixteen bits. -/
theorem toNat_wordOf (high low : UInt8) :
    (wordOf high low).toNat = 256 * high.toNat + low.toNat := by
  have highBound := high.toNat_lt
  have lowBound := low.toNat_lt
  have base : (256 : UInt16).toNat = 256 := rfl
  rw [wordOf, UInt16.toNat_add, UInt16.toNat_mul, UInt8.toNat_toUInt16, UInt8.toNat_toUInt16, base]
  omega

/-! ### One access -/

namespace Image

variable {size : Nat} (image : Image size)

/-- The byte at a position of an image; zero beyond its end. -/
def held (position : Nat) : UInt8 := image.bytes[position]?.getD 0

theorem held_of_lt {position : Nat} (inside : position < size) :
    image.held position = image.bytes[position] := by
  rw [held, Vector.getElem?_eq_getElem inside, Option.getD_some]

theorem held_of_le {position : Nat} (outside : size ≤ position) : image.held position = 0 := by
  rw [held, Vector.getElem?_eq_none outside, Option.getD_none]

theorem slice?_eq (address : Address) (length : Nat) :
    image.slice? address length =
      if address.toNat + length ≤ size then
        some (Vector.ofFn fun offset => image.held (address.toNat + offset.val))
      else none := by
  unfold slice?
  split
  case isTrue inside =>
    refine congrArg some (Vector.ext fun offset below => ?_)
    have here : address.toNat + offset < size := by omega
    rw [Vector.getElem_ofFn, Vector.getElem_ofFn, image.held_of_lt here]
  case isFalse => rfl

theorem byte?_eq (address : Address) :
    image.byte? address =
      if address.toNat + 1 ≤ size then some (image.held address.toNat) else none := by
  rw [byte?, slice?_eq]
  split
  · rw [Option.map_some, Vector.getElem_ofFn]
    rfl
  · rfl

theorem word?_eq (address : Address) :
    image.word? address =
      if address.toNat + 2 ≤ size then
        some (wordOf (image.held address.toNat) (image.held (address.toNat + 1)))
      else none := by
  rw [word?, slice?_eq]
  split
  · rw [Option.map_some, Vector.getElem_ofFn, Vector.getElem_ofFn]
    rfl
  · rfl

/-- The image with the bytes of a list laid over it. -/
def laid (start : Nat) (bytes : List UInt8) : Image size :=
  image.overlay start bytes.toArray.toVector

theorem held_laid {start : Nat} {bytes : List UInt8} (inside : start + bytes.length ≤ size)
    (position : Nat) :
    (image.laid start bytes).held position =
      if start ≤ position then bytes[position - start]?.getD (image.held position)
      else image.held position := by
  by_cases below : position < size
  · rw [held_of_lt _ below, laid, getElem_overlay_list, image.held_of_lt below]
  · have outside : size ≤ position := Nat.le_of_not_lt below
    have beyond : bytes[position - start]? = none := List.getElem?_eq_none (by omega)
    rw [held_of_le _ outside, image.held_of_le outside, beyond, Option.getD_none, ite_self]

theorem laid_nil (start : Nat) : image.laid start [] = image := by
  refine congrArg Image.mk (Vector.ext fun position inside => ?_)
  show (image.laid start []).bytes[position] = image.bytes[position]
  rw [laid, getElem_overlay_list, List.getElem?_nil, Option.getD_none, ite_self]

theorem laid_toList {length : Nat} (start : Nat) (block : Vector UInt8 length) :
    image.laid start block.toList = image.overlay start block := by
  refine congrArg Image.mk (Vector.ext fun position inside => ?_)
  show (image.laid start block.toList).bytes[position] = (image.overlay start block).bytes[position]
  rw [laid, getElem_overlay_list, getElem_overlay]
  by_cases covered : start ≤ position ∧ position - start < length
  · rw [dif_pos covered, if_pos covered.1, Vector.getElem?_toList,
      Vector.getElem?_eq_getElem covered.2, Option.getD_some]
  · rw [dif_neg covered]
    split
    case isTrue after =>
      have beyond : length ≤ position - start := Nat.le_of_not_lt fun h => covered ⟨after, h⟩
      rw [Vector.getElem?_toList, Vector.getElem?_eq_none beyond, Option.getD_none]
    case isFalse => rfl

/-- **All that an access does.** If its range ends inside, it tells what is held and lays its bytes
over the image; if not, nothing changes. -/
theorem perform_eq (access : Access) :
    image.perform access =
      if access.Fits size then
        (access.answer image.held, image.laid access.start (access.stored image.held))
      else (access.refusal, image) := by
  have told : ∀ (address : Address) (length : Nat),
      (Vector.ofFn fun offset : Fin length => image.held (address.toNat + offset.val)).toList =
        (List.range length).map fun offset => image.held (address.toNat + offset) := by
    intro address length
    refine List.ext_getElem (by simp) fun offset here there => ?_
    simp
  cases access with
  | write address data =>
    -- checked against the machine's memory first, and then against the image
    by_cases beyond : address.toNat + data.length > Memory.size
    · have outside : ¬ (Access.write address data).Fits size := fun fits =>
        absurd (Nat.le_trans fits (Nat.min_le_right _ _)) (Nat.not_le.mpr beyond)
      simp only [perform, write?, if_pos beyond, if_neg outside, Access.refusal]
    · by_cases inside : address.toNat + data.toArray.size ≤ size
      · have fits : (Access.write address data).Fits size :=
          Nat.le_min.mpr ⟨inside, Nat.le_of_not_lt beyond⟩
        simp only [perform, write?, splice?, if_neg beyond, if_pos inside, if_pos fits,
          Option.map_some]
        rfl
      · have outside : ¬ (Access.write address data).Fits size := fun fits =>
          inside (Nat.le_trans fits (Nat.min_le_left _ _))
        simp only [perform, write?, splice?, if_neg beyond, if_neg inside, if_neg outside,
          Option.map_none, Access.refusal]
  | readByte address =>
    have range : (Access.readByte address).Fits size ↔ address.toNat + 1 ≤ size := Iff.rfl
    simp only [perform, byte?_eq, range]
    by_cases inside : address.toNat + 1 ≤ size
    · simp only [if_pos inside, Access.answer, Access.stored, laid_nil]
    · simp only [if_neg inside, Access.refusal]
  | writeByte address value =>
    have range : (Access.writeByte address value).Fits size ↔ address.toNat + 1 ≤ size := Iff.rfl
    simp only [perform, splice?, range]
    by_cases inside : address.toNat + 1 ≤ size
    · simp only [if_pos inside]
      exact congrArg (Prod.mk _) (image.laid_toList address.toNat #v[value]).symm
    · simp only [if_neg inside, Access.refusal]
  | readWord address =>
    have range : (Access.readWord address).Fits size ↔ address.toNat + 2 ≤ size := Iff.rfl
    simp only [perform, word?_eq, range]
    by_cases inside : address.toNat + 2 ≤ size
    · simp only [if_pos inside, Access.answer, Access.stored, laid_nil]
    · simp only [if_neg inside, Access.refusal]
  | readSlice address length =>
    have range : (Access.readSlice address length).Fits size ↔ address.toNat + length ≤ size :=
      Iff.rfl
    simp only [perform, slice?_eq, range]
    by_cases inside : address.toNat + length ≤ size
    · simp only [if_pos inside, told, Access.answer, Access.stored, laid_nil]
    · simp only [if_neg inside, Access.refusal]
  | revise address length change =>
    have range : (Access.revise address length change).Fits size ↔
        address.toNat + length ≤ size := Iff.rfl
    simp only [perform, slice?_eq, splice?, range]
    by_cases inside : address.toNat + length ≤ size
    · simp only [if_pos inside, told, Access.answer, Access.stored, laid_toList, Access.start]
    · simp only [if_neg inside, Access.refusal]

/-! ### The ends of an access -/

theorem perform_of_fits {access : Access} (fits : access.Fits size) :
    image.perform access =
      (access.answer image.held, image.laid access.start (access.stored image.held)) := by
  rw [perform_eq, if_pos fits]

theorem perform_of_not_fits {access : Access} (unfit : ¬ access.Fits size) :
    image.perform access = (access.refusal, image) := by
  rw [perform_eq, if_neg unfit]

section NotWrite

variable {access : Access} (other : ∀ address data, access ≠ .write address data)

include other

/-- **An access other than a block write is a fault exactly if it ends outside the image.** -/
theorem perform_fault_iff :
    (image.perform access).1 = .fault ↔ size < access.start + access.length := by
  by_cases fits : access.Fits size
  · rw [image.perform_of_fits fits]
    have inside := (Access.fits_iff_of_not_write other).mp fits
    exact iff_of_false (access.answer_ne_fault _) (Nat.not_lt.mpr inside)
  · rw [image.perform_of_not_fits fits]
    have outside : ¬ access.start + access.length ≤ size := fun inside =>
      fits ((Access.fits_iff_of_not_write other).mpr inside)
    exact iff_of_true (Access.refusal_of_not_write other) (Nat.lt_of_not_le outside)

theorem perform_ne_refused (error : Overrun) : (image.perform access).1 ≠ .refused error := by
  by_cases fits : access.Fits size
  · rw [image.perform_of_fits fits]
    exact access.answer_ne_refused _ error
  · rw [image.perform_of_not_fits fits, Access.refusal_of_not_write other]
    exact fun same => Access.Reply.noConfusion same

end NotWrite

section Write

variable (address : Address) (data : List UInt8)

/-- A block write is carried out exactly if it ends inside the image and inside the machine's
memory. -/
theorem perform_write_done_iff :
    (image.perform (.write address data)).1 = .done ↔
      address.toNat + data.length ≤ min size Memory.size := by
  by_cases fits : (Access.write address data).Fits size
  · rw [image.perform_of_fits fits]
    exact iff_of_true rfl fits
  · rw [image.perform_of_not_fits fits]
    exact iff_of_false ((Access.write address data).refusal_ne_answer image.held) fits

/-- It is refused exactly if it ends outside the machine's memory, with its address and length. -/
theorem perform_write_refused_iff (error : Overrun) :
    (image.perform (.write address data)).1 = .refused error ↔
      Memory.size < address.toNat + data.length ∧ error = ⟨address, data.length⟩ := by
  by_cases fits : (Access.write address data).Fits size
  · have inside : address.toNat + data.length ≤ min size Memory.size := fits
    rw [image.perform_of_fits fits]
    exact iff_of_false ((Access.write address data).answer_ne_refused image.held error)
      fun both => by omega
  · rw [image.perform_of_not_fits fits, Access.refusal]
    split
    case isTrue beyond =>
      rw [Access.Reply.refused.injEq]
      exact ⟨fun same => ⟨beyond, same.symm⟩, fun both => both.2.symm⟩
    case isFalse inside =>
      exact iff_of_false (fun same => Access.Reply.noConfusion same) fun both => inside both.1

/-- It is a fault exactly if it ends inside the machine's memory but outside the image. -/
theorem perform_write_fault_iff :
    (image.perform (.write address data)).1 = .fault ↔
      size < address.toNat + data.length ∧ address.toNat + data.length ≤ Memory.size := by
  by_cases fits : (Access.write address data).Fits size
  · have inside : address.toNat + data.length ≤ min size Memory.size := fits
    rw [image.perform_of_fits fits]
    exact iff_of_false ((Access.write address data).answer_ne_fault image.held)
      fun both => by omega
  · have outside : ¬ address.toNat + data.length ≤ min size Memory.size := fits
    rw [image.perform_of_not_fits fits, Access.refusal]
    split
    case isTrue beyond =>
      exact iff_of_false (fun same => Access.Reply.noConfusion same) fun both => by omega
    case isFalse inside => exact iff_of_true rfl (by omega)

end Write

end Image

/-! ### The ledger -/

/-- Bytes put in from a position on. -/
structure Block where
  start : Nat
  bytes : List UInt8

/-- The byte that a block puts in at a position, if it covers it. -/
def Block.at? (position : Nat) (block : Block) : Option UInt8 :=
  if block.start ≤ position then block.bytes[position - block.start]? else none

/-- What a position holds after blocks are put in: the byte of the last one that covers it, or what
it held at the start. -/
def heldAfter (initial : Nat → UInt8) (blocks : List Block) (position : Nat) : UInt8 :=
  (blocks.reverse.findSome? (Block.at? position)).getD (initial position)

/-- The blocks that a run of accesses puts in, behind the blocks put in before it. -/
def ledger (size : Nat) (initial : Nat → UInt8) (blocks : List Block) : List Access → List Block
  | [] => blocks
  | access :: later =>
    if access.Fits size then
      ledger size initial
        (blocks ++ [⟨access.start, access.stored (heldAfter initial blocks)⟩]) later
    else ledger size initial blocks later

theorem heldAfter_concat (initial : Nat → UInt8) (blocks : List Block) (block : Block)
    (position : Nat) :
    heldAfter initial (blocks ++ [block]) position =
      (block.at? position).getD (heldAfter initial blocks position) := by
  rw [heldAfter, List.reverse_append, List.findSome?_append, List.reverse_singleton,
    List.findSome?_singleton]
  cases block.at? position <;> rfl

namespace Image

variable {size : Nat} (image : Image size)

/-- An access that is carried out adds its block to what is held. -/
theorem held_laid_stored {access : Access} (fits : access.Fits size) (held : Nat → UInt8)
    (position : Nat) :
    (image.laid access.start (access.stored held)).held position =
      (Block.at? position ⟨access.start, access.stored held⟩).getD (image.held position) := by
  have short := access.length_stored_le held
  have within : access.limit size ≤ size := by
    cases access with
    | write => exact Nat.min_le_left _ _
    | _ => exact Nat.le_refl _
  have ends : access.start + access.length ≤ access.limit size := fits
  rw [image.held_laid (by omega), Block.at?]
  split <;> rfl

/-- No access changes what is outside its own range. -/
theorem getElem_perform_of_apart (access : Access) {position : Nat} (inside : position < size)
    (apart : position < access.start ∨ access.start + access.length ≤ position) :
    (image.perform access).2.bytes[position] = image.bytes[position] := by
  rw [perform_eq]
  by_cases fits : access.Fits size
  · rw [if_pos fits, ← held_of_lt _ inside, ← image.held_of_lt inside,
      image.held_laid_stored fits, Block.at?]
    have short := access.length_stored_le image.held
    by_cases after : access.start ≤ position
    · have beyond : (access.stored image.held).length ≤ position - access.start := by omega
      rw [if_pos after, List.getElem?_eq_none beyond, Option.getD_none]
    · rw [if_neg after, Option.getD_none]
  · rw [if_neg fits]

/-- **What is held after a run of accesses.** The induction is on the run, behind any blocks that
account for what the image holds when it begins. -/
theorem held_performAll {initial : Nat → UInt8} {blocks : List Block}
    (accounted : image.held = heldAfter initial blocks) (accesses : List Access) :
    (image.performAll accesses).2.held =
      heldAfter initial (ledger size initial blocks accesses) := by
  induction accesses generalizing image blocks with
  | nil => exact accounted
  | cons access later ih =>
    show ((image.perform access).2.performAll later).2.held = _
    rw [perform_eq, ledger]
    by_cases fits : access.Fits size
    · rw [if_pos fits, if_pos fits]
      refine ih _ (funext fun position => ?_)
      rw [heldAfter_concat, image.held_laid_stored fits, ← accounted]
    · rw [if_neg fits, if_neg fits]
      exact ih image accounted

theorem performAll_append (first later : List Access) :
    image.performAll (first ++ later) =
      ((image.performAll first).1 ++ ((image.performAll first).2.performAll later).1,
        ((image.performAll first).2.performAll later).2) := by
  induction first generalizing image with
  | nil => rfl
  | cons access rest ih =>
    show (_ :: ((image.perform access).2.performAll (rest ++ later)).1,
      ((image.perform access).2.performAll (rest ++ later)).2) = _
    rw [ih]
    rfl

theorem length_performAll (accesses : List Access) :
    (image.performAll accesses).1.length = accesses.length := by
  induction accesses generalizing image with
  | nil => rfl
  | cons access later ih => exact congrArg Nat.succ (ih (image.perform access).2)

/-- The reply to an access in the middle of a run. -/
theorem getElem?_performAll (earlier later : List Access) (access : Access) :
    (image.performAll (earlier ++ access :: later)).1[earlier.length]? =
      some ((image.performAll earlier).2.perform access).1 := by
  rw [performAll_append,
    List.getElem?_append_right (Nat.le_of_eq (image.length_performAll earlier)),
    length_performAll, Nat.sub_self]
  rfl

end Image

/-! ### The machine's memory -/

namespace Memory

/-- A fault is the reply exactly to accesses other than block writes that end outside. -/
theorem perform_eq_fault_iff (memory : Memory) (access : Access) :
    (memory.perform access).1 = .fault ↔
      4096 < access.start + access.length ∧ ∀ address data, access ≠ .write address data := by
  cases access with
  | write address data =>
    -- what ends inside the machine's memory ends inside the image, which is the same
    rw [memory.perform_write_fault_iff]
    exact iff_of_false (fun both => absurd both.2 (Nat.not_le.mpr both.1))
      fun both => both.2 address data rfl
  | _ =>
    refine (memory.perform_fault_iff ?_).trans (and_iff_left ?_).symm
    · exact nofun
    · exact nofun

/-- A block write is refused exactly if it ends outside, with its address and its length. -/
theorem perform_eq_refused_iff (memory : Memory) (access : Access) (error : Overrun) :
    (memory.perform access).1 = .refused error ↔
      4096 < access.start + access.length ∧
        ∃ address data, access = .write address data ∧ error = ⟨address, data.length⟩ := by
  cases access with
  | write address data =>
    rw [memory.perform_write_refused_iff]
    refine and_congr_right fun _ => ⟨fun same => ⟨address, data, rfl, same⟩, ?_⟩
    rintro ⟨_, _, same, rfl⟩
    obtain ⟨rfl, rfl⟩ := Access.write.inj same
    rfl
  | _ =>
    refine iff_of_false (memory.perform_ne_refused ?_ error) ?_
    · exact nofun
    · exact fun ⟨_, _, _, same, _⟩ => Access.noConfusion same

/-- **Memory is a plain map from its 4096 positions to bytes**, over any run of accesses. One that
ends inside is answered from what the last blocks put in have left; one that ends outside is
refused if it is a block write, is a fault if it is anything else, and changes nothing. That its
end is an exact number makes no difference to a check on 64-bit numbers. No access changes what is
outside its own range. -/
theorem performAll_refines (memory : Memory) (earlier later : List Access) (access : Access) :
    let held := heldAfter memory.held (ledger size memory.held [] earlier)
    let reply := (memory.performAll (earlier ++ access :: later)).1[earlier.length]?
    let now := (memory.performAll earlier).2
    let next := (memory.performAll (earlier ++ [access])).2
    next.bytes.toList.length = 4096 ∧
    (reply = some (access.answer held) ↔ access.start + access.length ≤ 4096) ∧
    (∀ (address : Address) (length : UInt64),
      access.start = address.toNat → access.length = length.toNat →
        (reply = some (access.answer held) ↔ Access.EndsInside address length)) ∧
    (reply = some .fault ↔
      4096 < access.start + access.length ∧ ∀ address data, access ≠ .write address data) ∧
    (∀ error, reply = some (.refused error) ↔
      4096 < access.start + access.length ∧
        ∃ address data, access = .write address data ∧ error = ⟨address, data.length⟩) ∧
    (4096 < access.start + access.length → next = now) ∧
    (∀ position (inside : position < size), next.bytes[position] =
      heldAfter memory.held (ledger size memory.held [] (earlier ++ [access])) position) ∧
    (∀ position (inside : position < size),
      position < access.start ∨ access.start + access.length ≤ position →
        next.bytes[position] = now.bytes[position]) ∧
    (∀ address, access = .readWord address → address.toNat + 2 ≤ 4096 →
      ∃ value, reply = some (.word value) ∧
        value.toNat = 256 * (held address.toNat).toNat + (held (address.toNat + 1)).toNat) := by
  intro held reply now next
  have nothing : memory.held = heldAfter memory.held [] := rfl
  have heldNow : now.held = held := memory.held_performAll nothing earlier
  have replied : reply = some (now.perform access).1 :=
    memory.getElem?_performAll earlier later access
  have stepped : next = (now.perform access).2 := by
    show (memory.performAll (earlier ++ [access])).2 = _
    rw [Image.performAll_append]
    rfl
  have answered : reply = some (access.answer held) ↔ access.start + access.length ≤ 4096 := by
    rw [replied, Option.some.injEq, Image.perform_eq, heldNow, ← Access.fits_memory]
    by_cases fits : access.Fits size
    · rw [if_pos fits]
      exact iff_of_true rfl fits
    · rw [if_neg fits]
      exact iff_of_false (access.refusal_ne_answer held) fits
  have kept : 4096 < access.start + access.length → next = now := by
    intro outside
    have unfit : ¬ access.Fits size := fun fits =>
      absurd (Access.fits_memory.mp fits) (Nat.not_le.mpr outside)
    rw [stepped, Image.perform_eq, if_neg unfit]
  refine ⟨Vector.length_toList, answered, ?_, ?_, ?_, kept, ?_, ?_, ?_⟩
  · intro address length starts long
    rw [answered, starts, long, Access.endsInside_iff]
  · rw [replied, Option.some.injEq]
    exact perform_eq_fault_iff now access
  · intro error
    rw [replied, Option.some.injEq]
    exact perform_eq_refused_iff now access error
  · intro position inside
    have account := memory.held_performAll nothing (earlier ++ [access])
    rw [← next.held_of_lt inside]
    exact congrFun account position
  · intro position inside apart
    simp only [stepped]
    exact now.getElem_perform_of_apart access inside apart
  · rintro address rfl inside
    exact ⟨_, answered.mpr inside, toNat_wordOf _ _⟩

/-- A word from a block that was changed after it was put in; and at the end of memory an empty
range, one behind it, one so long that its end comes round, and a block that is refused. -/
theorem performAll_refines_at_end :
    (powerOn.performAll ([.write 0x300 [1, 2, 3], .revise 0x301 2 fun found => found.map (255 - ·),
      .write 0xfff [9, 9]] ++ [.readWord 0x301])).1[3]? = some (.word 0xfdfc) ∧
    (powerOn.performAll ([] ++ [.readSlice 4096 0])).1[0]? = some (.slice []) ∧
    (powerOn.performAll ([] ++ [.readSlice 4097 0])).1[0]? = some .fault ∧
    (powerOn.performAll ([] ++ [.readSlice 4095 18446744073709551615])).1[0]? = some .fault ∧
    (powerOn.performAll ([] ++ [.write 0xfff [9, 9]])).1[0]? = some (.refused ⟨0xfff, 2⟩) := by
  refine ⟨?_, ?_, ?_, ?_, ?_⟩
  · refine ((performAll_refines powerOn [.write 0x300 [1, 2, 3],
      .revise 0x301 2 fun found => found.map (255 - ·), .write 0xfff [9, 9]] [] _).2.1.mpr
        (by decide)).trans ?_
    decide +kernel
  · exact ((performAll_refines powerOn [] [] _).2.2.1 4096 0 rfl rfl).mpr (by decide)
  · exact (performAll_refines powerOn [] [] _).2.2.2.1.mpr ⟨by decide, nofun⟩
  · exact (performAll_refines powerOn [] [] _).2.2.2.1.mpr ⟨by decide, nofun⟩
  · exact ((performAll_refines powerOn [] [] _).2.2.2.2.1 _).mpr ⟨by decide, _, _, rfl, rfl⟩

end Memory

end Cosmac
