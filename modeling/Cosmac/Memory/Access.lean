/-
**Accesses: the requests that an image answers.**

An `Access` is a request as data, so that a whole run of them is a list. Out of range, the two
kinds of request differ: a block write is refused with an error that says why, every other access
is a fault. Whatever is not carried out changes nothing.

* `write?` — the block write. It is checked against the machine's 4096 addresses whatever the
  size of the image; inside them it faults if the image itself is shorter.
* `perform` — the reply to an access, and the image after it.
* `performAll` — the replies to a run of accesses, in order, and the image at the end.
-/

import Cosmac.Memory.Regions
import Cosmac.Text.Outline

namespace Cosmac

/-- A block that would run past the end of memory. -/
structure Overrun where
  address : Address
  length : Nat
deriving DecidableEq

namespace Overrun

/-- The sentence that tells a reader what went wrong. -/
def message (error : Overrun) : String :=
  Text.decimal error.length ++ " bytes at 0x" ++ Text.hexadecimal 3 error.address.toNat ++
    " runs past the end of memory"

/-- The error as a record of its parts. -/
def outline (error : Overrun) : Text.Outline :=
  .record "OutOfRange"
    [("addr", .number error.address.toNat), ("len", .number error.length)]

end Overrun

/-- A request to an image. -/
inductive Access where
  /-- Put a block in at an address. -/
  | write (address : Address) (data : List UInt8)
  /-- Read one byte. -/
  | readByte (address : Address)
  /-- Put one byte in. -/
  | writeByte (address : Address) (value : UInt8)
  /-- Read two bytes as a number. -/
  | readWord (address : Address)
  /-- Read the bytes of a range. -/
  | readSlice (address : Address) (length : Nat)
  /-- Read the bytes of a range and put others in their place. -/
  | revise (address : Address) (length : Nat) (change : Vector UInt8 length → Vector UInt8 length)

/-- What an image answers. -/
inductive Access.Reply where
  /-- The request is carried out and has nothing to tell. -/
  | done
  /-- The byte read. -/
  | byte (value : UInt8)
  /-- The number read. -/
  | word (value : UInt16)
  /-- The bytes read. -/
  | slice (values : List UInt8)
  /-- The block does not fit, and nothing is written. -/
  | refused (error : Overrun)
  /-- The range is not inside the image. -/
  | fault
deriving DecidableEq

namespace Image

variable {size : Nat}

/-- Put a block in at an address: an error if it would run past the machine's memory, nothing at
all if the image is too short for it. -/
def write? (image : Image size) (address : Address) (data : List UInt8) :
    Option (Except Overrun (Image size)) :=
  if address.toNat + data.length > Memory.size then some (.error ⟨address, data.length⟩)
  else (image.splice? address data.toArray.toVector).map .ok

/-- The reply to an access, and the image after it. -/
def perform (image : Image size) : Access → Access.Reply × Image size
  | .write address data =>
    match image.write? address data with
    | some (.ok written) => (.done, written)
    | some (.error error) => (.refused error, image)
    | none => (.fault, image)
  | .readByte address =>
    match image.byte? address with
    | some value => (.byte value, image)
    | none => (.fault, image)
  | .writeByte address value =>
    match image.splice? address #v[value] with
    | some written => (.done, written)
    | none => (.fault, image)
  | .readWord address =>
    match image.word? address with
    | some value => (.word value, image)
    | none => (.fault, image)
  | .readSlice address length =>
    match image.slice? address length with
    | some found => (.slice found.toList, image)
    | none => (.fault, image)
  | .revise address length change =>
    match image.slice? address length with
    | some found =>
      match image.splice? address (change found) with
      | some written => (.slice found.toList, written)
      | none => (.fault, image)
    | none => (.fault, image)

/-- The replies to a run of accesses, in order, and the image after all of them. -/
def performAll (image : Image size) : List Access → List Access.Reply × Image size
  | [] => ([], image)
  | access :: later =>
    let (reply, next) := image.perform access
    let (replies, final) := next.performAll later
    (reply :: replies, final)

end Image

end Cosmac
