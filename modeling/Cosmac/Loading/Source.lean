/-
**Sources: where bytes come from, a chunk at a time.**

A `Source` is what a reader will meet: chunks in order, and after the last of them the end, or one
byte repeated for ever. A chunk is some bytes or a failure. Reading goes on over a failure that
only says that it was interrupted, stops at any other, and takes a chunk of no bytes for the end.

* `Source.draw` — the bytes that come out of a source up to a limit, and the failure that ended
  the reading, if one did. When the limit is reached nothing more is looked at.
* `Source.draw_length_le` — no more than the limit comes out.
-/

import Cosmac.Loading.IoError

namespace Cosmac

/-- What one read meets. -/
inductive Chunk where
  | bytes (data : List UInt8)
  | failure (error : IoError)

/-- What a reader will meet. -/
structure Source where
  /-- The chunks in order. -/
  chunks : List Chunk
  /-- The byte that comes for ever after the last chunk; without one the source ends there. -/
  tail : Option UInt8

/-- What came out of a source. -/
structure Drawn where
  bytes : List UInt8
  /-- The failure that ended the reading. -/
  failure : Option IoError
deriving DecidableEq

namespace Source

/-- Draw at most `limit` bytes from chunks with a tail after them. -/
def drawChunks (tail : Option UInt8) (limit : Nat) : List Chunk → Drawn
  | [] =>
    match tail with
    | some value => ⟨List.replicate limit value, none⟩
    | none => ⟨[], none⟩
  | .failure error :: later =>
    if limit = 0 then ⟨[], none⟩
    else if error.kind = .interrupted then drawChunks tail limit later
    else ⟨[], some error⟩
  | .bytes data :: later =>
    if limit = 0 ∨ data = [] then ⟨[], none⟩
    else
      let taken := data.take limit
      let rest := drawChunks tail (limit - taken.length) later
      ⟨taken ++ rest.bytes, rest.failure⟩

/-- Draw at most `limit` bytes from a source. -/
def draw (source : Source) (limit : Nat) : Drawn :=
  drawChunks source.tail limit source.chunks

/-- The source of these bytes and no others. -/
def ofBytes (data : List UInt8) : Source := ⟨[.bytes data], none⟩

theorem drawChunks_length_le (tail : Option UInt8) (limit : Nat) (chunks : List Chunk) :
    (drawChunks tail limit chunks).bytes.length ≤ limit := by
  induction chunks generalizing limit with
  | nil => cases tail <;> simp [drawChunks]
  | cons chunk later ih =>
    cases chunk with
    | failure error =>
      rw [drawChunks]
      split
      · exact Nat.zero_le _
      · split
        · exact ih limit
        · exact Nat.zero_le _
    | bytes data =>
      rw [drawChunks]
      split
      · exact Nat.zero_le _
      · have rest := ih (limit - (data.take limit).length)
        have taken : (data.take limit).length ≤ limit := List.length_take_le limit data
        rw [List.length_append]
        omega

theorem draw_length_le (source : Source) (limit : Nat) :
    (source.draw limit).bytes.length ≤ limit :=
  drawChunks_length_le source.tail limit source.chunks

end Source

end Cosmac
