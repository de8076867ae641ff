/-
**Reading: a source read into one buffer after another.**

A read gives at most what is left of the chunk at hand and at most what its buffer has room for. A
reader asks again and again, never for more than it still wants: it goes on over an interruption,
and stops at a read of no bytes, at any other failure, and once it wants nothing more.

* `Source.read` — one read.
* `Source.readAll` — a reader that wants a number of bytes; the sizes of its buffers are left open.
* `Source.rest` — what is left of a source once a number of bytes is drawn from it.
* `Source.readAll_eq` — whatever its buffers, a reader finds what a draw gives, and leaves the rest.
* `Source.offering_rest` — what is left after a draw that fills its limit hands out all but the
  bytes drawn.
-/

import Cosmac.Proofs.Loading.Offering
import Mathlib.Data.PNat.Notation

namespace Cosmac.Source

/-! ### One read -/

/-- What a read into a buffer gives, and the source after it. -/
def read (room : Nat) : Source → Except IoError (List UInt8) × Source
  | ⟨[], none⟩ => (.ok [], ⟨[], none⟩)
  | ⟨[], some value⟩ => (.ok (List.replicate room value), ⟨[], some value⟩)
  | ⟨.failure error :: later, tail⟩ => (.error error, ⟨later, tail⟩)
  | ⟨.bytes data :: later, tail⟩ =>
    (.ok (data.take room),
      ⟨if data.length ≤ room then later else .bytes (data.drop room) :: later, tail⟩)

/-- Only a chunk that is a failure fails a read, and the read takes it away. -/
theorem read_eq_error {source left : Source} {room : Nat} {error : IoError}
    (given : source.read room = (.error error, left)) :
    source = ⟨.failure error :: left.chunks, left.tail⟩ := by
  obtain ⟨chunks, tail⟩ := source
  cases chunks with
  | nil => cases tail <;> cases given
  | cons chunk later =>
    cases chunk with
    | bytes data => cases given
    | failure met =>
      cases given
      rfl

/-! ### Reading on -/

/-- Read until `limit` bytes are there or the source ends or fails; the buffer of the read that
stands at `turn` has room for that many bytes of `rooms`, but never for more than are wanted. -/
def readAll (rooms : Nat → ℕ+) (turn limit : Nat) (source : Source) : Drawn × Source :=
  if limit = 0 then (⟨[], none⟩, source)
  else
    match given : source.read (min (rooms turn) limit) with
    | (.error error, left) =>
      if error.kind = .interrupted then left.readAll rooms (turn + 1) limit
      else (⟨[], some error⟩, left)
    | (.ok data, left) =>
      if data = [] then (⟨[], none⟩, left)
      else
        let (drawn, final) := left.readAll rooms (turn + 1) (limit - data.length)
        (⟨data ++ drawn.bytes, drawn.failure⟩, final)
termination_by (limit, source.chunks.length)
decreasing_by
  · have shorter := congrArg (fun source => source.chunks.length) (read_eq_error given)
    simp only [List.length_cons] at shorter
    exact Prod.Lex.right _ (by omega)
  · rename_i wanted full
    have taken : 0 < data.length := List.length_pos_iff.mpr full
    exact Prod.Lex.left _ _ (by omega)

/-! ### What is left -/

/-- What is left of chunks once `limit` bytes are drawn from them. -/
def restChunks (limit : Nat) : List Chunk → List Chunk
  | [] => []
  | .failure error :: later =>
    if limit = 0 then .failure error :: later
    else if error.kind = .interrupted then restChunks limit later
    else later
  | .bytes data :: later =>
    if limit = 0 then .bytes data :: later
    else if data = [] then later
    else if data.length ≤ limit then restChunks (limit - data.length) later
    else .bytes (data.drop limit) :: later

/-- What is left of a source once `limit` bytes are drawn from it. -/
def rest (source : Source) (limit : Nat) : Source := ⟨restChunks limit source.chunks, source.tail⟩

theorem restChunks_zero (chunks : List Chunk) : restChunks 0 chunks = chunks := by
  cases chunks with
  | nil => rfl
  | cons chunk later => cases chunk <;> simp [restChunks]

theorem rest_zero (source : Source) : source.rest 0 = source := by
  rw [rest, restChunks_zero]

/-- **Exactly the bytes of the draw are taken.** What is left after a draw that fills its limit
hands out the offering without its first bytes; a failure that stands right behind them is still
ahead. -/
theorem offering_rest {source : Source} {limit : Nat} (reached : source.offering.Reaches limit) :
    (source.rest limit).offering = source.offering.drop limit := by
  obtain ⟨chunks, tail⟩ := source
  induction chunks generalizing limit with
  | nil => cases tail <;> simp [rest, restChunks, offering_nil, offering_repeated, Offering.drop]
  | cons chunk later ih =>
    by_cases spent : limit = 0
    · rw [spent, rest_zero]
      rfl
    cases chunk with
    | failure error =>
      by_cases interrupted : error.kind = .interrupted
      · rw [offering_interruption tail later interrupted] at reached ⊢
        rw [← ih reached, rest, restChunks, if_neg spent, if_pos interrupted, rest]
      · rw [offering_failure tail later interrupted] at reached
        rcases reached with enough | endless
        · exact absurd (Nat.le_zero.mp enough) spent
        · cases endless
    | bytes data =>
      by_cases empty : data = []
      · rw [empty, offering_empty] at reached
        rcases reached with enough | endless
        · exact absurd (Nat.le_zero.mp enough) spent
        · cases endless
      · rw [offering_bytes tail later empty] at reached ⊢
        rw [rest, restChunks, if_neg spent, if_neg empty]
        by_cases whole : data.length ≤ limit
        · have next := ih ((Offering.reaches_after _ _ _).mp reached)
          rw [if_pos whole]
          rw [rest] at next
          rw [next, Offering.drop_after, List.drop_of_length_le whole]
          rfl
        · have part : data.drop limit ≠ [] := fun nothing =>
            whole (List.drop_eq_nil_iff.mp nothing)
          rw [if_neg whole, offering_bytes tail later part, Offering.drop_after]
          have spare : limit - data.length = 0 := by omega
          rw [spare]
          rfl

/-! ### A chunk that is read in part -/

section Pieces

variable (tail : Option UInt8) (later : List Chunk) {data : List UInt8} {room : Nat}

/-- What is left of a chunk comes after what was read of it. -/
theorem offering_piece (wide : 0 < room) (part : room < data.length) :
    offering ⟨.bytes data :: later, tail⟩ =
      (offering ⟨.bytes (data.drop room) :: later, tail⟩).after (data.take room) := by
  have full : data ≠ [] := List.ne_nil_of_length_pos (Nat.lt_trans wide part)
  have left : data.drop room ≠ [] := fun nothing =>
    Nat.not_le.mpr part (List.drop_eq_nil_iff.mp nothing)
  rw [offering_bytes tail later full, offering_bytes tail later left, Offering.after,
    Offering.after, Offering.after, ← List.append_assoc, List.take_append_drop]

/-- The same bytes are left behind a limit, whether they are counted from the start of a chunk or
from where reading stopped in it. -/
theorem rest_piece {limit : Nat} (wide : 0 < room) (part : room < data.length)
    (within : room ≤ limit) :
    rest ⟨.bytes data :: later, tail⟩ limit =
      rest ⟨.bytes (data.drop room) :: later, tail⟩ (limit - room) := by
  have full : data ≠ [] := List.ne_nil_of_length_pos (Nat.lt_trans wide part)
  have left : data.drop room ≠ [] := fun nothing =>
    Nat.not_le.mpr part (List.drop_eq_nil_iff.mp nothing)
  have wanted : limit ≠ 0 := by omega
  rw [rest, restChunks, if_neg wanted, if_neg full]
  by_cases spent : limit - room = 0
  · have same : limit = room := by omega
    rw [spent, rest_zero, same, if_neg (Nat.not_le.mpr part)]
  · rw [rest, restChunks, if_neg spent, if_neg left, List.length_drop, List.drop_drop,
      Nat.add_sub_cancel' within, Nat.sub_sub_sub_cancel_right (Nat.le_of_lt part)]
    by_cases last : data.length ≤ limit
    · rw [if_pos last, if_pos (Nat.sub_le_sub_right last room)]
    · rw [if_neg last, if_neg (by omega)]

end Pieces

/-! ### A read is the beginning of a draw -/

/-- **A read that gives bytes begins a draw**: what is left gives the others. -/
theorem draw_of_read {source left : Source} {room limit : Nat} {data : List UInt8}
    (given : source.read room = (.ok data, left)) (within : room ≤ limit) (full : data ≠ []) :
    source.draw limit =
        ⟨data ++ (left.draw (limit - data.length)).bytes,
          (left.draw (limit - data.length)).failure⟩ ∧
      source.rest limit = left.rest (limit - data.length) := by
  obtain ⟨chunks, tail⟩ := source
  cases chunks with
  | nil =>
    cases tail with
    | none =>
      cases given
      exact absurd rfl full
    | some value =>
      cases given
      refine ⟨?_, rfl⟩
      simp only [draw, drawChunks, List.length_replicate, List.replicate_append_replicate]
      rw [Nat.add_sub_cancel' within]
  | cons chunk later =>
    cases chunk with
    | failure error => cases given
    | bytes all =>
      by_cases whole : all.length ≤ room
      · have taken : all.take room = all := List.take_of_length_le whole
        have below : all.length ≤ limit := Nat.le_trans whole within
        rw [read, if_pos whole, taken] at given
        cases given
        have wanted : limit ≠ 0 := by
          have := List.length_pos_iff.mpr full
          omega
        refine ⟨?_, ?_⟩
        · rw [draw_eq, draw_eq, offering_bytes tail later full, Offering.draw_after,
            List.take_of_length_le below]
        · rw [rest, restChunks, if_neg wanted, if_neg full, if_pos below, rest]
      · rw [read, if_neg whole] at given
        cases given
        have part : room < all.length := Nat.lt_of_not_le whole
        have wide : 0 < room := by
          refine Nat.pos_of_ne_zero fun narrow => full ?_
          rw [narrow, List.take_zero]
        have length : (all.take room).length = room := List.length_take_of_le (Nat.le_of_lt part)
        have below : (all.take room).length ≤ limit := by rwa [length]
        refine ⟨?_, ?_⟩
        · rw [draw_eq, draw_eq, offering_piece tail later wide part, Offering.draw_after,
            List.take_of_length_le below]
        · rw [length, rest_piece tail later wide part within]

/-- A read of no bytes ends a draw. -/
theorem draw_of_read_nil {source left : Source} {room limit : Nat} (wide : 0 < room)
    (given : source.read room = (.ok [], left)) (wanted : limit ≠ 0) :
    source.draw limit = ⟨[], none⟩ ∧ source.rest limit = left := by
  obtain ⟨chunks, tail⟩ := source
  cases chunks with
  | nil =>
    cases tail with
    | none =>
      cases given
      exact ⟨rfl, rfl⟩
    | some value =>
      have narrow := congrArg List.length (Except.ok.inj (Prod.mk.inj given).1)
      rw [List.length_replicate, List.length_nil] at narrow
      omega
  | cons chunk later =>
    cases chunk with
    | failure error => cases given
    | bytes all =>
      rw [read, Prod.mk.injEq, Except.ok.injEq, List.take_eq_nil_iff] at given
      obtain ⟨narrow | rfl, rfl⟩ := given
      · omega
      · simp [draw, drawChunks, rest, restChunks, wanted]

/-- A failure that is no interruption ends a draw. -/
theorem draw_of_read_failure {source left : Source} {room limit : Nat} {error : IoError}
    (given : source.read room = (.error error, left)) (lasting : error.kind ≠ .interrupted)
    (wanted : limit ≠ 0) :
    source.draw limit = ⟨[], some error⟩ ∧ source.rest limit = left := by
  rw [read_eq_error given]
  simp [draw, drawChunks, rest, restChunks, lasting, wanted]

/-- An interruption changes nothing for a draw. -/
theorem draw_of_read_interruption {source left : Source} {room limit : Nat} {error : IoError}
    (given : source.read room = (.error error, left)) (interrupted : error.kind = .interrupted)
    (wanted : limit ≠ 0) :
    source.draw limit = left.draw limit ∧ source.rest limit = left.rest limit := by
  rw [read_eq_error given]
  simp [draw, drawChunks, rest, restChunks, interrupted, wanted]

/-- **The sizes of its buffers do not matter to a reader**: it finds what a draw gives, and leaves
what a draw leaves. -/
theorem readAll_eq (rooms : Nat → ℕ+) (turn limit : Nat) (source : Source) :
    source.readAll rooms turn limit = (source.draw limit, source.rest limit) := by
  fun_induction readAll rooms turn limit source with
  | case1 turn source => rw [draw, drawChunks_zero, rest_zero]
  | case2 turn limit source wanted error left given interrupted ih =>
    obtain ⟨drawn, remains⟩ := draw_of_read_interruption given interrupted wanted
    rw [ih, drawn, remains]
  | case3 turn limit source wanted error left given lasting =>
    obtain ⟨drawn, remains⟩ := draw_of_read_failure given lasting wanted
    rw [drawn, remains]
  | case4 turn limit source wanted left given =>
    have wide : 0 < min (rooms turn : Nat) limit :=
      Nat.lt_min.mpr ⟨(rooms turn).property, Nat.pos_of_ne_zero wanted⟩
    obtain ⟨drawn, remains⟩ := draw_of_read_nil wide given wanted
    rw [drawn, remains]
  | case5 turn limit source wanted data left given full drawn final found ih =>
    obtain ⟨whole, remains⟩ := draw_of_read given (Nat.min_le_right _ _) full
    obtain ⟨rfl, rfl⟩ := Prod.mk.inj (found.symm.trans ih)
    rw [whole, remains]

end Cosmac.Source
