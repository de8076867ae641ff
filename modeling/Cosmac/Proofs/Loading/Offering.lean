/-
**Offerings: the bytes that a source hands out when it is read without a limit.**

Interruptions are passed over. The bytes end at the first read that gives none, at the first other
failure, or at the end of the source; a byte that is repeated for ever never ends them.

* `Source.offering` — the bytes of a source and how they end.
* `Offering.Reaches` — whether there are at least so many bytes.
* `Offering.first` — the first bytes, up to a limit.
* `Source.draw_eq` — drawing up to a limit gives the first bytes of the offering, and meets the
  failure at its end only if the limit is not reached before it.
-/

import Cosmac.Loading.Source

namespace Cosmac

/-! ### Chunks -/

namespace Chunk

/-- The bytes of a chunk; a failure has none. -/
def data : Chunk → List UInt8
  | .bytes data => data
  | .failure _ => []

/-- Whether a chunk is a failure that only says that reading was interrupted. -/
def isInterruption : Chunk → Bool
  | .bytes _ => false
  | .failure error => error.kind = .interrupted

end Chunk

/-! ### Offerings -/

/-- How the bytes of a source end. -/
inductive Ending where
  /-- At the end of the source, or at a read that gives no bytes. -/
  | closed
  /-- At a failure. -/
  | failed (error : IoError)
  /-- Never: a byte is repeated for ever. -/
  | endless (value : UInt8)
deriving DecidableEq

namespace Ending

/-- Whether there is no end. -/
def isEndless : Ending → Bool
  | endless _ => true
  | _ => false

/-- The failure at the end. -/
def failure? : Ending → Option IoError
  | failed error => some error
  | _ => none

/-- The byte that is repeated `count` times once all others are used up, if one is. -/
def refill (count : Nat) : Ending → List UInt8
  | endless value => List.replicate count value
  | _ => []

theorem length_refill_of_isEndless {ending : Ending} (endless : ending.isEndless = true)
    (count : Nat) : (ending.refill count).length = count := by
  cases ending with
  | closed => cases endless
  | failed error => cases endless
  | endless value => exact List.length_replicate

theorem refill_of_not_isEndless {ending : Ending} (ends : ending.isEndless ≠ true)
    (count : Nat) : ending.refill count = [] := by
  cases ending with
  | closed => rfl
  | failed error => rfl
  | endless value => exact absurd rfl ends

end Ending

/-- What a source hands out. -/
structure Offering where
  /-- The bytes, but for those that are repeated for ever. -/
  bytes : List UInt8
  ending : Ending
deriving DecidableEq

namespace Offering

/-- There are at least so many bytes. -/
def Reaches (offering : Offering) (count : Nat) : Prop :=
  count ≤ offering.bytes.length ∨ offering.ending.isEndless = true

instance (offering : Offering) (count : Nat) : Decidable (offering.Reaches count) :=
  inferInstanceAs (Decidable (_ ∨ _))

/-- The first bytes, as many as there are up to a limit. -/
def first (offering : Offering) (limit : Nat) : List UInt8 :=
  offering.bytes.take limit ++ offering.ending.refill (limit - offering.bytes.length)

/-- The offering with bytes handed out before it. -/
def after (bytes : List UInt8) (offering : Offering) : Offering :=
  ⟨bytes ++ offering.bytes, offering.ending⟩

/-- The offering without its first bytes. -/
def drop (count : Nat) (offering : Offering) : Offering :=
  ⟨offering.bytes.drop count, offering.ending⟩

theorem reaches_zero (offering : Offering) : offering.Reaches 0 :=
  Or.inl (Nat.zero_le _)

theorem first_zero (offering : Offering) : offering.first 0 = [] := by
  obtain ⟨bytes, ending⟩ := offering
  cases ending <;> simp [first, Ending.refill]

/-- A limit that is reached is filled. -/
theorem length_first {offering : Offering} {limit : Nat} (reached : offering.Reaches limit) :
    (offering.first limit).length = limit := by
  rw [first, List.length_append, List.length_take]
  by_cases endless : offering.ending.isEndless = true
  · rw [Ending.length_refill_of_isEndless endless]
    omega
  · have enough : limit ≤ offering.bytes.length := reached.resolve_right endless
    rw [Ending.refill_of_not_isEndless endless, List.length_nil]
    omega

/-- Below a limit that is not reached stand all bytes. -/
theorem first_of_not_reaches {offering : Offering} {limit : Nat}
    (short : ¬ offering.Reaches limit) : offering.first limit = offering.bytes := by
  have few : offering.bytes.length < limit := Nat.lt_of_not_le fun enough => short (Or.inl enough)
  have ends : offering.ending.isEndless ≠ true := fun endless => short (Or.inr endless)
  rw [first, Ending.refill_of_not_isEndless ends, List.append_nil]
  exact List.take_of_length_le (Nat.le_of_lt few)

theorem length_lt_of_not_reaches {offering : Offering} {limit : Nat}
    (short : ¬ offering.Reaches limit) : offering.bytes.length < limit :=
  Nat.lt_of_not_le fun enough => short (Or.inl enough)

/-- **A limit is reached exactly if that many bytes come first.** -/
theorem reaches_iff_length_first (offering : Offering) (limit : Nat) :
    offering.Reaches limit ↔ (offering.first limit).length = limit := by
  constructor
  · exact length_first
  · intro full
    refine Decidable.byContradiction fun short => ?_
    have few := length_lt_of_not_reaches short
    rw [first_of_not_reaches short] at full
    omega

theorem reaches_after (bytes : List UInt8) (offering : Offering) (limit : Nat) :
    (offering.after bytes).Reaches limit ↔ offering.Reaches (limit - bytes.length) := by
  simp only [Reaches, after, List.length_append, Nat.sub_le_iff_le_add, Nat.add_comm]

theorem first_after (bytes : List UInt8) (offering : Offering) (limit : Nat) :
    (offering.after bytes).first limit =
      bytes.take limit ++ offering.first (limit - bytes.length) := by
  simp only [first, after, List.take_append, List.length_append, Nat.sub_sub, List.append_assoc]

theorem drop_after (bytes : List UInt8) (offering : Offering) (count : Nat) :
    (offering.after bytes).drop count =
      (offering.drop (count - bytes.length)).after (bytes.drop count) := by
  simp only [drop, after, List.drop_append]

/-- What a draw up to a limit gives: the first bytes, and the failure at the end unless the limit
is reached. -/
def draw (offering : Offering) (limit : Nat) : Drawn :=
  ⟨offering.first limit, if offering.Reaches limit then none else offering.ending.failure?⟩

theorem draw_zero (offering : Offering) : offering.draw 0 = ⟨[], none⟩ := by
  rw [draw, offering.first_zero, if_pos offering.reaches_zero]

/-- What comes before takes its share of the limit. -/
theorem draw_after (bytes : List UInt8) (offering : Offering) (limit : Nat) :
    (offering.after bytes).draw limit =
      ⟨bytes.take limit ++ (offering.draw (limit - bytes.length)).bytes,
        (offering.draw (limit - bytes.length)).failure⟩ := by
  simp only [draw, first_after, reaches_after]
  rfl

end Offering

namespace Source

/-- What a source hands out: its chunks without interruptions, as long as they have bytes. -/
def offering (source : Source) : Offering :=
  let heard := source.chunks.filter fun chunk => !chunk.isInterruption
  { bytes := (heard.takeWhile fun chunk => chunk.data ≠ []).flatMap Chunk.data
    ending :=
      match (heard.dropWhile fun chunk => chunk.data ≠ []).head? with
      | some (.failure error) => .failed error
      | some (.bytes _) => .closed
      | none => source.tail.elim .closed .endless }

/-! ### The offering, chunk by chunk -/

theorem offering_nil : offering ⟨[], none⟩ = ⟨[], .closed⟩ := rfl

theorem offering_repeated (value : UInt8) : offering ⟨[], some value⟩ = ⟨[], .endless value⟩ := rfl

section Chunks

variable (tail : Option UInt8) (later : List Chunk)

theorem offering_interruption {error : IoError} (interrupted : error.kind = .interrupted) :
    offering ⟨.failure error :: later, tail⟩ = offering ⟨later, tail⟩ := by
  simp [offering, Chunk.isInterruption, interrupted]

theorem offering_failure {error : IoError} (lasting : error.kind ≠ .interrupted) :
    offering ⟨.failure error :: later, tail⟩ = ⟨[], .failed error⟩ := by
  simp [offering, Chunk.isInterruption, Chunk.data, lasting]

theorem offering_empty : offering ⟨.bytes [] :: later, tail⟩ = ⟨[], .closed⟩ := by
  simp [offering, Chunk.isInterruption, Chunk.data]

theorem offering_bytes {data : List UInt8} (full : data ≠ []) :
    offering ⟨.bytes data :: later, tail⟩ = (offering ⟨later, tail⟩).after data := by
  simp [offering, Offering.after, Chunk.isInterruption, Chunk.data, full]

end Chunks

/-! ### Drawing -/

theorem drawChunks_zero (tail : Option UInt8) (chunks : List Chunk) :
    drawChunks tail 0 chunks = ⟨[], none⟩ := by
  cases chunks with
  | nil => cases tail <;> rfl
  | cons chunk later => cases chunk <;> simp [drawChunks]

/-- **Chunks are drawn as they are offered.** The induction is on the chunks; each takes its share
of the limit. -/
theorem drawChunks_eq (tail : Option UInt8) (limit : Nat) (chunks : List Chunk) :
    drawChunks tail limit chunks = (offering ⟨chunks, tail⟩).draw limit := by
  by_cases spent : limit = 0
  · rw [spent, drawChunks_zero, Offering.draw_zero]
  induction chunks generalizing limit with
  | nil =>
    cases tail with
    | none =>
      rw [offering_nil]
      simp [drawChunks, Offering.draw, Offering.first, Ending.refill, Ending.failure?]
    | some value =>
      rw [offering_repeated]
      simp [drawChunks, Offering.draw, Offering.first, Offering.Reaches, Ending.refill,
        Ending.isEndless]
  | cons chunk later ih =>
    cases chunk with
    | failure error =>
      rw [drawChunks, if_neg spent]
      by_cases interrupted : error.kind = .interrupted
      · rw [if_pos interrupted, offering_interruption tail later interrupted]
        exact ih limit spent
      · rw [if_neg interrupted, offering_failure tail later interrupted]
        simp [Offering.draw, Offering.first, Offering.Reaches, Ending.refill, Ending.isEndless,
          Ending.failure?, spent]
    | bytes data =>
      rw [drawChunks]
      by_cases empty : data = []
      · rw [if_pos (Or.inr empty), empty, offering_empty]
        simp [Offering.draw, Offering.first, Ending.refill, Ending.failure?]
      · have share : limit - (data.take limit).length = limit - data.length := by
          rw [List.length_take]
          omega
        have rest : drawChunks tail (limit - data.length) later =
            (offering ⟨later, tail⟩).draw (limit - data.length) := by
          by_cases full : limit - data.length = 0
          · rw [full, drawChunks_zero, Offering.draw_zero]
          · exact ih _ full
        rw [if_neg (not_or.mpr ⟨spent, empty⟩), offering_bytes tail later empty,
          Offering.draw_after]
        simp only [share, rest]

/-- **A draw takes the first bytes of the offering**, and meets the failure at its end only if the
limit is not reached before it. -/
theorem draw_eq (source : Source) (limit : Nat) :
    source.draw limit = source.offering.draw limit :=
  drawChunks_eq source.tail limit source.chunks

end Source

end Cosmac
