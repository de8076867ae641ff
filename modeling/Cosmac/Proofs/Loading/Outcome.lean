/-
**Loading from a source: how it ends.**

A load comes to a `Verdict`, a program or why there is none, before memory is touched. From a
source one byte more than fits is drawn. If the source hands out that many, the program is too
large, and nothing behind them counts; else a failure at the end of the bytes is the error of the
load, of whatever kind it is; else all bytes are the program.

* `Offering.verdict` — what a load from a source comes to.
* `Memory.settle` — memory after a verdict.
* `Memory.loadSource_eq` — a load from a source is its verdict, settled.
* `Machine.loadSource_outcome` — the three ends on a machine, with what is left of the source and
  what memory holds.
-/

import Cosmac.Machine
import Cosmac.Proofs.Loading.Reading
import Cosmac.Proofs.Memory.Blocks

namespace Cosmac

/-! ### Verdicts -/

/-- What a load comes to: a program, or why there is none. -/
abbrev Verdict := Except LoadError (List UInt8)

/-- Counting the bytes of a program keeps an error as it is. -/
theorem Verdict.eq_error_of_map {verdict : Verdict} {error : LoadError}
    (failed : verdict.map List.length = .error error) : verdict = .error error := by
  cases verdict with
  | ok program => cases failed
  | error met =>
    cases failed
    rfl

namespace Offering

variable {offering : Offering}

/-- What a load comes to that draws from a source. -/
def verdict (offering : Offering) : Verdict :=
  if offering.Reaches (programCapacity + 1) then
    .error (.tooLarge (programCapacity + 1) programCapacity)
  else
    match offering.ending with
    | .failed error => .error (.unreadable error)
    | _ => .ok offering.bytes

theorem verdict_of_reaches (reached : offering.Reaches (programCapacity + 1)) :
    offering.verdict = .error (.tooLarge (programCapacity + 1) programCapacity) :=
  if_pos reached

theorem verdict_of_failed {error : IoError} (short : ¬ offering.Reaches (programCapacity + 1))
    (failed : offering.ending = .failed error) :
    offering.verdict = .error (.unreadable error) := by
  rw [verdict, if_neg short, failed]

theorem verdict_of_closed (short : ¬ offering.Reaches (programCapacity + 1))
    (closed : offering.ending = .closed) : offering.verdict = .ok offering.bytes := by
  rw [verdict, if_neg short, closed]

end Offering

/-! ### Into memory -/

namespace Memory

/-- Memory after a load: with the program in it, or as it was. -/
def settle (memory : Memory) : Verdict → Memory
  | .ok program => memory.withProgram program
  | .error _ => memory

/-- **A load from a source is its verdict, settled.** As many bytes are taken as the source hands
out, but one more than fits at most. -/
theorem loadSource_eq (memory : Memory) (source : Source) :
    memory.loadSource source =
      ⟨source.offering.verdict.map List.length, memory.settle source.offering.verdict,
        (source.offering.first (programCapacity + 1)).length⟩ := by
  rw [loadSource, Source.draw_eq, Offering.draw]
  by_cases reached : source.offering.Reaches (programCapacity + 1)
  · have length := Offering.length_first reached
    have beyond : ¬ programCapacity + 1 ≤ programCapacity := by omega
    simp only [if_pos reached, Offering.verdict_of_reaches reached, loadBytes_eq, length,
      if_neg beyond, settle, Except.map]
  · have fits : source.offering.bytes.length ≤ programCapacity :=
      Nat.le_of_lt_succ (Offering.length_lt_of_not_reaches reached)
    simp only [if_neg reached, Offering.first_of_not_reaches reached]
    cases ending : source.offering.ending with
    | closed =>
      simp only [Offering.verdict_of_closed reached ending, Ending.failure?, loadBytes_eq,
        if_pos fits, settle, Except.map]
    | failed error =>
      simp only [Offering.verdict_of_failed reached ending, Ending.failure?, settle, Except.map]
    | endless value => exact absurd (Or.inr (by rw [ending]; rfl)) reached

end Memory

/-! ### Into a machine -/

namespace Machine

/-- The machine after a load: only memory can change. -/
def settle (machine : Machine) (verdict : Verdict) : Machine :=
  { machine with memory := machine.memory.settle verdict }

theorem loadSource_eq (machine : Machine) (source : Source) :
    machine.loadSource source =
      ⟨source.offering.verdict.map List.length, machine.settle source.offering.verdict,
        (source.offering.first (programCapacity + 1)).length⟩ := by
  rw [loadSource, Memory.loadSource_eq]
  rfl

/-- Whatever stands behind them, a byte more than fits is taken and nothing is loaded. -/
theorem loadSource_of_reaches (machine : Machine) {source : Source}
    (reached : source.offering.Reaches (programCapacity + 1)) :
    machine.loadSource source =
      ⟨.error (.tooLarge (programCapacity + 1) programCapacity), machine, programCapacity + 1⟩ := by
  rw [loadSource_eq, Offering.verdict_of_reaches reached, Offering.length_first reached]
  rfl

/-- **How a load from a source ends.** What the source hands out decides alone: more than fits, a
failure before that, or an end before that. A reader takes as many bytes whatever its buffers, and
if there are more than fit, it leaves the source right behind the one too many. -/
theorem loadSource_outcome (machine : Machine) (source : Source) :
    (∀ rooms turn, (source.readAll rooms turn 3585).1.bytes.length =
      (machine.loadSource source).taken) ∧
    (source.offering.Reaches 3585 →
      machine.loadSource source = ⟨.error (.tooLarge 3585 3584), machine, 3585⟩ ∧
        (∀ rooms turn, (source.readAll rooms turn 3585).2.offering =
          source.offering.drop 3585) ∧
        ∀ other : Source, other.offering.first 3585 = source.offering.first 3585 →
          machine.loadSource other = machine.loadSource source) ∧
    (∀ error, ¬ source.offering.Reaches 3585 → source.offering.ending = .failed error →
      machine.loadSource source =
        ⟨.error (.unreadable error), machine, source.offering.bytes.length⟩) ∧
    (¬ source.offering.Reaches 3585 → source.offering.ending = .closed →
      (machine.loadSource source).outcome = .ok source.offering.bytes.length ∧
        (machine.loadSource source).taken = source.offering.bytes.length ∧
        (machine.loadSource source).target =
          { machine with memory := (machine.loadSource source).target.memory } ∧
        ∀ position (inside : position < Memory.size),
          (machine.loadSource source).target.memory.bytes[position] =
            if 0x200 ≤ position then
              source.offering.bytes[position - 0x200]?.getD machine.memory.bytes[position]
            else machine.memory.bytes[position]) := by
  refine ⟨fun rooms turn => ?_, fun reached => ⟨?_, ?_, ?_⟩, fun error short failed => ?_,
    fun short closed => ?_⟩
  · rw [Source.readAll_eq, Source.draw_eq, loadSource_eq]
    rfl
  · exact machine.loadSource_of_reaches reached
  · intro rooms turn
    rw [Source.readAll_eq]
    exact Source.offering_rest reached
  · intro other same
    have full : other.offering.Reaches 3585 := by
      rw [Offering.reaches_iff_length_first, same]
      exact Offering.length_first reached
    exact (machine.loadSource_of_reaches full).trans (machine.loadSource_of_reaches reached).symm
  · have all := Offering.first_of_not_reaches short
    rw [loadSource_eq, Offering.verdict_of_failed short failed]
    exact congrArg _ (congrArg List.length all)
  · have all := Offering.first_of_not_reaches short
    rw [loadSource_eq, Offering.verdict_of_closed short closed]
    exact ⟨rfl, congrArg List.length all, rfl, fun position inside =>
      machine.memory.getElem_withProgram source.offering.bytes position inside⟩

/-- A failure right behind the last byte that is drawn is not met; one a byte before it is, and
gives no path. Interruptions do not count, and a read of no bytes is the end. -/
theorem loadSource_outcome_at_limit :
    (powerOn.loadSource
        ⟨[.bytes (List.replicate 3585 0), .failure (.bare .permissionDenied)], none⟩).outcome =
      .error (.tooLarge 3585 3584) ∧
    (powerOn.loadSource
        ⟨[.bytes (List.replicate 3584 0), .failure (.bare .notFound)], some 0⟩).outcome =
      .error (.unreadable (.bare .notFound)) ∧
    (powerOn.loadSource
        ⟨[.failure (.bare .interrupted), .bytes [1, 2], .bytes [3], .bytes [], .bytes [4]],
          none⟩).outcome = .ok 3 := by
  have zeros (count : Nat) (tail : Option UInt8) (error : IoError) (several : count ≠ 0)
      (lasting : error.kind ≠ .interrupted) :
      Source.offering ⟨[.bytes (List.replicate count 0), .failure error], tail⟩ =
        ⟨List.replicate count 0, .failed error⟩ := by
    have full : List.replicate count (0 : UInt8) ≠ [] := by
      rwa [Ne, List.replicate_eq_nil_iff]
    rw [Source.offering_bytes tail _ full, Source.offering_failure tail _ lasting,
      Offering.after, List.append_nil]
  refine ⟨?_, ?_, ?_⟩
  · rw [((loadSource_outcome powerOn _).2.1 _).1]
    rw [zeros 3585 none _ (by decide) (by decide)]
    exact Or.inl (Nat.le_of_eq List.length_replicate.symm)
  · have offered := zeros 3584 (some 0) (.bare .notFound) (by decide) (by decide)
    rw [(loadSource_outcome powerOn _).2.2.1 (.bare .notFound) _ (by rw [offered])]
    rw [offered]
    rintro (enough | endless)
    · rw [List.length_replicate] at enough
      exact absurd enough (by decide)
    · cases endless
  · exact ((loadSource_outcome powerOn _).2.2.2 (by decide) (by decide)).1

end Machine

end Cosmac
