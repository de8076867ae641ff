/-
**Loading a program into memory, all of it or nothing.**

A program goes to `0x200`. It is loaded in full or memory stays as it was.

* `Memory.loadBytes` — from bytes at hand.
* `Memory.loadSource` — from a source. One byte more than fits is asked for, so that a source that
  never ends is found too large.
* `Memory.loadPath` — from the file at a path. Opening it comes first, then whether it is a regular
  file, then the size that it claims; only then is it read.
* `LoadReport` — how a load went: how many bytes or why not, what was loaded into, and how many
  bytes were taken from the source.
-/

import Cosmac.Loading.Disk
import Cosmac.Loading.LoadError
import Cosmac.Memory.Access
import Cosmac.Memory.Font

namespace Cosmac

/-- How a load went. -/
structure LoadReport (α : Type) where
  /-- How many bytes were loaded, or why none were. -/
  outcome : Except LoadError Nat
  /-- What was loaded into, as it is afterwards. -/
  target : α
  /-- How many bytes were taken from the source. -/
  taken : Nat

namespace LoadReport

variable {α β : Type}

/-- The report of a load that ended before anything was read. -/
def refusal (target : α) (error : LoadError) : LoadReport α := ⟨.error error, target, 0⟩

/-- The same report about something that the target belongs to. -/
def map (place : α → β) (report : LoadReport α) : LoadReport β where
  outcome := report.outcome
  target := place report.target
  taken := report.taken

/-- The report with the path put back into an input failure. -/
def located (path : String) (report : LoadReport α) : LoadReport α where
  outcome :=
    match report.outcome with
    | .error (.unreadable error) => .error (.ofIoError path error)
    | outcome => outcome
  target := report.target
  taken := report.taken

end LoadReport

namespace Memory

/-- Put a program in at its place, if it fits. -/
def loadBytes (memory : Memory) (program : List UInt8) : Except LoadError Memory :=
  let tooLarge := LoadError.tooLarge program.length programCapacity
  if program.length > programCapacity then .error tooLarge
  else
    match memory.write? programStart program with
    | some (.ok loaded) => .ok loaded
    | _ => .error tooLarge

/-- Load a program from a source. -/
def loadSource (memory : Memory) (source : Source) : LoadReport Memory :=
  let drawn := source.draw (programCapacity + 1)
  let taken := drawn.bytes.length
  match drawn.failure with
  | some error => ⟨.error (.unreadable error), memory, taken⟩
  | none =>
    match memory.loadBytes drawn.bytes with
    | .ok loaded => ⟨.ok taken, loaded, taken⟩
    | .error error => ⟨.error error, memory, taken⟩

/-- Load a program from the file at a path. -/
def loadPath (memory : Memory) (disk : Disk) (path : String) : LoadReport Memory :=
  match disk path with
  | .error error => .refusal memory (.ofIoError path error)
  | .ok handle =>
    match handle.metadata with
    | .error error => .refusal memory (.ofIoError path error)
    | .ok metadata =>
      if metadata.isRegular = false then .refusal memory (.notRegular path)
      else if metadata.size > programCapacity then
        .refusal memory (.tooLarge metadata.size programCapacity)
      else (memory.loadSource handle.contents).located path

end Memory

end Cosmac
