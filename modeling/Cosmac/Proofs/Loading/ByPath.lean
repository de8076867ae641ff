/-
**Loading from a path: which of its checks decides.**

Opening comes first, then what is known of the file, then its kind, then the size that it claims;
only a regular file that claims to fit is read. An input error is told apart by its kind wherever
it arises, so a load at a path never reports a missing or a forbidden file as an input failure.

* `Disk.verdict` — what a load at a path comes to.
* `LoadError.At` — the errors that a load at a path can report.
* `Machine.loadPath_in_order` — each check in its place, and what is true of every failed load.
-/

import Cosmac.Proofs.Loading.Outcome

namespace Cosmac

/-! ### Input errors at a path -/

namespace LoadError

theorem ofIoError_of_notFound (path : String) {error : IoError} (kind : error.kind = .notFound) :
    ofIoError path error = missing path := by
  rw [ofIoError, kind]

theorem ofIoError_of_permissionDenied (path : String) {error : IoError}
    (kind : error.kind = .permissionDenied) : ofIoError path error = forbidden path := by
  rw [ofIoError, kind]

theorem ofIoError_of_other (path : String) {error : IoError} (found : error.kind ≠ .notFound)
    (allowed : error.kind ≠ .permissionDenied) : ofIoError path error = unreadable error := by
  unfold ofIoError
  split
  · exact absurd ‹_› found
  · exact absurd ‹_› allowed
  · rfl

/-- The errors that a load at a path can report. -/
inductive At (path : String) : LoadError → Prop
  | missing : At path (.missing path)
  | forbidden : At path (.forbidden path)
  /-- More bytes than the room for a program. -/
  | tooLarge (size : Nat) : programCapacity < size → At path (.tooLarge size programCapacity)
  /-- An input error, but none that says that the file is missing or forbidden. -/
  | unreadable (error : IoError) : error.kind ≠ .notFound → error.kind ≠ .permissionDenied →
      At path (.unreadable error)

/-- **An input error at a path is told apart by its kind.** -/
theorem at_ofIoError (path : String) (error : IoError) : (ofIoError path error).At path := by
  by_cases lost : error.kind = .notFound
  · rw [ofIoError_of_notFound path lost]
    exact .missing
  · by_cases denied : error.kind = .permissionDenied
    · rw [ofIoError_of_permissionDenied path denied]
      exact .forbidden
    · rw [ofIoError_of_other path lost denied]
      exact .unreadable error lost denied

theorem at_notRegular (path : String) : (notRegular path).At path :=
  .unreadable _ nofun nofun

theorem source_eq_some_iff {error : LoadError} {cause : IoError} :
    error.source = some cause ↔ error = .unreadable cause := by
  cases error <;> simp [source]

end LoadError

/-! ### Verdicts at a path -/

namespace Verdict

/-- The verdict with the path put back into an input failure. -/
def located (path : String) : Verdict → Verdict
  | .error (.unreadable error) => .error (.ofIoError path error)
  | verdict => verdict

/-- A verdict on what was read at a path is no missing and no forbidden file but at that path. -/
theorem at_located (path : String) (offering : Offering) {error : LoadError}
    (failed : located path offering.verdict = .error error) : error.At path := by
  unfold Offering.verdict at failed
  split at failed
  · cases failed
    exact .tooLarge _ (Nat.lt_succ_self _)
  · split at failed
    · cases failed
      exact LoadError.at_ofIoError path _
    · cases failed

end Verdict

/-- What a load at a path comes to. -/
def Disk.verdict (disk : Disk) (path : String) : Verdict :=
  match disk path with
  | .error error => .error (.ofIoError path error)
  | .ok handle =>
    match handle.metadata with
    | .error error => .error (.ofIoError path error)
    | .ok metadata =>
      if metadata.isRegular = false then .error (.notRegular path)
      else if metadata.size > programCapacity then
        .error (.tooLarge metadata.size programCapacity)
      else handle.contents.offering.verdict.located path

/-- **A load at a path reports what it can report there.** -/
theorem Disk.at_verdict {disk : Disk} {path : String} {error : LoadError}
    (failed : disk.verdict path = .error error) : error.At path := by
  unfold Disk.verdict at failed
  split at failed
  · cases failed
    exact LoadError.at_ofIoError path _
  · split at failed
    · cases failed
      exact LoadError.at_ofIoError path _
    · split at failed
      · cases failed
        exact LoadError.at_notRegular path
      · split at failed
        · cases failed
          exact .tooLarge _ ‹_›
        · exact Verdict.at_located path _ failed

/-- A report of anything but an input error stays as it is. -/
theorem LoadReport.located_of_other {α : Type} {path : String} {report : LoadReport α}
    (other : ∀ error, report.outcome ≠ .error (.unreadable error)) :
    report.located path = report := by
  obtain ⟨outcome, target, taken⟩ := report
  cases outcome with
  | ok count => rfl
  | error error =>
    cases error with
    | unreadable error => exact absurd rfl (other error)
    | missing lost => rfl
    | forbidden denied => rfl
    | tooLarge size room => rfl

/-! ### Into memory -/

namespace Memory

/-- The verdict on what is read is settled as it would be without the path, for a path changes
errors alone. -/
theorem located_loadSource (memory : Memory) (path : String) (source : Source) :
    (memory.loadSource source).located path =
      ⟨(source.offering.verdict.located path).map List.length,
        memory.settle (source.offering.verdict.located path),
        (source.offering.first (programCapacity + 1)).length⟩ := by
  rw [loadSource_eq]
  cases verdict : source.offering.verdict with
  | ok program => rfl
  | error error => cases error <;> rfl

/-- **A load at a path is its verdict, settled.** -/
theorem loadPath_eq (memory : Memory) (disk : Disk) (path : String) :
    (memory.loadPath disk path).outcome = (disk.verdict path).map List.length ∧
      (memory.loadPath disk path).target = memory.settle (disk.verdict path) := by
  cases opened : disk path with
  | error error =>
    simp only [loadPath, Disk.verdict, opened]
    exact ⟨rfl, rfl⟩
  | ok handle =>
    cases known : handle.metadata with
    | error error =>
      simp only [loadPath, Disk.verdict, opened, known]
      exact ⟨rfl, rfl⟩
    | ok metadata =>
      simp only [loadPath, Disk.verdict, opened, known, located_loadSource]
      by_cases special : metadata.isRegular = false
      · rw [if_pos special, if_pos special]
        exact ⟨rfl, rfl⟩
      · rw [if_neg special, if_neg special]
        by_cases large : metadata.size > programCapacity
        · rw [if_pos large, if_pos large]
          exact ⟨rfl, rfl⟩
        · rw [if_neg large, if_neg large]
          exact ⟨rfl, rfl⟩

end Memory

/-! ### Into a machine -/

namespace Machine

theorem loadPath_eq (machine : Machine) (disk : Disk) (path : String) :
    (machine.loadPath disk path).outcome = (disk.verdict path).map List.length ∧
      (machine.loadPath disk path).target = machine.settle (disk.verdict path) := by
  obtain ⟨outcome, target⟩ := machine.memory.loadPath_eq disk path
  refine ⟨outcome, ?_⟩
  rw [loadPath, settle, ← target]
  rfl

/-- A load that fails reports its verdict. -/
theorem verdict_of_loadPath (machine : Machine) {disk : Disk} {path : String} {error : LoadError}
    (failed : (machine.loadPath disk path).outcome = .error error) :
    disk.verdict path = .error error :=
  Verdict.eq_error_of_map ((machine.loadPath_eq disk path).1.symm.trans failed)

/-- What is read at a path is reported as from any source, but for an input error. -/
theorem loadPath_of_fitting (machine : Machine) {disk : Disk} {path : String} {handle : Handle}
    {metadata : Metadata} (opened : disk path = .ok handle)
    (known : handle.metadata = .ok metadata) (regular : metadata.isRegular = true)
    (fits : metadata.size ≤ programCapacity) :
    machine.loadPath disk path = (machine.loadSource handle.contents).located path := by
  have small : ¬ metadata.size > programCapacity := Nat.not_lt.mpr fits
  simp only [loadPath, Memory.loadPath, opened, known, regular, if_neg small, Bool.true_eq_false,
    if_false]
  rfl

/-- **Each check of a load at a path, in its place.** An error of opening or of asking what is
known of the file decides first, then the kind of the file whatever its size, then the size that
it claims; then it is read as any source, and an input error is told apart by its kind. A load
that fails changes nothing, and reports an error that belongs to the path. -/
theorem loadPath_in_order (machine : Machine) (disk : Disk) (path : String) :
    (∀ error, disk path = .error error →
      machine.loadPath disk path = ⟨.error (.ofIoError path error), machine, 0⟩) ∧
    (∀ handle, disk path = .ok handle →
      (∀ error, handle.metadata = .error error →
        machine.loadPath disk path = ⟨.error (.ofIoError path error), machine, 0⟩) ∧
      ∀ metadata, handle.metadata = .ok metadata →
        (metadata.isRegular = false →
          machine.loadPath disk path =
            ⟨.error (.unreadable (.described .other (path ++ " is not a regular file"))),
              machine, 0⟩) ∧
        (metadata.isRegular = true → 3584 < metadata.size →
          machine.loadPath disk path = ⟨.error (.tooLarge metadata.size 3584), machine, 0⟩) ∧
        (metadata.isRegular = true → metadata.size ≤ 3584 →
          (∀ error, (machine.loadSource handle.contents).outcome = .error (.unreadable error) →
            machine.loadPath disk path =
              { machine.loadSource handle.contents with
                outcome := .error (.ofIoError path error) }) ∧
          ((∀ error, (machine.loadSource handle.contents).outcome ≠ .error (.unreadable error)) →
            machine.loadPath disk path = machine.loadSource handle.contents) ∧
          (handle.contents.offering.Reaches 3585 →
            machine.loadPath disk path = ⟨.error (.tooLarge 3585 3584), machine, 3585⟩))) ∧
    (∀ error : IoError,
      (error.kind = .notFound → LoadError.ofIoError path error = .missing path) ∧
      (error.kind = .permissionDenied → LoadError.ofIoError path error = .forbidden path) ∧
      (error.kind ≠ .notFound → error.kind ≠ .permissionDenied →
        LoadError.ofIoError path error = .unreadable error)) ∧
    ∀ error, (machine.loadPath disk path).outcome = .error error →
      (machine.loadPath disk path).target = machine ∧ error.At path ∧
        ∀ cause, error.source = some cause ↔ error = .unreadable cause := by
  refine ⟨fun error refused => ?_, fun handle opened => ⟨fun error unknown => ?_,
    fun metadata known => ⟨fun special => ?_, fun regular large => ?_, fun regular fits => ?_⟩⟩,
    fun error => ⟨?_, ?_, ?_⟩, fun error failed => ⟨?_, ?_, fun cause => ?_⟩⟩
  · simp only [loadPath, Memory.loadPath, refused]
    rfl
  · simp only [loadPath, Memory.loadPath, opened, unknown]
    rfl
  · simp only [loadPath, Memory.loadPath, opened, known, if_pos special]
    rfl
  · have beyond : metadata.size > programCapacity := large
    simp only [loadPath, Memory.loadPath, opened, known, regular, if_pos beyond, Bool.true_eq_false,
      if_false]
    rfl
  · have read := machine.loadPath_of_fitting opened known regular fits
    refine ⟨fun error failed => ?_, fun other => ?_, fun reached => ?_⟩
    · rw [read, LoadReport.located, failed]
    · rw [read, LoadReport.located_of_other other]
    · rw [read, machine.loadSource_of_reaches reached]
      rfl
  · exact LoadError.ofIoError_of_notFound path
  · exact LoadError.ofIoError_of_permissionDenied path
  · exact LoadError.ofIoError_of_other path
  · rw [(machine.loadPath_eq disk path).2, machine.verdict_of_loadPath failed]
    rfl
  · exact Disk.at_verdict (machine.verdict_of_loadPath failed)
  · exact LoadError.source_eq_some_iff

/-- A device is refused for what it is and not for its size; a file that grows after it was asked
for its size is found too large when it is read. -/
theorem loadPath_in_order_at_limit :
    powerOn.loadPath (fun _ => .ok ⟨.ok ⟨false, 9999⟩, ⟨[], some 0⟩⟩) "zeros" =
        ⟨.error (.unreadable (.described .other "zeros is not a regular file")), powerOn, 0⟩ ∧
      powerOn.loadPath (fun _ => .ok ⟨.ok ⟨true, 3584⟩, ⟨[], some 0⟩⟩) "grown" =
        ⟨.error (.tooLarge 3585 3584), powerOn, 3585⟩ ∧
      powerOn.loadPath (fun _ => .ok ⟨.ok ⟨true, 2⟩,
        ⟨[.bytes [1], .failure (.bare .permissionDenied)], none⟩⟩) "taken away" =
        ⟨.error (.forbidden "taken away"), powerOn, 1⟩ := by
  have read : powerOn.loadSource ⟨[.bytes [1], .failure (.bare .permissionDenied)], none⟩ =
      ⟨.error (.unreadable (.bare .permissionDenied)), powerOn, 1⟩ := by
    rw [loadSource_eq, Offering.verdict_of_failed (by decide) rfl]
    rfl
  refine ⟨?_, ?_, ?_⟩
  · exact (((loadPath_in_order powerOn _ _).2.1 _ rfl).2 _ rfl).1 rfl
  · exact ((((loadPath_in_order powerOn _ _).2.1 _ rfl).2 _ rfl).2.2 rfl (by decide)).2.2
      (by decide)
  · rw [((((loadPath_in_order powerOn _ _).2.1 _ rfl).2 _ rfl).2.2 rfl (by decide)).1
      (.bare .permissionDenied) (congrArg LoadReport.outcome read), read]
    rfl

end Machine

end Cosmac
