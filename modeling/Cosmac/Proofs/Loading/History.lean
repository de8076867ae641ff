/-
**Histories: what memory holds after any number of loads.**

Loads by every way follow each other in any order, and some of them fail. What stands at a place
afterwards comes from the last load that succeeded with a program that reaches the place, so a
short program leaves the end of a longer one before it where it was; everything else is as it was
at the start.

* `Load`, `Machine.load`, `Machine.loadAll` — a load by one of the ways, and a run of them.
* `Machine.programsLoaded` — the programs of the loads of a run that succeeded.
* `lastByte?` — the byte at an offset of the last program that reaches it.
* `Machine.load_eq` — every load is its verdict, settled.
* `Machine.loadAll_overlay` — what a run leaves.
-/

import Cosmac.Proofs.Loading.ByPath

namespace Cosmac

/-! ### Loads -/

/-- A load of a program, by one of the ways. -/
inductive Load where
  /-- Of bytes at hand, into the machine's memory. -/
  | ofBytes (program : List UInt8)
  /-- From a source, into the machine. -/
  | ofSource (source : Source)
  /-- From a path, into the machine's memory. -/
  | ofPathIntoMemory (disk : Disk) (path : String)
  /-- From a path, into the machine. -/
  | ofPath (disk : Disk) (path : String)

namespace Load

/-- The bytes that a load finds where it looks for a program. -/
def contents : Load → List UInt8
  | .ofBytes program => program
  | .ofSource source => source.offering.bytes
  | .ofPathIntoMemory disk path | .ofPath disk path =>
    match disk path with
    | .ok handle => handle.contents.offering.bytes
    | .error _ => []

/-- What a load comes to. -/
def verdict : Load → Verdict
  | .ofBytes program =>
    if program.length ≤ programCapacity then .ok program
    else .error (.tooLarge program.length programCapacity)
  | .ofSource source => source.offering.verdict
  | .ofPathIntoMemory disk path | .ofPath disk path => disk.verdict path

end Load

/-- The error that a report tells of. -/
def LoadReport.failure? {α : Type} (report : LoadReport α) : Option LoadError :=
  match report.outcome with
  | .ok _ => none
  | .error error => some error

/-- The error that a verdict is. -/
def Verdict.failure? : Verdict → Option LoadError
  | .ok _ => none
  | .error error => some error

namespace Machine

/-- Why a load failed, if it did, and the machine after it. -/
def load (machine : Machine) : Load → Option LoadError × Machine
  | .ofBytes program =>
    match machine.memory.loadBytes program with
    | .ok memory => (none, { machine with memory })
    | .error error => (some error, machine)
  | .ofSource source =>
    let report := machine.loadSource source
    (report.failure?, report.target)
  | .ofPathIntoMemory disk path =>
    let report := machine.memory.loadPath disk path
    (report.failure?, { machine with memory := report.target })
  | .ofPath disk path =>
    let report := machine.loadPath disk path
    (report.failure?, report.target)

/-- The machine after a run of loads. -/
def loadAll (machine : Machine) (loads : List Load) : Machine :=
  loads.foldl (fun machine load => (machine.load load).2) machine

/-- The programs of the loads of a run that succeed, in order. -/
def programsLoaded (machine : Machine) : List Load → List (List UInt8)
  | [] => []
  | load :: later =>
    let (failure, next) := machine.load load
    if failure = none then load.contents :: next.programsLoaded later
    else next.programsLoaded later

end Machine

/-- The byte at an offset of the last program that reaches it. -/
def lastByte? (programs : List (List UInt8)) (offset : Nat) : Option UInt8 :=
  programs.reverse.findSome? fun program => program[offset]?

theorem lastByte?_append (first later : List (List UInt8)) (offset : Nat) :
    lastByte? (first ++ later) offset = (lastByte? later offset).or (lastByte? first offset) := by
  rw [lastByte?, List.reverse_append, List.findSome?_append]
  rfl

theorem lastByte?_singleton (program : List UInt8) (offset : Nat) :
    lastByte? [program] offset = program[offset]? := by
  simp [lastByte?]

/-! ### One load -/

/-- The program of a load that succeeds is what it found. -/
theorem Offering.bytes_of_verdict {offering : Offering} {program : List UInt8}
    (good : offering.verdict = .ok program) : program = offering.bytes := by
  unfold verdict at good
  split at good
  · cases good
  · split at good
    · cases good
    · cases good
      rfl

theorem Verdict.eq_ok_of_located {path : String} {verdict : Verdict} {program : List UInt8}
    (good : verdict.located path = .ok program) : verdict = .ok program := by
  unfold located at good
  split at good
  · cases good
  · exact good

theorem Disk.contents_of_verdict {disk : Disk} {path : String} {program : List UInt8}
    (good : disk.verdict path = .ok program) :
    ∃ handle, disk path = .ok handle ∧ program = handle.contents.offering.bytes := by
  cases opened : disk path with
  | error error =>
    simp only [verdict, opened] at good
    cases good
  | ok handle =>
    refine ⟨handle, rfl, ?_⟩
    simp only [verdict, opened] at good
    split at good
    · cases good
    · split at good
      · cases good
      · split at good
        · cases good
        · exact Offering.bytes_of_verdict (Verdict.eq_ok_of_located good)

theorem Load.contents_of_verdict {load : Load} {program : List UInt8}
    (good : load.verdict = .ok program) : program = load.contents := by
  cases load with
  | ofBytes given =>
    simp only [verdict] at good
    split at good
    · cases good
      rfl
    · cases good
  | ofSource source => exact Offering.bytes_of_verdict good
  | ofPathIntoMemory disk path | ofPath disk path =>
    obtain ⟨handle, opened, found⟩ := Disk.contents_of_verdict good
    rw [contents, opened]
    exact found

/-- A report that counts the program of a verdict fails as the verdict does. -/
theorem LoadReport.failure?_of_map {α : Type} {report : LoadReport α} {verdict : Verdict}
    (counted : report.outcome = verdict.map List.length) : report.failure? = verdict.failure? := by
  rw [failure?, counted]
  cases verdict <;> rfl

namespace Machine

/-- **Every load is its verdict, settled.** -/
theorem load_eq (machine : Machine) (load : Load) :
    machine.load load = (load.verdict.failure?, machine.settle load.verdict) := by
  cases load with
  | ofBytes program =>
    simp only [Machine.load, Load.verdict, Memory.loadBytes_eq]
    by_cases fits : program.length ≤ programCapacity
    · rw [if_pos fits, if_pos fits]
      rfl
    · rw [if_neg fits, if_neg fits]
      rfl
  | ofSource source =>
    have counted : (machine.loadSource source).outcome =
        source.offering.verdict.map List.length := by rw [loadSource_eq]
    simp only [Machine.load, LoadReport.failure?_of_map counted]
    rw [loadSource_eq]
    rfl
  | ofPathIntoMemory disk path =>
    obtain ⟨counted, target⟩ := machine.memory.loadPath_eq disk path
    simp only [Machine.load, LoadReport.failure?_of_map counted, target]
    rfl
  | ofPath disk path =>
    obtain ⟨counted, target⟩ := machine.loadPath_eq disk path
    simp only [Machine.load, LoadReport.failure?_of_map counted, target]
    rfl

/-! ### Runs of loads -/

theorem loadAll_cons (machine : Machine) (load : Load) (later : List Load) :
    machine.loadAll (load :: later) = (machine.settle load.verdict).loadAll later := by
  rw [loadAll, List.foldl_cons, load_eq]
  rfl

theorem programsLoaded_cons (machine : Machine) (load : Load) (later : List Load) :
    machine.programsLoaded (load :: later) =
      load.verdict.toOption.toList ++ (machine.settle load.verdict).programsLoaded later := by
  rw [programsLoaded, load_eq]
  cases good : load.verdict with
  | ok program =>
    rw [Load.contents_of_verdict good]
    rfl
  | error error => rfl

/-- **One load at one place.** A program that reaches the place puts its byte there; a shorter one,
and a load that fails, leave the byte as it was. -/
theorem getElem_settle (machine : Machine) (verdict : Verdict) (offset : Nat)
    (inside : programStart.toNat + offset < Memory.size) :
    (machine.settle verdict).memory.bytes[programStart.toNat + offset] =
      (lastByte? verdict.toOption.toList offset).getD
        machine.memory.bytes[programStart.toNat + offset] := by
  cases verdict with
  | ok program =>
    show (machine.memory.withProgram program).bytes[programStart.toNat + offset] = _
    rw [Memory.getElem_withProgram, if_pos (Nat.le_add_right _ _), Nat.add_sub_cancel_left]
    exact congrArg (Option.getD · _) (lastByte?_singleton program offset).symm
  | error error => rfl

/-- Below the place of a program a load changes nothing. -/
theorem getElem_settle_below (machine : Machine) (verdict : Verdict) (position : Nat)
    (inside : position < Memory.size) (below : position < programStart.toNat) :
    (machine.settle verdict).memory.bytes[position] = machine.memory.bytes[position] := by
  cases verdict with
  | ok program =>
    show (machine.memory.withProgram program).bytes[position] = _
    rw [Memory.getElem_withProgram, if_neg (Nat.not_le.mpr below)]
  | error error => rfl

/-- **A run at one place**: the last program that reaches the place decides. The induction is on
the run; what a later load leaves alone is what the earlier ones put there. -/
theorem getElem_loadAll (machine : Machine) (loads : List Load) (offset : Nat)
    (inside : programStart.toNat + offset < Memory.size) :
    (machine.loadAll loads).memory.bytes[programStart.toNat + offset] =
      (lastByte? (machine.programsLoaded loads) offset).getD
        machine.memory.bytes[programStart.toNat + offset] := by
  induction loads generalizing machine with
  | nil => rfl
  | cons load later ih =>
    simp only [loadAll_cons, programsLoaded_cons, lastByte?_append, ih, getElem_settle]
    cases lastByte? ((machine.settle load.verdict).programsLoaded later) offset <;> rfl

theorem getElem_loadAll_below (machine : Machine) (loads : List Load) (position : Nat)
    (inside : position < Memory.size) (below : position < programStart.toNat) :
    (machine.loadAll loads).memory.bytes[position] = machine.memory.bytes[position] := by
  induction loads generalizing machine with
  | nil => rfl
  | cons load later ih =>
    simp only [loadAll_cons, ih]
    exact machine.getElem_settle_below load.verdict position inside below

/-- Nothing but memory changes in a run. -/
theorem loadAll_frame (machine : Machine) (loads : List Load) :
    machine.loadAll loads = { machine with memory := (machine.loadAll loads).memory } := by
  induction loads generalizing machine with
  | nil => rfl
  | cons load later ih =>
    rw [loadAll_cons]
    exact ih (machine.settle load.verdict)

/-- **What a run of loads leaves.** A byte of the room for programs is the one that the last
program put there that reaches it; all below, and all but memory, is as it was. A machine just
switched on keeps its font, its zeros and its program counter. -/
theorem loadAll_overlay (machine : Machine) (loads : List Load) :
    (∀ offset (inside : 0x200 + offset < Memory.size),
      (machine.loadAll loads).memory.bytes[0x200 + offset] =
        (lastByte? (machine.programsLoaded loads) offset).getD
          machine.memory.bytes[0x200 + offset]) ∧
    (∀ position (inside : position < Memory.size), position < 0x200 →
      (machine.loadAll loads).memory.bytes[position] = machine.memory.bytes[position]) ∧
    machine.loadAll loads = { machine with memory := (machine.loadAll loads).memory } ∧
    (∀ index (inside : index < fontSize) (here : 0x050 + index < Memory.size),
      (powerOn.loadAll loads).memory.bytes[0x050 + index] = font[index]) ∧
    (∀ position (inside : position < Memory.size),
      position < 0x050 ∨ 0x0a0 ≤ position ∧ position < 0x200 →
        (powerOn.loadAll loads).memory.bytes[position] = 0) ∧
    (powerOn.loadAll loads).pc = 0x200 := by
  refine ⟨?_, ?_, machine.loadAll_frame loads, ?_, ?_, ?_⟩
  · exact fun offset inside => machine.getElem_loadAll loads offset inside
  · exact fun position inside below => machine.getElem_loadAll_below loads position inside below
  · intro index inside here
    have below : 0x050 + index < 0x200 := by
      unfold fontSize at inside
      omega
    exact (powerOn.getElem_loadAll_below loads _ here below).trans
      (Memory.font_powerOn index inside here)
  · intro position inside outside
    have below : position < 0x200 := by omega
    refine (powerOn.getElem_loadAll_below loads position inside below).trans
      (Memory.zero_powerOn position inside ?_)
    exact outside.imp id And.left
  · rw [loadAll_frame]
    rfl

/-- Each shorter program leaves the end of a longer one, and a load that fails leaves them all. -/
theorem loadAll_overlay_reload :
    let found : Disk := fun _ => .ok ⟨.ok ⟨true, 1⟩, .ofBytes [7]⟩
    let lost : Disk := fun _ => .error (.system .noEntry)
    let loads : List Load := [.ofSource ⟨[.bytes [1, 2, 3, 4]], none⟩, .ofBytes [9, 9],
      .ofPath found "short", .ofPath lost "lost"]
    (powerOn.loadAll loads).memory.bytes[0x200 + 0] = 7 ∧
      (powerOn.loadAll loads).memory.bytes[0x200 + 1] = 9 ∧
      (powerOn.loadAll loads).memory.bytes[0x200 + 3] = 4 := by
  intro found lost loads
  refine ⟨?_, ?_, ?_⟩
  · rw [(loadAll_overlay powerOn loads).1 0 (by decide)]
    rfl
  · rw [(loadAll_overlay powerOn loads).1 1 (by decide)]
    rfl
  · rw [(loadAll_overlay powerOn loads).1 3 (by decide)]
    rfl

end Machine

end Cosmac
