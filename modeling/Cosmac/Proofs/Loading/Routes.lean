/-
**Routes: the ways of loading agree.**

The same bytes come to the same machine from memory, from a source in any number of reads, and from
a file that is known to hold them. Each way has a check of its own against the room for a program:
the length of the bytes, one byte more than fits, the size that the file claims. All draw the same
line, and behind it the write into memory has nothing left to refuse.

* `Cuts` — chunks that hand out given bytes, piece by piece and with interruptions anywhere.
* `offering_of_cuts` — what a source of such chunks hands out.
* `Machine.routes_agree` — the four ways side by side.
-/

import Cosmac.Loading.FileTree
import Cosmac.Proofs.Loading.ByPath

namespace Cosmac

/-! ### Bytes in pieces -/

/-- Chunks that hand out bytes in pieces, none of them empty, with interruptions anywhere. -/
inductive Cuts : List Chunk → List UInt8 → Prop
  | done : Cuts [] []
  | interrupted {error : IoError} {later : List Chunk} {data : List UInt8} :
      error.kind = .interrupted → Cuts later data → Cuts (.failure error :: later) data
  | piece {bytes : List UInt8} {later : List Chunk} {data : List UInt8} :
      bytes ≠ [] → Cuts later data → Cuts (.bytes bytes :: later) (bytes ++ data)

/-- **How bytes are cut does not show in what is handed out.** -/
theorem offering_of_cuts {chunks : List Chunk} {data : List UInt8} (cuts : Cuts chunks data) :
    Source.offering ⟨chunks, none⟩ = ⟨data, .closed⟩ := by
  induction cuts with
  | done => exact Source.offering_nil
  | interrupted kind _ ih =>
    rw [Source.offering_interruption none _ kind]
    exact ih
  | piece full _ ih =>
    rw [Source.offering_bytes none _ full, ih]
    rfl

/-- A source of given bytes hands out these, also if there are none. -/
theorem offering_ofBytes (data : List UInt8) :
    (Source.ofBytes data).offering = ⟨data, .closed⟩ := by
  by_cases empty : data = []
  · rw [empty]
    exact Source.offering_empty none []
  · rw [Source.ofBytes, Source.offering_bytes none [] empty, Source.offering_nil, Offering.after,
      List.append_nil]

namespace Offering

theorem reaches_closed_iff {data : List UInt8} {count : Nat} :
    Reaches ⟨data, .closed⟩ count ↔ count ≤ data.length :=
  ⟨fun reached => reached.resolve_right nofun, Or.inl⟩

end Offering

/-! ### Each way, for bytes that fit and for bytes that do not -/

namespace Memory

variable (memory : Memory) {data : List UInt8}

theorem loadSource_of_fitting {source : Source} (offered : source.offering = ⟨data, .closed⟩)
    (fits : data.length ≤ programCapacity) :
    memory.loadSource source = ⟨.ok data.length, memory.withProgram data, data.length⟩ := by
  have short : ¬ Offering.Reaches ⟨data, .closed⟩ (programCapacity + 1) := fun reached => by
    have beyond := Offering.reaches_closed_iff.mp reached
    omega
  rw [loadSource_eq, offered, Offering.verdict_of_closed short rfl,
    Offering.first_of_not_reaches short]
  rfl

theorem loadSource_of_large {source : Source} (offered : source.offering = ⟨data, .closed⟩)
    (large : programCapacity < data.length) :
    memory.loadSource source =
      ⟨.error (.tooLarge (programCapacity + 1) programCapacity), memory, programCapacity + 1⟩ := by
  have reached : Offering.Reaches ⟨data, .closed⟩ (programCapacity + 1) := Or.inl large
  rw [loadSource_eq, offered, Offering.verdict_of_reaches reached, Offering.length_first reached]
  rfl

variable {disk : Disk} {path : String} {contents : Source}

theorem loadPath_of_fitting (opened : disk path = .ok ⟨.ok ⟨true, data.length⟩, contents⟩)
    (offered : contents.offering = ⟨data, .closed⟩) (fits : data.length ≤ programCapacity) :
    memory.loadPath disk path = ⟨.ok data.length, memory.withProgram data, data.length⟩ := by
  have small : ¬ data.length > programCapacity := Nat.not_lt.mpr fits
  simp only [loadPath, opened, Bool.true_eq_false, if_false, if_neg small,
    memory.loadSource_of_fitting offered fits]
  rfl

theorem loadPath_of_large (opened : disk path = .ok ⟨.ok ⟨true, data.length⟩, contents⟩)
    (large : programCapacity < data.length) :
    memory.loadPath disk path =
      .refusal memory (.tooLarge data.length programCapacity) := by
  have beyond : data.length > programCapacity := large
  simp only [loadPath, opened, Bool.true_eq_false, if_false, if_pos beyond]

end Memory

/-! ### Side by side -/

namespace Machine

/-- **The ways of loading agree.** Bytes at hand, a source that hands them out in pieces, and the
file that holds them, read into memory or into the machine, come to the same machine if the bytes
fit, with the program in its memory; if they do not, no way changes anything, and only the source
cannot tell how many there are. The write into memory refuses nothing that fits. -/
theorem routes_agree (machine : Machine) {data : List UInt8} {chunks : List Chunk}
    {disk : Disk} {path : String} {contents : Source} (cuts : Cuts chunks data)
    (opened : disk path = .ok ⟨.ok ⟨true, data.length⟩, contents⟩)
    (holds : contents.offering = ⟨data, .closed⟩) :
    (data.length ≤ 3584 →
      let loaded := machine.memory.withProgram data
      machine.memory.loadBytes data = .ok loaded ∧
      machine.loadSource ⟨chunks, none⟩ =
        ⟨.ok data.length, { machine with memory := loaded }, data.length⟩ ∧
      machine.memory.loadPath disk path = ⟨.ok data.length, loaded, data.length⟩ ∧
      machine.loadPath disk path =
        ⟨.ok data.length, { machine with memory := loaded }, data.length⟩) ∧
    (3584 < data.length →
      machine.memory.loadBytes data = .error (.tooLarge data.length 3584) ∧
      machine.loadSource ⟨chunks, none⟩ = ⟨.error (.tooLarge 3585 3584), machine, 3585⟩ ∧
      machine.memory.loadPath disk path =
        ⟨.error (.tooLarge data.length 3584), machine.memory, 0⟩ ∧
      machine.loadPath disk path = ⟨.error (.tooLarge data.length 3584), machine, 0⟩) ∧
    ∀ (memory : Memory) (program : List UInt8), program.length ≤ 3584 →
      memory.write? programStart program = some (.ok (memory.withProgram program)) ∧
        memory.loadBytes program = .ok (memory.withProgram program) := by
  have offered := offering_of_cuts cuts
  refine ⟨fun fits => ⟨?_, ?_, ?_, ?_⟩,
    fun large => ⟨?_, ?_, ?_, ?_⟩, fun memory program fits => ?_⟩
  · exact machine.memory.loadBytes_of_fitting fits
  · rw [loadSource, machine.memory.loadSource_of_fitting offered fits]
    rfl
  · exact machine.memory.loadPath_of_fitting opened holds fits
  · rw [loadPath, machine.memory.loadPath_of_fitting opened holds fits]
    rfl
  · exact machine.memory.loadBytes_of_large large
  · rw [loadSource, machine.memory.loadSource_of_large offered large]
    rfl
  · exact machine.memory.loadPath_of_large opened large
  · rw [loadPath, machine.memory.loadPath_of_large opened large]
    rfl
  · exact ⟨memory.write?_program fits, memory.loadBytes_of_fitting fits⟩

/-- Three bytes in two pieces with an interruption between them, and in a file among others; and
four thousand, of which a source shows no more than one over the room. -/
theorem routes_agree_in_tree :
    Cuts [.bytes [1], .failure (.bare .interrupted), .bytes [2, 3]] [1, 2, 3] ∧
      (powerOn.loadPath (FileTree.ofListing
        [⟨"games", .directory, false⟩, ⟨"games/pong.ch8", .file [1, 2, 3], false⟩]).disk
          "games/pong.ch8").outcome = .ok 3 ∧
      (powerOn.loadSource ⟨[.bytes (List.replicate 4000 0)], none⟩).outcome =
        .error (.tooLarge 3585 3584) := by
  have cuts : Cuts [.bytes [1], .failure (.bare .interrupted), .bytes [2, 3]] [1, 2, 3] :=
    .piece (by decide) (.interrupted rfl (.piece (by decide) .done))
  have opened : (FileTree.ofListing
      [⟨"games", .directory, false⟩, ⟨"games/pong.ch8", .file [1, 2, 3], false⟩]).disk
        "games/pong.ch8" = .ok (Content.file [1, 2, 3]).opened := rfl
  obtain ⟨_, _, _, found⟩ :=
    (routes_agree powerOn cuts opened (offering_ofBytes [1, 2, 3])).1 (by decide)
  have many : Cuts [.bytes (List.replicate 4000 0)] (List.replicate 4000 0) := by
    have full : List.replicate 4000 (0 : UInt8) ≠ [] := by
      rw [Ne, List.replicate_eq_nil_iff]
      decide
    have piece := Cuts.piece full .done
    rwa [List.append_nil] at piece
  let zeros : Disk := fun _ => .ok (Content.file (List.replicate 4000 0)).opened
  have stored : zeros "zeros" = .ok (Content.file (List.replicate 4000 0)).opened := rfl
  obtain ⟨_, large, _⟩ := (routes_agree powerOn many stored (offering_ofBytes _)).2.1
    (by rw [List.length_replicate]; decide)
  refine ⟨cuts, ?_, ?_⟩
  · rw [found]
    rfl
  · rw [large]

end Machine

end Cosmac
