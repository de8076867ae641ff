/-
**Words: a program as the machine fetches it.**

A program of words is loaded as bytes, the high one of each word first, and each word is read back
from its place. Any program may be read as words, also from odd places on: behind its end a word is
made of what memory held before the load, so the last word of a program of odd length is mixed.
Fetching reads the word at the program counter into the opcode and changes nothing else; at the last
address of memory there is no word.

* `encode` — words as bytes, with `wordOf_bytes` and `getElem?_encode`.
* `Supply`, `Machine.AllLoad` — bytes as each way of loading finds them, and all ways going well.
* `Memory.word?_withProgram`, `Memory.word?_last`, `Memory.word?_encode` — words of memory with a
  program in it: anywhere from its start on, at its last byte, and of a program of words.
* `Workbench.serve_fetch` — what fetching does.
* `Machine.loaded_words_fetched` — words loaded by every way, any bytes as words, and fetching.
-/

import Cosmac.Proofs.Loading.Routes
import Cosmac.Proofs.Memory.Accesses
import Cosmac.Workbench

namespace Cosmac

/-! ### Words as bytes -/

/-- The two bytes of a word, the high one first. -/
def bytesOf (word : UInt16) : List UInt8 := [(word >>> 8).toUInt8, word.toUInt8]

/-- Words as bytes, the high one of each word first. -/
def encode (words : List UInt16) : List UInt8 := words.flatMap bytesOf

/-- A word is made of its two bytes. -/
theorem wordOf_bytes (word : UInt16) : wordOf (word >>> 8).toUInt8 word.toUInt8 = word := by
  have bound := word.toNat_lt
  have high : (word >>> 8).toUInt8.toNat = word.toNat / 256 := by
    rw [UInt16.toNat_toUInt8, UInt16.toNat_shiftRight]
    have shift : word.toNat >>> 8 = word.toNat / 256 := Nat.shiftRight_eq_div_pow _ 8
    show (word.toNat >>> 8) % 256 = _
    omega
  have low : word.toUInt8.toNat = word.toNat % 256 := UInt16.toNat_toUInt8 word
  apply UInt16.toNat_inj.mp
  rw [toNat_wordOf, high, low]
  omega

theorem length_encode (words : List UInt16) : (encode words).length = 2 * words.length := by
  induction words with
  | nil => rfl
  | cons word later ih =>
    rw [encode, List.flatMap_cons, List.length_append, ← encode, ih, List.length_cons]
    show 2 + 2 * later.length = 2 * (later.length + 1)
    omega

/-- **Each word stands at twice its number.** -/
theorem getElem?_encode {words : List UInt16} {number : Nat} (inside : number < words.length) :
    (encode words)[2 * number]? = some (words[number] >>> 8).toUInt8 ∧
      (encode words)[2 * number + 1]? = some words[number].toUInt8 := by
  induction words generalizing number with
  | nil => cases inside
  | cons word later ih =>
    cases number with
    | zero => exact ⟨rfl, rfl⟩
    | succ before => exact ih (Nat.lt_of_succ_lt_succ inside)

/-! ### Every way of loading -/

/-- Bytes as each way of loading finds them: a source that hands them out, and a path at which a
regular file that holds them is opened. -/
structure Supply (data : List UInt8) where
  source : Source
  disk : Disk
  path : String
  handle : Handle
  metadata : Metadata
  offered : source.offering = ⟨data, .closed⟩
  opened : disk path = .ok handle
  known : handle.metadata = .ok metadata
  regular : metadata.isRegular = true
  claimed : metadata.size ≤ programCapacity
  holds : handle.contents.offering = ⟨data, .closed⟩

/-- All ways of loading go well: of bytes at hand, from a source, and from a path into memory and
into the machine. All but the first count the bytes. -/
structure Machine.AllLoad (machine : Machine) {data : List UInt8} (supply : Supply data)
    (count : Nat) (loaded : Memory) : Prop where
  ofBytes : machine.memory.loadBytes data = .ok loaded
  ofSource : machine.loadSource supply.source =
    ⟨.ok count, { machine with memory := loaded }, count⟩
  ofPathIntoMemory : machine.memory.loadPath supply.disk supply.path = ⟨.ok count, loaded, count⟩
  ofPath : machine.loadPath supply.disk supply.path =
    ⟨.ok count, { machine with memory := loaded }, count⟩

namespace Supply

/-- Bytes that fit, in one piece and as they are in every file. -/
def plain (data : List UInt8) (fits : data.length ≤ programCapacity) : Supply data where
  source := .ofBytes data
  disk := fun _ => .ok ⟨.ok ⟨true, data.length⟩, .ofBytes data⟩
  path := "program"
  handle := ⟨.ok ⟨true, data.length⟩, .ofBytes data⟩
  metadata := ⟨true, data.length⟩
  offered := offering_ofBytes data
  opened := rfl
  known := rfl
  regular := rfl
  claimed := fits
  holds := offering_ofBytes data

variable {data : List UInt8} (supply : Supply data)

theorem loadPath_eq (memory : Memory) (fits : data.length ≤ programCapacity) :
    memory.loadPath supply.disk supply.path =
      ⟨.ok data.length, memory.withProgram data, data.length⟩ := by
  have small : ¬ supply.metadata.size > programCapacity := Nat.not_lt.mpr supply.claimed
  simp only [Memory.loadPath, supply.opened, supply.known, supply.regular, if_neg small,
    Bool.true_eq_false, if_false, memory.loadSource_of_fitting supply.holds fits]
  rfl

/-- **Bytes that fit are loaded by every way.** -/
theorem allLoad (machine : Machine) (fits : data.length ≤ programCapacity) :
    machine.AllLoad supply data.length (machine.memory.withProgram data) where
  ofBytes := machine.memory.loadBytes_of_fitting fits
  ofSource := by
    rw [Machine.loadSource, machine.memory.loadSource_of_fitting supply.offered fits]
    rfl
  ofPathIntoMemory := supply.loadPath_eq machine.memory fits
  ofPath := by
    rw [Machine.loadPath, supply.loadPath_eq machine.memory fits]
    rfl

end Supply

/-! ### Words of memory -/

namespace Memory

variable (memory : Memory) {program : List UInt8}

theorem held_withProgram (fits : program.length ≤ programCapacity) {position : Nat}
    (behind : programStart.toNat ≤ position) :
    (memory.withProgram program).held position =
      program[position - programStart.toNat]?.getD (memory.held position) := by
  have room := programStart_add_capacity
  have inside : programStart.toNat + program.length ≤ Memory.size := by omega
  have laid := memory.held_laid inside position
  rwa [if_pos behind] at laid

/-- **A word of memory with a program in it**: each of its bytes is the program's as far as that
reaches, and what memory held before behind it. -/
theorem word?_withProgram (fits : program.length ≤ programCapacity) {address : Address}
    (behind : programStart.toNat ≤ address.toNat) (inside : address.toNat + 2 ≤ Memory.size) :
    (memory.withProgram program).word? address =
      some (wordOf
        (program[address.toNat - programStart.toNat]?.getD (memory.held address.toNat))
        (program[address.toNat + 1 - programStart.toNat]?.getD
          (memory.held (address.toNat + 1)))) := by
  rw [Image.word?_eq, if_pos inside, memory.held_withProgram fits behind,
    memory.held_withProgram fits (Nat.le_succ_of_le behind)]

/-- The place at an offset from the start of a program. -/
theorem toNat_place {offset : Nat} (inside : offset < programCapacity) :
    (UInt16.ofNat (0x200 + offset)).toNat = 0x200 + offset := by
  have room : programCapacity = 3584 := programCapacity_eq
  exact UInt16.toNat_ofNat_of_lt' (by show _ < 65536; omega)

/-- **The word at the last byte of a program** has one byte of the program and one that was there
before. -/
theorem word?_last (fits : program.length < programCapacity) {last : Nat}
    (inside : last < program.length) (ends : program.length = last + 1) :
    (memory.withProgram program).word? (UInt16.ofNat (0x200 + last)) =
      some (wordOf program[last] (memory.held (0x200 + program.length))) := by
  have room := programStart_add_capacity
  have start : programStart.toNat = 0x200 := rfl
  have place := toNat_place (Nat.lt_trans inside fits)
  have here : 0x200 + last - programStart.toNat = last := by omega
  have next : 0x200 + last + 1 - programStart.toNat = program.length := by omega
  have behind : 0x200 + last + 1 = 0x200 + program.length := by omega
  rw [memory.word?_withProgram (Nat.le_of_lt fits) (by omega) (by omega), place, here, next, behind,
    List.getElem?_eq_getElem inside, List.getElem?_eq_none (Nat.le_refl _), Option.getD_some,
    Option.getD_none]

/-- **A program of words is read back word by word.** -/
theorem word?_encode {words : List UInt16} (fits : (encode words).length ≤ programCapacity)
    {number : Nat} (inside : number < words.length) :
    (memory.withProgram (encode words)).word? (UInt16.ofNat (0x200 + 2 * number)) =
      some words[number] := by
  have room := programStart_add_capacity
  have long := length_encode words
  have start : programStart.toNat = 0x200 := rfl
  have place := toNat_place (by omega : 2 * number < programCapacity)
  obtain ⟨high, low⟩ := getElem?_encode inside
  have first : 0x200 + 2 * number - programStart.toNat = 2 * number := by omega
  have second : 0x200 + 2 * number + 1 - programStart.toNat = 2 * number + 1 := by omega
  rw [memory.word?_withProgram fits (by omega) (by omega), place, first, second, high, low,
    Option.getD_some, Option.getD_some, wordOf_bytes]

end Memory

/-! ### Fetching -/

/-- **Fetching** takes the word at the program counter for the opcode and changes nothing else; if
there is no word, it is a fault. -/
theorem Workbench.serve_fetch (bench : Workbench) :
    bench.serve .fetch =
      match bench.machine.memory.word? bench.machine.pc with
      | some opcode =>
        (.fetched opcode, { bench with machine := { bench.machine with opcode } })
      | none => (.fault, bench) := by
  rw [serve, Machine.fetch?]
  cases bench.machine.memory.word? bench.machine.pc <;> rfl

namespace Machine

/-- **Loaded words are fetched back.** A program of words is loaded by every way and each word
stands at its place. Any other program is loaded so too: from its start to the last pair of
addresses, a word is made of the program's bytes and, behind them, of what memory held before, so
that the word at the last byte of a program of odd length has one of each. Fetching takes the word
at the program counter, which is there up to address 4094, and changes the opcode alone; from 4095
on it is a fault that changes nothing. -/
theorem loaded_words_fetched (machine : Machine) :
    (∀ (words : List UInt16) (supply : Supply (encode words)), words.length ≤ 1792 →
      ∃ loaded, machine.AllLoad supply (2 * words.length) loaded ∧
        ∀ number (inside : number < words.length),
          loaded.word? (UInt16.ofNat (0x200 + 2 * number)) = some words[number]) ∧
    (∀ (data : List UInt8) (supply : Supply data), data.length ≤ 3584 →
      ∃ loaded, machine.AllLoad supply data.length loaded ∧
        (∀ address : Address, 0x200 ≤ address.toNat → address.toNat ≤ 0xffe →
          let byte := fun position => data[position - 0x200]?.getD (machine.memory.held position)
          ∃ word, loaded.word? address = some word ∧
            word.toNat = 256 * (byte address.toNat).toNat + (byte (address.toNat + 1)).toNat) ∧
        (∀ last (inside : last < data.length), data.length = last + 1 → data.length % 2 = 1 →
          ∃ word, loaded.word? (UInt16.ofNat (0x200 + last)) = some word ∧
            word.toNat = 256 * data[last].toNat +
              (machine.memory.held (0x200 + data.length)).toNat)) ∧
    (∀ bench : Workbench,
      (bench.machine.pc.toNat ≤ 4094 →
        ∃ opcode, bench.machine.memory.word? bench.machine.pc = some opcode ∧
          bench.serve .fetch =
            (.fetched opcode, { bench with machine := { bench.machine with opcode } })) ∧
      (4095 ≤ bench.machine.pc.toNat → bench.serve .fetch = (.fault, bench))) := by
  refine ⟨fun words supply few => ?_, fun data supply fits => ?_, fun bench => ⟨?_, ?_⟩⟩
  · have long := length_encode words
    have fits : (encode words).length ≤ programCapacity := by
      rw [long, programCapacity_eq]
      omega
    have loads := supply.allLoad machine fits
    rw [long] at loads
    exact ⟨_, loads, fun number inside => machine.memory.word?_encode fits inside⟩
  · refine ⟨_, supply.allLoad machine fits, fun address behind inside => ?_,
      fun last inside ends odd => ?_⟩
    · exact ⟨_, machine.memory.word?_withProgram fits behind (Nat.add_le_add_right inside 2),
        toNat_wordOf _ _⟩
    · have short : data.length < programCapacity := by
        rw [programCapacity_eq]
        omega
      exact ⟨_, machine.memory.word?_last short inside ends, toNat_wordOf _ _⟩
  · intro inside
    have found : bench.machine.memory.word? bench.machine.pc = some _ :=
      (Image.word?_eq _ _).trans (if_pos (Nat.add_le_add_right inside 2))
    refine ⟨_, found, ?_⟩
    rw [Workbench.serve_fetch, found]
  · intro beyond
    have outside : ¬ bench.machine.pc.toNat + 2 ≤ Memory.size := by
      rw [Memory.size]
      omega
    rw [Workbench.serve_fetch, Image.word?_eq, if_neg outside]

/-- Two words; three bytes in two pieces, the last of them in a word with a zero behind it; and a
program counter at the last pair of addresses and at the last address. -/
theorem loaded_words_fetched_at_ends :
    (∃ loaded, powerOn.memory.loadBytes [0x00, 0xe0, 0x12, 0x34] = .ok loaded ∧
      loaded.word? 0x202 = some 0x1234) ∧
    (∃ loaded, powerOn.loadSource
        ⟨[.bytes [1], .failure (.bare .interrupted), .bytes [2, 3]], none⟩ =
          ⟨.ok 3, { powerOn with memory := loaded }, 3⟩ ∧
      ∃ word, loaded.word? 0x202 = some word ∧ word.toNat = 256 * 3 + 0) ∧
    (∃ opcode, Workbench.serve ⟨{ powerOn with pc := 4094 }, ⟨[]⟩, .fresh, []⟩ .fetch =
      (.fetched opcode, ⟨{ powerOn with pc := 4094, opcode }, ⟨[]⟩, .fresh, []⟩)) ∧
    Workbench.serve ⟨{ powerOn with pc := 4095 }, ⟨[]⟩, .fresh, []⟩ .fetch =
      (.fault, ⟨{ powerOn with pc := 4095 }, ⟨[]⟩, .fresh, []⟩) := by
  obtain ⟨words, bytes, fetches⟩ := powerOn.loaded_words_fetched
  refine ⟨?_, ?_, ?_, ?_⟩
  · obtain ⟨loaded, loads, found⟩ :=
      words [0x00e0, 0x1234] (.plain _ (by decide)) (by decide)
    exact ⟨loaded, loads.ofBytes, found 1 (by decide)⟩
  · have cuts : Cuts [.bytes [1], .failure (.bare .interrupted), .bytes [2, 3]] [1, 2, 3] :=
      .piece (by decide) (.interrupted rfl (.piece (by decide) .done))
    obtain ⟨loaded, loads, -, mixed⟩ := bytes [1, 2, 3]
      { Supply.plain [1, 2, 3] (by decide) with
        source := _
        offered := offering_of_cuts cuts } (by decide)
    obtain ⟨word, found, parts⟩ := mixed 2 (by decide) rfl rfl
    have old : powerOn.memory.held (0x200 + ([1, 2, 3] : List UInt8).length) = 0 :=
      (Image.held_of_lt _ (by decide)).trans (Memory.zero_powerOn _ (by decide) (.inr (by decide)))
    rw [old] at parts
    exact ⟨loaded, loads.ofSource, word, found, parts⟩
  · obtain ⟨opcode, -, fetched⟩ :=
      (fetches ⟨{ powerOn with pc := 4094 }, ⟨[]⟩, .fresh, []⟩).1 (by decide)
    exact ⟨opcode, fetched⟩
  · exact (fetches ⟨{ powerOn with pc := 4095 }, ⟨[]⟩, .fresh, []⟩).2 (by decide)

end Machine

end Cosmac
