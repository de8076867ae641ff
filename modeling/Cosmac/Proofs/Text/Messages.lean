/-
**What errors say.**

A message keeps everything that its error holds. An overrun can be read back from it, whatever its
numbers are. The messages of load errors begin in four ways, of which none begins another, so a path
that looks like another message is not taken for one; what comes after is the path, the two numbers
or the text of the input error. In the texts that spell out parts a path stands quoted, and no two
paths have the same quoted form.

* `Overrun.ofMessage?` — the overrun that a message speaks of.
* `Overrun.ofMessage?_message`, `Overrun.length_address` — it is read back, and how long its address
  is written.
* `LoadError.SaysSame`, `LoadError.message_eq_iff` — when two load errors have the same message.
* `LoadError.term_eq_iff` — which load errors have the term of one that no input error is
  underneath.
* `messages_lose_nothing` — all of this side by side.
-/

import Cosmac.Loading.LoadError
import Cosmac.Memory.Access
import Cosmac.Proofs.Text.Outlines
import Cosmac.Proofs.Text.Quotations

namespace Cosmac

open Text

/-! ### Overruns -/

namespace Overrun

variable (error : Overrun)

/-- The overrun that a message speaks of. -/
def ofMessage? (text : String) : Option Overrun :=
  (readNumeral? 10 text.toList).bind fun (length, afterLength) =>
    (readNumeral? 16 (afterLength.drop " bytes at 0x".length)).map fun (address, _) =>
      ⟨UInt16.ofNat address, length⟩

theorem toList_message : error.message.toList =
    Nat.toDigits 10 error.length ++ (" bytes at 0x".toList ++
      ((hexadecimal 3 error.address.toNat).toList ++ " runs past the end of memory".toList)) := by
  simp only [message, String.toList_append, toList_decimal, List.append_assoc]

/-- **An overrun is read back from its message.** -/
theorem ofMessage?_message : ofMessage? error.message = some error := by
  have middle : ∀ text, Stops (isDigit 10) (" bytes at 0x".toList ++ text) :=
    fun _ => stops_cons rfl _
  have ending : Stops (isDigit 16) " runs past the end of memory".toList := stops_cons rfl _
  have dropped : ∀ text, (" bytes at 0x".toList ++ text).drop " bytes at 0x".length = text :=
    fun text => List.drop_left' String.length_toList
  have address := readNumeral?_row (isDigit_of_mem_hexadecimal 3 error.address.toNat)
    (hexadecimal_ne_nil 3 error.address.toNat) ending
  rw [ofDigits_hexadecimal] at address
  rw [ofMessage?, toList_message, readNumeral?_toDigits (by decide) (by decide) _ (middle _),
    Option.bind_some]
  simp only [dropped, address, Option.map_some, UInt16.ofNat_toNat]

/-- **Messages of overruns differ if the overruns do.** -/
theorem message_inj {first second : Overrun} :
    first.message = second.message ↔ first = second := by
  refine ⟨fun same => ?_, congrArg message⟩
  have read := congrArg ofMessage? same
  rw [ofMessage?_message, ofMessage?_message] at read
  exact Option.some.inj read

/-- An address is written with three digits, and with four if it needs them. -/
theorem length_address (address : Address) :
    ("0x" ++ hexadecimal 3 address.toNat).length = if address.toNat < 0x1000 then 5 else 6 := by
  have three := Nat.length_toDigits_le_iff (b := 16) (n := address.toNat) (k := 3)
    (by decide) (by decide)
  have four := Nat.length_toDigits_le_iff (b := 16) (n := address.toNat) (k := 4)
    (by decide) (by decide)
  have below : address.toNat < 16 ^ 4 := address.toNat_lt
  have opening : "0x".length = 2 := rfl
  rw [String.length_append, opening, length_hexadecimal]
  split
  case isTrue small =>
    have short := three.mpr small
    omega
  case isFalse large =>
    have long : ¬ (Nat.toDigits 16 address.toNat).length ≤ 3 := fun short => large (three.mp short)
    have most := four.mpr below
    omega

end Overrun

/-! ### The kinds of load error -/

namespace LoadError

/-- The kinds of load error. -/
inductive Kind where
  | missing
  | forbidden
  | tooLarge
  | unreadable
deriving DecidableEq

/-- The kind of a load error. -/
def kind : LoadError → Kind
  | missing _ => .missing
  | forbidden _ => .forbidden
  | tooLarge _ _ => .tooLarge
  | unreadable _ => .unreadable

namespace Kind

/-- How the messages of a kind begin. -/
def messageStart : Kind → String
  | missing => "no program at "
  | forbidden => "not allowed to read program "
  | tooLarge => "program is "
  | unreadable => "failed reading program: "

/-- How the terms of a kind begin. -/
def termStart : Kind → String
  | missing => "NotFound("
  | forbidden => "PermissionDenied("
  | tooLarge => "ProgramTooLarge"
  | unreadable => "IoFailure("

/-- Texts of two kinds differ, if no kind's texts begin like another's. -/
theorem eq_of_start {start : Kind → String}
    (apart : ∀ first second : Kind, (start first).toList <+: (start second).toList → first = second)
    {first second : Kind} {rest ending : String}
    (same : start first ++ rest = start second ++ ending) : first = second := by
  have whole : (start first).toList ++ rest.toList = (start second).toList ++ ending.toList := by
    rw [← String.toList_append, same, String.toList_append]
  have begins : (start second).toList <+: (start first).toList ++ rest.toList := ⟨_, whole.symm⟩
  rcases List.prefix_or_prefix_of_prefix (List.prefix_append _ _) begins with shorter | longer
  · exact apart first second shorter
  · exact (apart second first longer).symm

theorem messageStart_apart (first second : Kind) :
    first.messageStart.toList <+: second.messageStart.toList → first = second := by
  cases first <;> cases second <;> decide

theorem termStart_apart (first second : Kind) :
    first.termStart.toList <+: second.termStart.toList → first = second := by
  cases first <;> cases second <;> decide

end Kind

theorem exists_message_eq (error : LoadError) :
    ∃ detail, error.message = error.kind.messageStart ++ detail := by
  cases error with
  | missing path => exact ⟨path, rfl⟩
  | forbidden path => exact ⟨path, rfl⟩
  | tooLarge size room =>
    exact ⟨_, String.append_assoc.trans (String.append_assoc.trans String.append_assoc)⟩
  | unreadable error => exact ⟨error.message, rfl⟩

theorem exists_term_eq (error : LoadError) : ∃ parts, error.term = error.kind.termStart ++ parts := by
  cases error with
  | missing path => exact ⟨_, String.append_assoc⟩
  | forbidden path => exact ⟨_, String.append_assoc⟩
  | tooLarge size room =>
    obtain ⟨later, spelled⟩ := Outline.exists_write_record .oneLine 0 "ProgramTooLarge"
      [("size", .number size), ("max", .number room)]
    refine ⟨String.ofList later, ?_⟩
    rw [← String.toList_inj, String.toList_append, String.toList_ofList]
    exact (String.toList_ofList).trans spelled
  | unreadable error => exact ⟨_, String.append_assoc⟩

theorem kind_eq_of_message {first second : LoadError} (same : first.message = second.message) :
    first.kind = second.kind := by
  obtain ⟨detail, spelled⟩ := exists_message_eq first
  obtain ⟨other, otherSpelled⟩ := exists_message_eq second
  rw [spelled, otherSpelled] at same
  exact Kind.eq_of_start Kind.messageStart_apart same

theorem kind_eq_of_term {first second : LoadError} (same : first.term = second.term) :
    first.kind = second.kind := by
  obtain ⟨parts, spelled⟩ := exists_term_eq first
  obtain ⟨others, otherSpelled⟩ := exists_term_eq second
  rw [spelled, otherSpelled] at same
  exact Kind.eq_of_start Kind.termStart_apart same

/-! ### Messages and terms of load errors -/

/-- Two load errors of one kind with parts that read the same. -/
inductive SaysSame : LoadError → LoadError → Prop
  | missing (path : String) : SaysSame (.missing path) (.missing path)
  | forbidden (path : String) : SaysSame (.forbidden path) (.forbidden path)
  | tooLarge (size room : Nat) : SaysSame (.tooLarge size room) (.tooLarge size room)
  | unreadable {first second : IoError} (same : first.message = second.message) :
      SaysSame (.unreadable first) (.unreadable second)

theorem toList_message_tooLarge (size room : Nat) : (tooLarge size room).message.toList =
    "program is ".toList ++ (Nat.toDigits 10 size ++ (" bytes but only ".toList ++
      (Nat.toDigits 10 room ++ " bytes are available".toList))) := by
  show ("program is " ++ decimal size ++ " bytes but only " ++ decimal room ++
    " bytes are available").toList = _
  simp only [String.toList_append, toList_decimal, List.append_assoc]

theorem message_tooLarge_inj {size room otherSize otherRoom : Nat}
    (same : (tooLarge size room).message = (tooLarge otherSize otherRoom).message) :
    size = otherSize ∧ room = otherRoom := by
  have texts := congrArg String.toList same
  rw [toList_message_tooLarge, toList_message_tooLarge] at texts
  have between : ∀ text, Stops (isDigit 10) (" bytes but only ".toList ++ text) :=
    fun _ => stops_cons rfl _
  have atEnd : Stops (isDigit 10) " bytes are available".toList := stops_cons rfl _
  have sizesOn := List.append_cancel_left texts
  obtain ⟨sizes, later⟩ := toDigits_append_inj (between _) (between _) sizesOn
  obtain ⟨rooms, -⟩ := toDigits_append_inj atEnd atEnd (List.append_cancel_left later)
  exact ⟨sizes, rooms⟩

/-- **Two load errors have the same message if they are of one kind and their parts read the same**,
and not otherwise. -/
theorem message_eq_iff {first second : LoadError} :
    first.message = second.message ↔ SaysSame first second := by
  constructor
  · intro same
    have kinds := kind_eq_of_message same
    cases first with
    | missing path =>
      cases second with
      | missing other =>
        obtain rfl := (String.append_right_inj _).mp same
        exact .missing path
      | _ => cases kinds
    | forbidden path =>
      cases second with
      | forbidden other =>
        obtain rfl := (String.append_right_inj _).mp same
        exact .forbidden path
      | _ => cases kinds
    | tooLarge size room =>
      cases second with
      | tooLarge otherSize otherRoom =>
        obtain ⟨rfl, rfl⟩ := message_tooLarge_inj same
        exact .tooLarge size room
      | _ => cases kinds
    | unreadable error =>
      cases second with
      | unreadable other => exact .unreadable ((String.append_right_inj _).mp same)
      | _ => cases kinds
  · intro alike
    cases alike with
    | unreadable same => exact congrArg ("failed reading program: " ++ ·) same
    | _ => rfl

theorem legible_tooLarge (size room : Nat) :
    (Outline.record "ProgramTooLarge" [("size", .number size), ("max", .number room)]).Legible :=
  .record_cons rfl (.number size) (.record_cons rfl (.number room) (.record_nil rfl))

/-- **No other load error has the term of one that no input error is underneath.** -/
theorem term_eq_iff {first second : LoadError} (own : first.source = none) :
    first.term = second.term ↔ first = second := by
  refine ⟨fun same => ?_, congrArg term⟩
  have kinds := kind_eq_of_term same
  cases first with
  | missing path =>
    cases second with
    | missing other =>
      have quoted := (String.append_right_inj _).mp ((String.append_left_inj _).mp same)
      rw [quotedString_inj.mp quoted]
    | _ => cases kinds
  | forbidden path =>
    cases second with
    | forbidden other =>
      have quoted := (String.append_right_inj _).mp ((String.append_left_inj _).mp same)
      rw [quotedString_inj.mp quoted]
    | _ => cases kinds
  | tooLarge size room =>
    cases second with
    | tooLarge otherSize otherRoom =>
      have records := (Outline.onOneLine_inj (legible_tooLarge size room)
        (legible_tooLarge otherSize otherRoom)).mp same
      cases records
      rfl
    | _ => cases kinds
  | unreadable error => cases own

end LoadError

/-! ### All messages -/

/-- **What errors say loses nothing.** Two overruns have the same message only if they are the same,
and an overrun is read back from its message; in it the address stands in small hexadecimal digits
after `0x`, filled up with zeros to five characters, and with six if it needs them. Two load errors
have the same message exactly if they are of one kind and have the same path, the same size and
room, or input errors with the same text. Of the terms of load errors that no input error is
underneath, each belongs to one load error alone, whatever its path holds. -/
theorem messages_lose_nothing :
    (∀ first second : Overrun, first.message = second.message ↔ first = second) ∧
    (∀ error : Overrun, Overrun.ofMessage? error.message = some error) ∧
    (∀ error : Overrun, ∃ digits : String,
      error.message = decimal error.length ++ " bytes at " ++ ("0x" ++ digits) ++
        " runs past the end of memory" ∧
      (∀ character ∈ digits.toList, isDigit 16 character = true) ∧
      ofDigits 16 digits.toList = error.address.toNat ∧
      ("0x" ++ digits).length = if error.address.toNat < 0x1000 then 5 else 6) ∧
    (∀ first second : LoadError, first.message = second.message ↔ first.SaysSame second) ∧
    ∀ first second : LoadError, first.source = none →
      (first.term = second.term ↔ first = second) := by
  refine ⟨fun _ _ => Overrun.message_inj, Overrun.ofMessage?_message, fun error => ?_,
    fun _ _ => LoadError.message_eq_iff, fun _ _ own => LoadError.term_eq_iff own⟩
  refine ⟨hexadecimal 3 error.address.toNat, ?_, isDigit_of_mem_hexadecimal _ _,
    ofDigits_hexadecimal _ _, Overrun.length_address error.address⟩
  have prefixed : " bytes at 0x" = " bytes at " ++ "0x" := rfl
  rw [Overrun.message, prefixed]
  simp only [String.append_assoc]

/-- A path that holds what an escape would write, or ends like a term, is not taken for another. -/
theorem messages_lose_nothing_look_alikes :
    (LoadError.missing "pong\\n").source = none ∧
    (LoadError.missing "pong\\n").term ≠ (LoadError.missing "pong\n").term ∧
    (LoadError.missing "pong\\n").term ≠ (LoadError.missing "pong\\n\")").term ∧
    (LoadError.missing "pong").message ≠ (LoadError.forbidden "pong").message ∧
    Overrun.ofMessage? (Overrun.message ⟨0xbeef, 18446744073709551615⟩) =
      some ⟨0xbeef, 18446744073709551615⟩ := by
  obtain ⟨-, read, -, said, terms⟩ := messages_lose_nothing
  have own : (LoadError.missing "pong\\n").source = none := rfl
  refine ⟨own, fun same => ?_, fun same => ?_, fun same => ?_, read _⟩
  · exact absurd ((terms _ _ own).mp same) (by decide)
  · exact absurd ((terms _ _ own).mp same) (by decide)
  · cases (said _ _).mp same

end Cosmac
