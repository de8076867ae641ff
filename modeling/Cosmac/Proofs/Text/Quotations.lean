/-
**Quoted text read back.**

An escape begins with a backslash and says in its second character which one it is; the code point
in braces ends at the brace. Every other character stands for itself. So the escaped characters of a
text can be read back one after the other, and the text ends at the first quotation mark that is not
escaped, whatever the text itself looks like.

* `unescape?` — the character that an escaped text starts with, and the text after it.
* `unescape?_escape` — an escaped character is read back.
* `escaped_append_inj`, `quoted_append_inj` — quoted text in a longer text tells what it is and where
  it ends.
* `quotedString_inj` — strings with the same quoted form are the same.
-/

import Cosmac.Text.Quoted
import Cosmac.Proofs.Text.Numerals
import Mathlib.Tactic.SplitIfs

namespace Cosmac.Text

/-! ### Escapes -/

/-- The character that a letter after a backslash stands for. -/
def escapedAs (letter : Char) : Char :=
  if letter = '0' then '\x00'
  else if letter = 't' then '\t'
  else if letter = 'r' then '\r'
  else if letter = 'n' then '\n'
  else letter

/-- The character that an escaped text starts with, and the text after it. -/
def unescape? : List Char → Option (Char × List Char)
  | [] => none
  | first :: later =>
    if first = '\\' then
      match later with
      | [] => none
      | letter :: following =>
        if letter = 'u' then
          (readNumeral? 16 (following.drop 1)).map fun (code, ending) =>
            (Char.ofNat code, ending.drop 1)
        else some (escapedAs letter, following)
    else some (first, later)

theorem unescape?_letter {letter : Char} (apart : letter ≠ 'u') (rest : List Char) :
    unescape? ('\\' :: letter :: rest) = some (escapedAs letter, rest) := by
  rw [unescape?, if_pos rfl]
  exact if_neg apart

theorem unescape?_code (character : Char) (rest : List Char) :
    unescape? ('\\' :: 'u' :: '\x7b' :: (Nat.toDigits 16 character.toNat ++ '\x7d' :: rest)) =
      some (character, rest) := by
  have stops : Stops (isDigit 16) ('\x7d' :: rest) := stops_cons rfl rest
  rw [unescape?, if_pos rfl]
  show (readNumeral? 16 (Nat.toDigits 16 character.toNat ++ '\x7d' :: rest)).map _ = _
  rw [readNumeral?_toDigits (by decide) (by decide) _ stops, Option.map_some]
  show some (Char.ofNat character.toNat, rest) = _
  rw [Char.ofNat_toNat]

theorem unescape?_plain {character : Char} (plain : character ≠ '\\') (rest : List Char) :
    unescape? (character :: rest) = some (character, rest) :=
  if_neg plain

/-- A quotation mark that has no other use in an escape. -/
def IsMark (mark : Char) : Prop := mark ∉ ['\\', '0', 't', 'r', 'n', 'u']

section Mark

variable {mark : Char}

theorem escapedAs_of_marked (apart : IsMark mark) {character : Char}
    (marked : character = '\\' ∨ character = mark) :
    character ≠ 'u' ∧ escapedAs character = character := by
  simp only [IsMark, List.mem_cons, List.not_mem_nil, or_false, not_or] at apart
  obtain ⟨-, zero, tab, carriage, feed, code⟩ := apart
  rcases marked with rfl | rfl
  · exact ⟨by decide, rfl⟩
  · refine ⟨code, ?_⟩
    rw [escapedAs, if_neg zero, if_neg tab, if_neg carriage, if_neg feed]

/-- **An escaped character is read back**, whatever follows it. -/
theorem unescape?_escape (apart : IsMark mark) (character : Char) (rest : List Char) :
    unescape? (escape mark character ++ rest) = some (character, rest) := by
  unfold escape
  split_ifs with nul tab carriage feed marked invisible
  · rw [nul]
    exact unescape?_letter (by decide) rest
  · rw [tab]
    exact unescape?_letter (by decide) rest
  · rw [carriage]
    exact unescape?_letter (by decide) rest
  · rw [feed]
    exact unescape?_letter (by decide) rest
  · obtain ⟨letter, itself⟩ := escapedAs_of_marked apart marked
    show unescape? ('\\' :: character :: rest) = _
    rw [unescape?_letter letter, itself]
  · rw [List.append_assoc, List.append_assoc]
    exact unescape?_code character rest
  · exact unescape?_plain (fun backslash => marked (.inl backslash)) rest

/-- An escaped character begins with a backslash, or is a character that needs no escape. -/
theorem escape_cases (mark character : Char) :
    (∃ later, escape mark character = '\\' :: later) ∨
      character ≠ mark ∧ escape mark character = [character] := by
  unfold escape
  split_ifs with nul tab carriage feed marked invisible
  · exact .inl ⟨_, rfl⟩
  · exact .inl ⟨_, rfl⟩
  · exact .inl ⟨_, rfl⟩
  · exact .inl ⟨_, rfl⟩
  · exact .inl ⟨_, rfl⟩
  · exact .inl ⟨_, rfl⟩
  · exact .inr ⟨fun same => marked (.inr same), rfl⟩

/-- No escaped character begins like the quotation mark. -/
theorem mark_ne_escape (apart : IsMark mark) (character : Char) (rest ending : List Char) :
    mark :: rest ≠ escape mark character ++ ending := by
  intro same
  rcases escape_cases mark character with ⟨later, escaped⟩ | ⟨different, itself⟩
  · rw [escaped] at same
    obtain ⟨rfl, -⟩ := List.cons.inj same
    exact apart List.mem_cons_self
  · rw [itself] at same
    exact different (List.cons.inj same).1.symm

/-! ### Text between quotation marks -/

/-- **Escaped text ends at the first quotation mark of its own.** -/
theorem escaped_append_inj (apart : IsMark mark) {first second rest ending : List Char}
    (same : first.flatMap (escape mark) ++ mark :: rest =
      second.flatMap (escape mark) ++ mark :: ending) :
    first = second ∧ rest = ending := by
  induction first generalizing second with
  | nil =>
    cases second with
    | nil => exact ⟨rfl, (List.cons.inj same).2⟩
    | cons character later =>
      rw [List.flatMap_cons, List.append_assoc] at same
      exact absurd same (mark_ne_escape apart character _ _)
  | cons character later ih =>
    cases second with
    | nil =>
      rw [List.flatMap_cons, List.append_assoc] at same
      exact absurd same.symm (mark_ne_escape apart character _ _)
    | cons other following =>
      rw [List.flatMap_cons, List.append_assoc, List.flatMap_cons, List.append_assoc] at same
      have read := congrArg unescape? same
      rw [unescape?_escape apart, unescape?_escape apart] at read
      obtain ⟨rfl, remaining⟩ := Prod.mk.inj (Option.some.inj read)
      obtain ⟨rfl, ended⟩ := ih remaining
      exact ⟨rfl, ended⟩

/-- **Quoted text in a longer text tells what it is and where it ends.** -/
theorem quoted_append_inj (apart : IsMark mark) {first second rest ending : List Char}
    (same : quoted mark first ++ rest = quoted mark second ++ ending) :
    first = second ∧ rest = ending := by
  simp only [quoted, List.cons_append, List.append_assoc, List.nil_append, List.cons.injEq,
    true_and] at same
  exact escaped_append_inj apart same

end Mark

/-- Strings with the same quoted form are the same. -/
theorem quotedString_inj {first second : String} :
    quotedString first = quotedString second ↔ first = second := by
  refine ⟨fun same => ?_, congrArg quotedString⟩
  have apart : IsMark '"' := by
    unfold IsMark
    decide
  have texts : quoted '"' first.toList ++ [] = quoted '"' second.toList ++ [] := by
    rw [String.ofList_inj.mp same]
  exact String.toList_inj.mp (quoted_append_inj apart texts).1

end Cosmac.Text
