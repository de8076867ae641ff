/-
**Numerals read back.**

A row of characters of one kind ends where a character of another kind stands, so in a longer text
it tells where it ends. A numeral is a row of digits. Zeros in front of it count nothing, so a
number that was filled up to a width is read like any other.

* `Stops`, `row_append_inj` — where a row of one kind ends, and that a longer text tells.
* `isDigit`, `ofDigits` — the digits of a base, and the number that a row of them stands for.
* `readNumeral?` — the number that a text starts with, and the text after it.
* `ofDigits_toDigits`, `readNumeral?_toDigits` — a number read back from its digits, whatever
  follows them that is no digit.
* `ofDigits_hexadecimal`, `length_hexadecimal` — a number filled up to a width is read back, and has
  no more digits than the width asks for or the number needs.
* `toDigits_append_inj` — a numeral in a longer text tells its number and where it ends.
-/

import Cosmac.Text.Numeral

namespace Cosmac.Text

/-! ### Rows of characters of one kind -/

section Rows

variable {kind : Char → Bool} {row other rest ending : List Char}

/-- A text does not begin with a character of a kind. -/
def Stops (kind : Char → Bool) (text : List Char) : Prop :=
  ∀ character ∈ text.head?, kind character = false

theorem stops_cons {character : Char} (other : kind character = false) (text : List Char) :
    Stops kind (character :: text) := by
  rintro _ ⟨⟩
  exact other

theorem Stops.mono {wider : Char → Bool} {text : List Char} (stops : Stops wider text)
    (within : ∀ character, kind character = true → wider character = true) : Stops kind text := by
  intro character first
  have outside := stops character first
  cases inside : kind character with
  | false => rfl
  | true =>
    rw [within character inside] at outside
    cases outside

theorem takeWhile_of_stops (alike : ∀ character ∈ row, kind character = true)
    (stops : Stops kind rest) : (row ++ rest).takeWhile kind = row := by
  rw [List.takeWhile_append_of_pos alike]
  cases rest with
  | nil => exact List.append_nil row
  | cons character later =>
    have other := stops character rfl
    rw [List.takeWhile_cons_of_neg (by rw [other]; exact Bool.false_ne_true), List.append_nil]

theorem dropWhile_of_stops (alike : ∀ character ∈ row, kind character = true)
    (stops : Stops kind rest) : (row ++ rest).dropWhile kind = rest := by
  have whole := List.takeWhile_append_dropWhile (p := kind) (l := row ++ rest)
  rw [takeWhile_of_stops alike stops] at whole
  exact List.append_cancel_left whole

/-- **A row of one kind tells where it ends.** -/
theorem row_append_inj (alike : ∀ character ∈ row, kind character = true)
    (otherAlike : ∀ character ∈ other, kind character = true) (stops : Stops kind rest)
    (otherStops : Stops kind ending) (same : row ++ rest = other ++ ending) :
    row = other ∧ rest = ending := by
  have rows : row = other := by
    rw [← takeWhile_of_stops alike stops, same, takeWhile_of_stops otherAlike otherStops]
  subst rows
  exact ⟨rfl, List.append_cancel_left same⟩

end Rows

/-! ### Digits -/

/-- What a character counts as a digit: the figures, and after them the small letters up to f. -/
def digitValue? (character : Char) : Option Nat :=
  if '0' ≤ character ∧ character ≤ '9' then some (character.toNat - '0'.toNat)
  else if 'a' ≤ character ∧ character ≤ 'f' then some (character.toNat - 'a'.toNat + 10)
  else none

/-- Whether a character is a digit of a base. -/
def isDigit (base : Nat) (character : Char) : Bool :=
  (digitValue? character).any (· < base)

/-- The number that a row of digits stands for. -/
def ofDigits (base : Nat) (digits : List Char) : Nat :=
  digits.foldl (fun value character => base * value + (digitValue? character).getD 0) 0

variable {base : Nat}

theorem digitValue?_digitChar : ∀ digit < 16, digitValue? (Nat.digitChar digit) = some digit := by
  decide

theorem isDigit_digitChar (fitting : base ≤ 16) {digit : Nat} (below : digit < base) :
    isDigit base (Nat.digitChar digit) = true := by
  rw [isDigit, digitValue?_digitChar digit (Nat.lt_of_lt_of_le below fitting), Option.any_some]
  exact decide_eq_true below

/-- The decimal digits are the figures. -/
theorem isDigit_of_isDigit_ten {character : Char} (digit : isDigit 10 character = true) :
    character.isDigit = true := by
  unfold isDigit digitValue? at digit
  split at digit
  case isTrue figure => simpa [Char.isDigit, Char.le_def] using figure
  case isFalse other =>
    -- the letters count ten and more
    split at digit
    · rw [Option.any_some, decide_eq_true_iff] at digit
      omega
    · cases digit

/-- The digits of a number are digits of the base. -/
theorem exists_digit_of_mem_toDigits (large : 1 < base) {character : Char} {value : Nat}
    (member : character ∈ Nat.toDigits base value) :
    ∃ digit < base, character = Nat.digitChar digit := by
  induction value using Nat.strongRecOn with
  | ind value ih =>
    rw [Nat.toDigits_eq_if large] at member
    split at member
    case isTrue small => exact ⟨value, small, List.mem_singleton.mp member⟩
    case isFalse enough =>
      rcases List.mem_append.mp member with earlier | last
      · exact ih (value / base) (Nat.div_lt_self (by omega) large) earlier
      · exact ⟨value % base, Nat.mod_lt _ (by omega), List.mem_singleton.mp last⟩

theorem isDigit_of_mem_toDigits (large : 1 < base) (fitting : base ≤ 16) {value : Nat} :
    ∀ character ∈ Nat.toDigits base value, isDigit base character = true := by
  intro character member
  obtain ⟨digit, below, rfl⟩ := exists_digit_of_mem_toDigits large member
  exact isDigit_digitChar fitting below

theorem ofDigits_concat (digits : List Char) (character : Char) :
    ofDigits base (digits ++ [character]) =
      base * ofDigits base digits + (digitValue? character).getD 0 := by
  rw [ofDigits, List.foldl_append]
  rfl

/-- **A number is read back from its digits.** -/
theorem ofDigits_toDigits (large : 1 < base) (fitting : base ≤ 16) (value : Nat) :
    ofDigits base (Nat.toDigits base value) = value := by
  induction value using Nat.strongRecOn with
  | ind value ih =>
    rw [Nat.toDigits_eq_if large]
    split
    case isTrue small =>
      have read := digitValue?_digitChar value (by omega)
      show base * 0 + (digitValue? (Nat.digitChar value)).getD 0 = value
      rw [read, Nat.mul_zero, Nat.zero_add, Option.getD_some]
    case isFalse enough =>
      have below : value % base < base := Nat.mod_lt _ (by omega)
      have read := digitValue?_digitChar (value % base) (by omega)
      rw [ofDigits_concat, ih (value / base) (Nat.div_lt_self (by omega) large), read,
        Option.getD_some]
      exact Nat.div_add_mod value base

/-- Zeros in front count nothing. -/
theorem ofDigits_zeros (zeros : Nat) (digits : List Char) :
    ofDigits base (List.replicate zeros '0' ++ digits) = ofDigits base digits := by
  induction zeros with
  | zero => rfl
  | succ zeros ih =>
    rw [← ih]
    show (List.replicate zeros '0' ++ digits).foldl _ (base * 0 + 0) = _
    rw [Nat.mul_zero]
    rfl

/-! ### Numbers filled up to a width -/

section Hexadecimal

variable (width value : Nat)

theorem isDigit_of_mem_hexadecimal :
    ∀ character ∈ (hexadecimal width value).toList, isDigit 16 character = true := by
  rw [toList_hexadecimal]
  intro character member
  rcases List.mem_append.mp member with zero | digit
  · rw [List.eq_of_mem_replicate zero]
    rfl
  · exact isDigit_of_mem_toDigits (by decide) (by decide) character digit

theorem ofDigits_hexadecimal : ofDigits 16 (hexadecimal width value).toList = value := by
  rw [toList_hexadecimal, ofDigits_zeros]
  exact ofDigits_toDigits (by decide) (by decide) value

theorem hexadecimal_ne_nil : (hexadecimal width value).toList ≠ [] := by
  rw [toList_hexadecimal]
  exact List.append_ne_nil_of_right_ne_nil _ Nat.toDigits_ne_nil

/-- No more zeros stand in front than the width asks for. -/
theorem length_hexadecimal :
    (hexadecimal width value).length = max width (Nat.toDigits 16 value).length := by
  rw [hexadecimal, String.length_ofList, List.length_append, List.length_replicate]
  omega

end Hexadecimal

/-! ### Numerals in a longer text -/

/-- The number that a text starts with, and the text after it. -/
def readNumeral? (base : Nat) (text : List Char) : Option (Nat × List Char) :=
  match text.takeWhile (isDigit base) with
  | [] => none
  | digits => some (ofDigits base digits, text.dropWhile (isDigit base))

theorem readNumeral?_row {digits rest : List Char}
    (alike : ∀ character ∈ digits, isDigit base character = true) (nonempty : digits ≠ [])
    (stops : Stops (isDigit base) rest) :
    readNumeral? base (digits ++ rest) = some (ofDigits base digits, rest) := by
  rw [readNumeral?, takeWhile_of_stops alike stops, dropWhile_of_stops alike stops]
  cases digits with
  | nil => exact absurd rfl nonempty
  | cons first later => rfl

/-- **A numeral is read back**, whatever follows it that is no digit. -/
theorem readNumeral?_toDigits (large : 1 < base) (fitting : base ≤ 16) (value : Nat)
    {rest : List Char} (stops : Stops (isDigit base) rest) :
    readNumeral? base (Nat.toDigits base value ++ rest) = some (value, rest) := by
  rw [readNumeral?_row (isDigit_of_mem_toDigits large fitting) Nat.toDigits_ne_nil stops,
    ofDigits_toDigits large fitting]

/-- **A numeral in a longer text tells its number and where it ends.** -/
theorem toDigits_append_inj {first second : Nat} {rest ending : List Char}
    (stops : Stops (isDigit 10) rest) (otherStops : Stops (isDigit 10) ending)
    (same : Nat.toDigits 10 first ++ rest = Nat.toDigits 10 second ++ ending) :
    first = second ∧ rest = ending := by
  have read := congrArg (readNumeral? 10) same
  rw [readNumeral?_toDigits (by decide) (by decide) first stops,
    readNumeral?_toDigits (by decide) (by decide) second otherStops] at read
  exact Prod.mk.inj (Option.some.inj read)

end Cosmac.Text
