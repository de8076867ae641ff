/-
**Numerals: natural numbers in decimal and in hexadecimal.**

* `decimal` writes a number in base ten, with no leading zero.
* `hexadecimal` writes it in base sixteen with lower-case digits, filled up with zeros from the
  left to a least width; a number that needs more digits than that gets them.
-/

namespace Cosmac.Text

/-- The decimal digits of a number. -/
def decimal (value : Nat) : String :=
  String.ofList (Nat.toDigits 10 value)

/-- The lower-case hexadecimal digits of a number, at least `width` of them. -/
def hexadecimal (width value : Nat) : String :=
  let digits := Nat.toDigits 16 value
  String.ofList (List.replicate (width - digits.length) '0' ++ digits)

@[simp]
theorem toList_decimal (value : Nat) : (decimal value).toList = Nat.toDigits 10 value := by
  simp [decimal]

@[simp]
theorem toList_hexadecimal (width value : Nat) :
    (hexadecimal width value).toList =
      List.replicate (width - (Nat.toDigits 16 value).length) '0' ++ Nat.toDigits 16 value := by
  simp [hexadecimal]

end Cosmac.Text
