/-
**Quoted text: characters between quotation marks, with escapes.**

* `escape` writes one character: a backslash and a letter for NUL, tab, line feed and carriage
  return, a backslash before a backslash and before the quotation mark in use, the code point in
  braces for a character that shows no mark of its own, and every other character as it is.
* `quotedString` and `quotedCharacter` put the escaped text between double and single marks; the
  mark that is not in use needs no escape.
-/

import Cosmac.Text.Invisible

namespace Cosmac.Text

/-- A character as it stands between two quotation marks `mark`. -/
def escape (mark character : Char) : List Char :=
  if character = '\x00' then ['\\', '0']
  else if character = '\t' then ['\\', 't']
  else if character = '\r' then ['\\', 'r']
  else if character = '\n' then ['\\', 'n']
  else if character = '\\' ∨ character = mark then ['\\', character]
  else if isInvisible character then
    ['\\', 'u', '\x7b'] ++ Nat.toDigits 16 character.toNat ++ ['\x7d']
  else [character]

/-- Text between two quotation marks. -/
def quoted (mark : Char) (text : List Char) : List Char :=
  mark :: (text.flatMap (escape mark) ++ [mark])

/-- A string between double quotation marks. -/
def quotedString (text : String) : String :=
  String.ofList (quoted '"' text.toList)

/-- A character between single quotation marks. -/
def quotedCharacter (character : Char) : String :=
  String.ofList (quoted '\'' [character])

end Cosmac.Text
