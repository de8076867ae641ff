/-
**A screen as text for a terminal.**

* `Screen.ansi` — the characters that bring a screen onto a terminal: to the top left corner first,
  then row by row, each cell behind the codes of its colours.
-/

import Cosmac.Screen
import Cosmac.Text.Numeral

namespace Cosmac

/-- The code of a colour, from that of black on; the terminal's own comes nine further. -/
def Colour.code (black : Nat) : Colour → Nat
  | .black => black
  | .white => black + 7
  | .reset => black + 9

/-- A cell behind the codes of its colours. -/
def Cell.ansi (cell : Cell) : String :=
  "\x1b[" ++ Text.decimal (cell.foreground.code 30) ++ ";" ++
    Text.decimal (cell.background.code 40) ++ "m" ++ String.ofList [cell.glyph]

/-- The characters that bring a screen onto a terminal. -/
def Screen.ansi {size : Size} (screen : Screen size) : String :=
  let lines := screen.lines.map fun row => String.join (row.map Cell.ansi)
  "\x1b[H" ++ String.intercalate "\r\n" lines ++ "\x1b[0m"

end Cosmac
