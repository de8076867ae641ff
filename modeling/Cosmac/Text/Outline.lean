/-
**Outlines: a value as a tree of named fields, lists and numbers, and its text.**

An `Outline` says what a value shows. A `Layout` says how it is set: on one line, or with one
field or list item per line, four spaces to the right of what holds it and a comma after each.

* `Outline.write` — the text of an outline in a layout; `depth` counts what is open around it.
* `Outline.onOneLine`, `Outline.indented` — the two layouts as strings.
-/

import Cosmac.Text.Numeral

namespace Cosmac.Text

/-- What a value shows of itself. -/
inductive Outline where
  | number (value : Nat)
  | list (items : List Outline)
  | record (name : String) (fields : List (String × Outline))

/-- The text around and between the parts of a list or a record, at each depth. -/
structure Layout where
  listOpening : Nat → List Char
  listClosing : Nat → List Char
  recordOpening : Nat → List Char
  recordClosing : Nat → List Char
  separator : Nat → List Char

namespace Layout

/-- All on one line: parts apart by a comma and a space. -/
def oneLine : Layout where
  listOpening _ := ['[']
  listClosing _ := [']']
  recordOpening _ := [' ', '\x7b', ' ']
  recordClosing _ := [' ', '\x7d']
  separator _ := [',', ' ']

/-- The start of a line that stands `depth` levels deep. -/
def newLine (depth : Nat) : List Char :=
  '\n' :: List.replicate (4 * depth) ' '

/-- A line for each part, one level deeper than what holds it, and a comma after each. -/
def stacked : Layout where
  listOpening depth := '[' :: newLine (depth + 1)
  listClosing depth := ',' :: (newLine depth ++ [']'])
  recordOpening depth := [' ', '\x7b'] ++ newLine (depth + 1)
  recordClosing depth := ',' :: (newLine depth ++ ['\x7d'])
  separator depth := ',' :: newLine (depth + 1)

end Layout

namespace Outline

/-! ### Writing an outline -/

mutual

/-- The text of an outline with `depth` lists and records open around it. -/
def write (layout : Layout) (depth : Nat) : Outline → List Char
  | number value => Nat.toDigits 10 value
  | list [] => ['[', ']']
  | list (item :: later) =>
    layout.listOpening depth ++ item.write layout (depth + 1) ++ writeItems layout depth later ++
      layout.listClosing depth
  | record name [] => name.toList
  | record name ((label, value) :: later) =>
    name.toList ++ layout.recordOpening depth ++ label.toList ++ [':', ' '] ++
      value.write layout (depth + 1) ++ writeFields layout depth later ++
      layout.recordClosing depth

/-- The later items of a list, a separator before each. -/
def writeItems (layout : Layout) (depth : Nat) : List Outline → List Char
  | [] => []
  | item :: later =>
    layout.separator depth ++ item.write layout (depth + 1) ++ writeItems layout depth later

/-- The later fields of a record, a separator before each. -/
def writeFields (layout : Layout) (depth : Nat) : List (String × Outline) → List Char
  | [] => []
  | (label, value) :: later =>
    layout.separator depth ++ label.toList ++ [':', ' '] ++ value.write layout (depth + 1) ++
      writeFields layout depth later

end

/-- The text of an outline on one line. -/
def onOneLine (outline : Outline) : String :=
  String.ofList (outline.write .oneLine 0)

/-- The text of an outline with a line for each part. -/
def indented (outline : Outline) : String :=
  String.ofList (outline.write .stacked 0)

end Outline

end Cosmac.Text
