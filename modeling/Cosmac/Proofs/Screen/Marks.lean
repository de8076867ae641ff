/-
**Marks: what a screen shows after marks are written on it.**

Of the marks at one place the last counts, and a place without a mark keeps its cell.

* `Mark.IsOn`, `lastMark?` — a mark that has a cell on a screen, and what the last of several marks
  at a place shows.
* `lastMark?_uniform`, `lastMark?_moved` — marks that all show the same, and marks that were moved.
* `Screen.putAll_ok_iff` — all marks are written exactly if each has a cell.
* `Screen.cellAt_putAll` — every cell after marks are written.
-/

import Cosmac.Screen.Sheet

namespace Cosmac

/-- The screen has a cell for a mark. -/
def Mark.IsOn (size : Size) (mark : Mark) : Prop :=
  mark.column < size.columns ∧ mark.row < size.rows

/-- What a mark shows at a place, if it is there. -/
def Mark.at? (column row : Nat) (mark : Mark) : Option Cell :=
  if mark.column = column ∧ mark.row = row then some mark.cell else none

/-- What the last of several marks at a place shows. -/
def lastMark? (marks : List Mark) (column row : Nat) : Option Cell :=
  marks.reverse.findSome? (Mark.at? column row)

/-! ### The last mark -/

theorem lastMark?_append (first later : List Mark) (column row : Nat) :
    lastMark? (first ++ later) column row =
      (lastMark? later column row).or (lastMark? first column row) := by
  rw [lastMark?, List.reverse_append, List.findSome?_append]
  rfl

theorem lastMark?_cons (mark : Mark) (later : List Mark) (column row : Nat) :
    lastMark? (mark :: later) column row =
      (lastMark? later column row).or (mark.at? column row) := by
  rw [lastMark?, List.reverse_cons, List.findSome?_append, List.findSome?_singleton]
  rfl

theorem lastMark?_eq_none_iff {marks : List Mark} {column row : Nat} :
    lastMark? marks column row = none ↔
      ∀ mark ∈ marks, ¬ (mark.column = column ∧ mark.row = row) := by
  rw [lastMark?, List.findSome?_eq_none_iff]
  constructor
  · intro absent mark member here
    have shown := absent mark (List.mem_reverse.mpr member)
    rw [Mark.at?, if_pos here] at shown
    cases shown
  · intro absent mark member
    exact if_neg (absent mark (List.mem_reverse.mp member))

/-- Where all marks at a place show the same and there is one, this is what the last of them
shows. -/
theorem lastMark?_eq_some {marks : List Mark} {column row : Nat} {cell : Cell}
    (present : ∃ mark ∈ marks, mark.column = column ∧ mark.row = row)
    (same : ∀ mark ∈ marks, mark.column = column → mark.row = row → mark.cell = cell) :
    lastMark? marks column row = some cell := by
  cases found : lastMark? marks column row with
  | none =>
    obtain ⟨mark, member, here⟩ := present
    exact absurd here (lastMark?_eq_none_iff.mp found mark member)
  | some shown =>
    obtain ⟨mark, member, shows⟩ := List.exists_of_findSome?_eq_some found
    unfold Mark.at? at shows
    split at shows
    case isTrue here =>
      rw [← Option.some.inj shows, same mark (List.mem_reverse.mp member) here.1 here.2]
    case isFalse => cases shows

/-- Marks that all show the same. -/
theorem lastMark?_uniform {marks : List Mark} {column row : Nat} {cell : Cell} {covered : Prop}
    [Decidable covered] (same : ∀ mark ∈ marks, mark.cell = cell)
    (covers : (∃ mark ∈ marks, mark.column = column ∧ mark.row = row) ↔ covered) :
    lastMark? marks column row = if covered then some cell else none := by
  split
  case isTrue here =>
    exact lastMark?_eq_some (covers.mpr here) fun mark member _ _ => same mark member
  case isFalse apart =>
    refine lastMark?_eq_none_iff.mpr fun mark member here => ?_
    exact apart (covers.mp ⟨mark, member, here⟩)

/-- Marks that were moved. -/
theorem lastMark?_moved (marks : List Mark) (right down column row : Nat) :
    lastMark? (marks.map (Mark.moved right down)) (column + right) (row + down) =
      lastMark? marks column row := by
  have same : Mark.at? (column + right) (row + down) ∘ Mark.moved right down =
      Mark.at? column row := by
    funext mark
    simp only [Function.comp_apply, Mark.at?, Mark.moved, Nat.add_right_cancel_iff]
  rw [lastMark?, ← List.map_reverse, List.findSome?_map, same]
  rfl

namespace Screen

variable {size : Size}

/-! ### Written or not -/

theorem put?_of_isOn (screen : Screen size) {mark : Mark} (on : mark.IsOn size) :
    ∃ written, screen.put? mark = some written :=
  ⟨_, dif_pos on⟩

theorem put?_of_not_isOn (screen : Screen size) {mark : Mark} (off : ¬ mark.IsOn size) :
    screen.put? mark = none :=
  dif_neg off

/-- All marks are written exactly if each has a cell. -/
theorem putAll_ok_iff (screen : Screen size) (marks : List Mark) :
    (∃ written, screen.putAll marks = .ok written) ↔ ∀ mark ∈ marks, mark.IsOn size := by
  induction marks generalizing screen with
  | nil => exact iff_of_true ⟨screen, rfl⟩ nofun
  | cons mark later ih =>
    rw [putAll, List.forall_mem_cons]
    by_cases on : mark.IsOn size
    · obtain ⟨written, put⟩ := screen.put?_of_isOn on
      rw [put, and_iff_right on]
      exact ih written
    · rw [screen.put?_of_not_isOn on]
      exact iff_of_false nofun fun both => on both.1

/-- **Every cell after marks are written**: the last mark at a place decides. -/
theorem cellAt_putAll {screen written : Screen size} {marks : List Mark}
    (done : screen.putAll marks = .ok written) (column row : Nat)
    (inColumns : column < size.columns) (inRows : row < size.rows) :
    written.cellAt column row inColumns inRows =
      (lastMark? marks column row).getD (screen.cellAt column row inColumns inRows) := by
  induction marks generalizing screen with
  | nil => rw [← Except.ok.inj done]; rfl
  | cons mark later ih =>
    rw [putAll] at done
    cases put : screen.put? mark with
    | none =>
      rw [put] at done
      cases done
    | some next =>
      rw [put] at done
      rw [ih done, lastMark?_cons, cellAt_put? put, Mark.at?]
      cases lastMark? later column row with
      | some cell => rfl
      | none => split <;> rfl

end Screen

end Cosmac
