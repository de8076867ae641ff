/-
**Runs of a monitor: what every frame shows.**

The framebuffer of a monitor is changed by plots and clears only, its terminal by new sizes only, so
at every frame both are known from the steps before it. The frame is a fault if it covers too little
of the terminal for the picture; otherwise it has the picture of the framebuffer at the top left. It
has nothing else if the library is settled, which it is unless the last frame was a fault, or if the
library draws every frame afresh.

* `Monitor.framebufferAfter`, `Monitor.terminalAfter`, `Monitor.spoilt` — the framebuffer and the
  terminal after a run, and whether its last frame was a fault.
* `Monitor.settled_takeAll` — the library after a run.
* `Monitor.drawFrame_fault_iff`, `Monitor.drawFrame_shows`, `Monitor.drawFrame_alone` — when a frame
  is a fault, and what any other shows.
* `Monitor.takeAll_shows` — what every frame of every run shows.
-/

import Cosmac.Proofs.Screen.Buffered
import Cosmac.Proofs.Screen.Counts
import Cosmac.Screen.Monitor

namespace Cosmac

namespace Monitor

variable {library : TerminalLibrary}

/-! ### Frames -/

/-- A frame is shown, or it is a fault. -/
theorem drawFrame_cases (monitor : Monitor library) :
    (∃ screen next, library.draw monitor.kept monitor.terminal
        (Picture.panel monitor.framebuffer) = (some screen, next) ∧
      monitor.drawFrame = (.shown monitor.terminal screen, { monitor with kept := next })) ∨
    (∃ next, library.draw monitor.kept monitor.terminal
        (Picture.panel monitor.framebuffer) = (none, next) ∧
      monitor.drawFrame = (.fault, { monitor with kept := next })) := by
  unfold drawFrame
  split
  case h_1 screen next drawn => exact .inl ⟨screen, next, drawn, rfl⟩
  case h_2 next drawn => exact .inr ⟨next, drawn, rfl⟩

section Lawful

variable (lawful : library.Lawful) {monitor : Monitor library}

include lawful

theorem drawFrame_fault_iff (monitor : Monitor library) :
    monitor.drawFrame.1 = .fault ↔ (library.covered monitor.terminal).columns < 66 ∨
      (library.covered monitor.terminal).rows < 34 := by
  rw [← Picture.draw_eq_none_iff monitor.framebuffer lawful monitor.kept]
  obtain ⟨screen, next, drawn, frame⟩ | ⟨next, drawn, frame⟩ := monitor.drawFrame_cases
  · rw [drawn, frame]
    exact iff_of_false nofun nofun
  · rw [drawn, frame]
    exact iff_of_true rfl rfl

/-- A frame that is no fault shows the framebuffer, whatever the library keeps. -/
theorem drawFrame_shows (wide : 66 ≤ (library.covered monitor.terminal).columns)
    (high : 34 ≤ (library.covered monitor.terminal).rows) :
    ∃ screen, monitor.drawFrame.1 = .shown monitor.terminal screen ∧
      Picture.InCorner monitor.framebuffer screen := by
  obtain ⟨screen, next, drawn, frame⟩ | ⟨next, -, frame⟩ := monitor.drawFrame_cases
  · exact ⟨screen, by rw [frame], Picture.inCorner_drawn lawful drawn⟩
  · have fault : monitor.drawFrame.1 = .fault := by rw [frame]
    have small := (drawFrame_fault_iff lawful monitor).mp fault
    omega

/-- A frame that begins blank shows nothing else: the library is settled, or draws afresh. -/
theorem drawFrame_alone (blank : library.FullRedraw ∨ library.Settled monitor.kept)
    (wide : 66 ≤ (library.covered monitor.terminal).columns)
    (high : 34 ≤ (library.covered monitor.terminal).rows) :
    monitor.drawFrame.1 = .shown monitor.terminal
      (Picture.alone monitor.framebuffer (library.covered monitor.terminal)) := by
  have shown : (library.draw monitor.kept monitor.terminal
      (Picture.panel monitor.framebuffer)).1 =
        some (Picture.alone monitor.framebuffer (library.covered monitor.terminal)) := by
    obtain afresh | settled := blank
    · obtain ⟨next, -, drawn⟩ := Picture.draw_settled monitor.framebuffer lawful
        (.start monitor.terminal) wide high
      rw [afresh, drawn]
    · obtain ⟨next, -, drawn⟩ := Picture.draw_settled monitor.framebuffer lawful settled wide high
      rw [drawn]
  obtain ⟨screen, next, drawn, frame⟩ | ⟨next, drawn, -⟩ := monitor.drawFrame_cases
  · rw [drawn] at shown
    rw [frame, Option.some.inj shown]
  · rw [drawn] at shown
    cases shown

end Lawful

/-! ### The framebuffer and the terminal -/

/-- What a step does to the framebuffer. -/
def Step.edits : Step → List Framebuffer.Edit
  | .plot dots => dots.map fun dot => .set dot.x dot.y dot.on
  | .clear => [.clear]
  | .resize _ | .draw => []

/-- The size that a step gives to the terminal. -/
def Step.terminal? : Step → Option Size
  | .resize terminal => some terminal
  | .plot _ | .clear | .draw => none

/-- The framebuffer after a run that starts with nothing lit. -/
def framebufferAfter (steps : List Step) : Framebuffer :=
  Framebuffer.blank.editAll (steps.flatMap Step.edits)

/-- The terminal after a run: the last size it was given. -/
def terminalAfter (terminal : Size) (steps : List Step) : Size :=
  (steps.reverse.findSome? Step.terminal?).getD terminal

variable (monitor : Monitor library)

theorem framebuffer_take (step : Step) :
    (monitor.take step).2.framebuffer = monitor.framebuffer.editAll step.edits := by
  cases step with
  | plot dots =>
    show dots.foldl _ monitor.framebuffer = (dots.map _).foldl _ monitor.framebuffer
    rw [List.foldl_map]
    rfl
  | clear => rfl
  | resize terminal => rfl
  | draw =>
    show monitor.drawFrame.2.framebuffer = monitor.framebuffer
    obtain ⟨screen, next, -, frame⟩ | ⟨next, -, frame⟩ := monitor.drawFrame_cases <;> rw [frame]

theorem terminal_take (step : Step) :
    (monitor.take step).2.terminal = step.terminal?.getD monitor.terminal := by
  cases step with
  | plot dots => rfl
  | clear => rfl
  | resize terminal => rfl
  | draw =>
    show monitor.drawFrame.2.terminal = monitor.terminal
    obtain ⟨screen, next, -, frame⟩ | ⟨next, -, frame⟩ := monitor.drawFrame_cases <;> rw [frame]

theorem framebuffer_takeAll (steps : List Step) :
    (monitor.takeAll steps).2.framebuffer =
      monitor.framebuffer.editAll (steps.flatMap Step.edits) := by
  induction steps generalizing monitor with
  | nil => rfl
  | cons step later ih =>
    show ((monitor.take step).2.takeAll later).2.framebuffer = _
    rw [ih, framebuffer_take, List.flatMap_cons]
    exact List.foldl_append.symm

theorem terminal_takeAll (steps : List Step) :
    (monitor.takeAll steps).2.terminal = terminalAfter monitor.terminal steps := by
  induction steps generalizing monitor with
  | nil => rfl
  | cons step later ih =>
    show ((monitor.take step).2.takeAll later).2.terminal = _
    rw [ih, terminal_take, terminalAfter, terminalAfter, List.reverse_cons, List.findSome?_append,
      List.findSome?_singleton]
    cases later.reverse.findSome? Step.terminal? <;> rfl

/-! ### Runs in parts -/

theorem takeAll_append (first later : List Step) :
    monitor.takeAll (first ++ later) =
      ((monitor.takeAll first).1 ++ ((monitor.takeAll first).2.takeAll later).1,
        ((monitor.takeAll first).2.takeAll later).2) := by
  induction first generalizing monitor with
  | nil => rfl
  | cons step rest ih =>
    have parts : monitor.takeAll (step :: (rest ++ later)) =
        ((monitor.take step).1 :: ((monitor.take step).2.takeAll (rest ++ later)).1,
          ((monitor.take step).2.takeAll (rest ++ later)).2) := rfl
    rw [List.cons_append, parts, ih]
    rfl

theorem length_takeAll (steps : List Step) : (monitor.takeAll steps).1.length = steps.length := by
  induction steps generalizing monitor with
  | nil => rfl
  | cons step later ih => exact congrArg (· + 1) (ih (monitor.take step).2)

/-- What a step shows depends on the steps before it only. -/
theorem getElem?_takeAll (earlier : List Step) (step : Step) (later : List Step) :
    (monitor.takeAll (earlier ++ step :: later)).1[earlier.length]? =
      some ((monitor.takeAll earlier).2.take step).1 := by
  rw [takeAll_append, List.getElem?_append_right (Nat.le_of_eq (length_takeAll ..)), length_takeAll,
    Nat.sub_self]
  rfl

/-! ### The library -/

/-- Whether the frame that a step showed, if any, was a fault. -/
def Reply.spoils? : Reply library → Option Bool
  | .done => none
  | .shown _ _ => some false
  | .fault => some true

/-- Whether the last frame of several steps was a fault. -/
def spoilt (replies : List (Reply library)) : Bool :=
  (replies.reverse.findSome? Reply.spoils?).getD false

variable {monitor}

theorem settled_take {before : Bool} (start : before = false → library.Settled monitor.kept)
    (step : Step) (unspoilt : (monitor.take step).1.spoils?.getD before = false) :
    library.Settled (monitor.take step).2.kept := by
  cases step with
  | plot dots => exact start unspoilt
  | clear => exact start unspoilt
  | resize terminal => exact start unspoilt
  | draw =>
    show library.Settled monitor.drawFrame.2.kept
    have shown : monitor.drawFrame.1.spoils?.getD before = false := unspoilt
    obtain ⟨screen, next, drawn, frame⟩ | ⟨next, -, frame⟩ := monitor.drawFrame_cases
    · rw [frame]
      exact .shown drawn
    · rw [frame] at shown
      cases shown

/-- **The library is settled where the last frame was not a fault.** The induction is on the steps;
`before` says whether the last frame before them was one. -/
theorem settled_takeAll {before : Bool} (start : before = false → library.Settled monitor.kept)
    (steps : List Step)
    (unspoilt : ((monitor.takeAll steps).1.reverse.findSome? Reply.spoils?).getD before = false) :
    library.Settled (monitor.takeAll steps).2.kept := by
  induction steps generalizing monitor before with
  | nil => exact start unspoilt
  | cons step later ih =>
    have parts : (monitor.takeAll (step :: later)).1 =
        (monitor.take step).1 :: ((monitor.take step).2.takeAll later).1 := rfl
    rw [parts, List.reverse_cons, List.findSome?_append, List.findSome?_singleton,
      Option.getD_or] at unspoilt
    exact ih (settled_take start step) unspoilt

/-! ### Every frame -/

/-- **What every frame shows**, with a lawful terminal library. A frame is a fault exactly if it
covers fewer than 66 columns or 34 rows of the terminal: on a terminal of up to 65535 cells, exactly
if the terminal has fewer, and on a larger one at least then. Otherwise it has the picture of the
framebuffer in its corner, which depends on nothing else and belongs to no other framebuffer. It has
nothing besides if every frame is drawn afresh, and in any case if the frame before it was not a
fault. -/
theorem takeAll_shows (lawful : library.Lawful) (terminal : Size) (earlier later : List Step) :
    let replies := ((fresh library terminal).takeAll (earlier ++ .draw :: later)).1
    let now := terminalAfter terminal earlier
    let covered := library.covered now
    let framebuffer := framebufferAfter earlier
    (replies[earlier.length]? = some .fault ↔ covered.columns < 66 ∨ covered.rows < 34) ∧
    (now.area ≤ 65535 →
      (replies[earlier.length]? = some .fault ↔ now.columns < 66 ∨ now.rows < 34)) ∧
    (now.columns < 66 ∨ now.rows < 34 → replies[earlier.length]? = some .fault) ∧
    ((Picture.lines framebuffer).length = 34 ∧
      ∀ line ∈ Picture.lines framebuffer, line.length = 66) ∧
    (∀ other, Picture.lines framebuffer = Picture.lines other ↔ framebuffer = other) ∧
    (66 ≤ covered.columns → 34 ≤ covered.rows →
      ∃ screen : Screen covered,
        replies[earlier.length]? = some (.shown now screen) ∧
        Picture.Shows framebuffer screen ∧
        (library.FullRedraw ∨ spoilt ((fresh library terminal).takeAll earlier).1 = false →
          screen = Picture.alone framebuffer covered ∧
          Picture.ShowsAlone framebuffer screen)) := by
  intro replies now covered framebuffer
  have reply : replies[earlier.length]? =
      some ((fresh library terminal).takeAll earlier).2.drawFrame.1 :=
    getElem?_takeAll _ earlier .draw later
  have framebuffer_now : ((fresh library terminal).takeAll earlier).2.framebuffer = framebuffer :=
    framebuffer_takeAll _ _
  have terminal_now : ((fresh library terminal).takeAll earlier).2.terminal = now :=
    terminal_takeAll _ _
  have settled : spoilt ((fresh library terminal).takeAll earlier).1 = false →
      library.Settled ((fresh library terminal).takeAll earlier).2.kept :=
    settled_takeAll (fun _ => .start terminal) earlier
  -- of the run before the frame only what it leaves counts
  generalize ((fresh library terminal).takeAll earlier).2 = before at *
  clear_value framebuffer now
  subst framebuffer_now terminal_now
  have fault : replies[earlier.length]? = some .fault ↔
      covered.columns < 66 ∨ covered.rows < 34 := by
    rw [reply, Option.some.injEq]
    exact drawFrame_fault_iff lawful before
  refine ⟨fault, fun whole => ?_, fun small => fault.mpr (lawful.covered_small small),
    ⟨Picture.length_lines _, fun _ => Picture.length_of_mem_lines _⟩,
    fun other => Picture.lines_inj, fun wide high => ?_⟩
  · rw [fault, show covered = before.terminal from lawful.covered_whole whole]
  · obtain ⟨screen, shown, corner⟩ := drawFrame_shows lawful wide high
    refine ⟨screen, by rw [reply, shown], corner.shows, fun blank => ?_⟩
    have frame := drawFrame_alone lawful (blank.imp_right settled) wide high
    obtain rfl : screen = Picture.alone before.framebuffer covered := by
      rw [shown] at frame
      injection frame
    exact ⟨rfl, Picture.showsAlone_alone wide high⟩

section Buffered

open TerminalLibrary

/-- On a terminal that is too low a frame is a fault, and the picture is there as soon as the
terminal is large enough, with nothing beside it if every frame is drawn afresh; one lit pixel is
one white cell. -/
theorem takeAll_shows_resized :
    ((fresh buffered ⟨80, 24⟩).takeAll [.draw]).1[0]? = some .fault ∧
    (∃ screen : Screen (buffered.covered ⟨80, 40⟩),
      ((fresh buffered ⟨80, 24⟩).takeAll [.draw, .resize ⟨80, 40⟩, .draw]).1[2]? =
        some (.shown ⟨80, 40⟩ screen) ∧ Picture.Shows .blank screen) ∧
    (∃ screen : Screen (buffered.covered ⟨80, 40⟩),
      ((fresh buffered ⟨80, 40⟩).takeAll [.plot [⟨3, 5, true⟩], .draw, .clear]).1[1]? =
        some (.shown ⟨80, 40⟩ screen) ∧
      Picture.ShowsAlone (Framebuffer.blank.set 3 5 true) screen ∧
      coloured .white .reset screen.lines = 1) ∧
    ∃ screen : Screen (buffered.afresh.covered ⟨80, 40⟩),
      ((fresh buffered.afresh ⟨80, 24⟩).takeAll [.draw, .resize ⟨80, 40⟩, .draw]).1[2]? =
        some (.shown ⟨80, 40⟩ screen) ∧ Picture.ShowsAlone .blank screen := by
  refine ⟨?_, ?_, ?_, ?_⟩
  · exact (takeAll_shows buffered_lawful ⟨80, 24⟩ [] []).2.2.1 (by decide)
  · obtain ⟨screen, shown, shows, -⟩ := (takeAll_shows buffered_lawful ⟨80, 24⟩
      [.draw, .resize ⟨80, 40⟩] []).2.2.2.2.2 (by decide) (by decide)
    exact ⟨screen, shown, shows⟩
  · obtain ⟨screen, shown, -, alone⟩ := (takeAll_shows buffered_lawful ⟨80, 40⟩
      [.plot [⟨3, 5, true⟩]] [.clear]).2.2.2.2.2 (by decide) (by decide)
    obtain ⟨-, showsAlone⟩ := alone (.inr rfl)
    exact ⟨screen, shown, showsAlone, showsAlone.white_only.trans (by decide +kernel)⟩
  · obtain ⟨screen, shown, -, alone⟩ := (takeAll_shows (lawful_afresh buffered_lawful) ⟨80, 24⟩
      [.draw, .resize ⟨80, 40⟩] []).2.2.2.2.2 (by decide) (by decide)
    obtain ⟨-, showsAlone⟩ := alone (.inl (fullRedraw_afresh buffered))
    exact ⟨screen, shown, showsAlone⟩

/-- A terminal with 66 columns and 34 rows, and many more columns, is a fault with every lawful
library: the frame covers a part of it that is too low. -/
theorem oblong_terminal_fault :
    (∀ library : TerminalLibrary, library.Lawful →
      ¬ (((fresh library ⟨3000, 34⟩).takeAll [.draw]).1[0]? = some .fault ↔
        3000 < 66 ∨ 34 < 34)) ∧ buffered.Lawful := by
  refine ⟨fun library lawful same => ?_, buffered_lawful⟩
  have part : (library.covered ⟨3000, 34⟩).columns < 66 ∨ (library.covered ⟨3000, 34⟩).rows < 34 :=
    lawful.covered_oblong (.inr (by decide))
  have fault := (drawFrame_fault_iff lawful (fresh library ⟨3000, 34⟩)).mpr part
  have reply := getElem?_takeAll (fresh library ⟨3000, 34⟩) [] .draw []
  exact absurd (same.mp (reply.trans (congrArg some fault))) (by decide)

end Buffered

end Monitor

end Cosmac
