/-
**Sessions: how far the program gets, and what it leaves.**

A session ends at the first thing that is wrong: arguments that name no program, a program that
cannot be loaded, a terminal that the picture does not fit on. With nothing wrong, every poll is
followed by the same frame, that of the framebuffer as the machine was switched on, and the poll
that meets escape is the last; it still takes all of its events, and its frame is still drawn.

* `Session.complaints` — what is said of the characters of a batch that stand for no key.
* `Session.play_small`, `Session.play_escape`, `Session.play_calm` — one round, for each way that it
  can go.
* `Session.play_until_escape` — the rounds up to the one that meets escape.
* `Stage`, `Stage.existsUnique_isReached` — how far a session gets before anything is drawn.
* `Session.ofArguments_of_refused`, `Session.ofArguments_of_loaded` — how a session opens whose
  arguments name a program.
* `Session.run_of_misused`, `Session.run_of_refused`, `Session.run_of_loaded` — where each stage
  leads; `Session.run_until_escape` follows the last to its end.
* `Session.run_in_stages` — what a session leaves, stage by stage.
-/

import Cosmac.Launch.Session
import Cosmac.Proofs.Keyboard.Batches
import Cosmac.Proofs.Launch.Options
import Cosmac.Proofs.Screen.Buffered
import Cosmac.Proofs.Screen.Counts
import Mathlib.Logic.ExistsUnique

namespace Cosmac

namespace Session

/-- What is said of the characters of a batch that stand for no key. -/
def complaints (keymap : Keymap) (events : List Event) : List String :=
  ((events.filterMap Event.character?).filter fun typed =>
    typed.toLower ∉ keymap.characters).map Keyboard.warning

theorem complaints_eq (keyboard : Keyboard) (keypad : Keypad) (events : List Event) :
    complaints keyboard.keymap events = (keyboard.poll keypad events).warnings :=
  (keyboard.warnings_poll keypad events).symm

theorem complaints_append (keymap : Keymap) (first second : List Event) :
    complaints keymap (first ++ second) =
      complaints keymap first ++ complaints keymap second := by
  rw [complaints, List.filterMap_append, List.filter_append, List.map_append]
  rfl

/-! ### One round -/

/-- What is said and shown before a session that ends at once. -/
theorem after_ended {size : Size} (said : List String) (frames : List (Screen size))
    (status : Option Nat) (later : List (List Event)) (closingLines : Nat) :
    after said frames ⟨status, [], [], later, closingLines⟩ =
      ⟨status, said, frames, later, closingLines⟩ := by
  rw [after, List.append_nil, List.append_nil]

section Round

variable {library : TerminalLibrary} (lawful : library.Lawful) {terminal : Size}
  (framebuffer : Framebuffer) {kept : library.Kept} (keyboard : Keyboard) (keypad : Keypad)
  {events : List Event} (later : List (List Event))

theorem round_of_drawn {shown : Option (Screen (library.covered terminal))} {next : library.Kept}
    (drawn : library.draw kept terminal (Picture.panel framebuffer) = (shown, next)) :
    Round.of library terminal kept keyboard keypad framebuffer events =
      ⟨keyboard.poll keypad events, shown, next⟩ := by
  rw [Round.of, drawn]

include lawful

/-- A picture that cannot be drawn ends the session after what the poll says. -/
theorem play_small (small : (library.covered terminal).columns < 66 ∨
      (library.covered terminal).rows < 34) :
    play library terminal framebuffer kept keyboard keypad (events :: later) =
      ⟨some crash, complaints keyboard.keymap events, [], later, 0⟩ := by
  obtain ⟨next, drawn⟩ : ∃ next,
      library.draw kept terminal (Picture.panel framebuffer) = (none, next) :=
    ⟨_, Prod.ext ((Picture.draw_eq_none_iff framebuffer lawful kept terminal).mpr small) rfl⟩
  rw [complaints_eq keyboard keypad]
  unfold play
  simp only [round_of_drawn framebuffer keyboard keypad drawn, Round.status?, Option.isNone_none,
    if_true]
  exact after_ended ..

variable (settled : library.Settled kept) (wide : 66 ≤ (library.covered terminal).columns)
  (high : 34 ≤ (library.covered terminal).rows)

include settled wide high

/-- The poll that meets escape is the last, and takes all of its events. -/
theorem play_escape (escape : events.any Event.isEscape = true) :
    play library terminal framebuffer kept keyboard keypad (events :: later) =
      ⟨some success, complaints keyboard.keymap events,
        [Picture.alone framebuffer (library.covered terminal)], later, 34⟩ := by
  obtain ⟨next, -, drawn⟩ := Picture.draw_settled framebuffer lawful settled wide high
  have asked : (keyboard.poll keypad events).keyboard.stopAsked = true := by
    rw [Keyboard.keyboard_poll, escape, Bool.or_true]
  rw [complaints_eq keyboard keypad]
  unfold play
  simp only [round_of_drawn framebuffer keyboard keypad drawn, Round.status?, Round.closingLines,
    asked]
  exact after_ended ..

/-- A poll without escape leaves the keyboard as it was, and goes on. -/
theorem play_calm (calm : keyboard.stopAsked = false) (quiet : events.any Event.isEscape = false) :
    ∃ next, library.Settled next ∧
      play library terminal framebuffer kept keyboard keypad (events :: later) =
        (play library terminal framebuffer next keyboard (keyboard.poll keypad events).keypad
          later).after (complaints keyboard.keymap events)
            [Picture.alone framebuffer (library.covered terminal)] := by
  obtain ⟨next, settled_next, drawn⟩ := Picture.draw_settled framebuffer lawful settled wide high
  have same : (keyboard.poll keypad events).keyboard = keyboard := by
    rw [Keyboard.keyboard_poll, quiet, Bool.or_false]
  refine ⟨next, settled_next, ?_⟩
  rw [complaints_eq keyboard keypad]
  rw [play]
  simp only [round_of_drawn framebuffer keyboard keypad drawn, Round.status?, same, calm]
  rfl

/-- **The rounds up to the one that meets escape.** The induction is on the batches before it: the
keyboard stays as it is and the library settled, and only the keypad changes. -/
theorem play_until_escape (calm : keyboard.stopAsked = false) (earlier : List (List Event))
    (quiet : ∀ batch ∈ earlier, batch.any Event.isEscape = false)
    (escape : events.any Event.isEscape = true) :
    play library terminal framebuffer kept keyboard keypad (earlier ++ events :: later) =
      ⟨some success, complaints keyboard.keymap (earlier.flatten ++ events),
        List.replicate (earlier.length + 1) (Picture.alone framebuffer (library.covered terminal)),
        later, 34⟩ := by
  induction earlier generalizing keypad kept with
  | nil => exact play_escape lawful framebuffer keyboard keypad later settled wide high escape
  | cons batch rest ih =>
    obtain ⟨quiet_now, quiet_later⟩ := List.forall_mem_cons.mp quiet
    obtain ⟨next, settled_next, played⟩ := play_calm lawful framebuffer keyboard keypad
      (rest ++ events :: later) settled wide high calm quiet_now
    rw [List.cons_append, played, ih _ settled_next quiet_later, List.flatten_cons,
      List.append_assoc, complaints_append keyboard.keymap batch]
    rfl

end Round

end Session

/-! ### Stages -/

/-- How far a session gets before anything is drawn. -/
inductive Stage where
  /-- The arguments name no program. -/
  | misused
  /-- The program that they name cannot be loaded. -/
  | refused (path : String) (error : LoadError)
  /-- The program that they name is loaded. -/
  | loaded (path : String) (count : Nat)

namespace Stage

/-- What the arguments and the disk must be for a session to get that far. -/
def IsReached (disk : Disk) (arguments : List String) : Stage → Prop
  | misused => ∀ path, ¬ Options.Names arguments path
  | refused path error =>
    Options.Names arguments path ∧ (Machine.powerOn.loadPath disk path).outcome = .error error
  | loaded path count =>
    Options.Names arguments path ∧ (Machine.powerOn.loadPath disk path).outcome = .ok count

/-- **A session gets to one stage and no other.** -/
theorem existsUnique_isReached (disk : Disk) (arguments : List String) :
    ∃! stage : Stage, stage.IsReached disk arguments := by
  by_cases named : ∃ path, Options.Names arguments path
  case neg =>
    refine ⟨misused, not_exists.mp named, ?_⟩
    rintro (_ | ⟨path, error⟩ | ⟨path, count⟩) reached
    · rfl
    · exact absurd ⟨path, reached.1⟩ named
    · exact absurd ⟨path, reached.1⟩ named
  case pos =>
    obtain ⟨path, named⟩ := named
    cases came : (Machine.powerOn.loadPath disk path).outcome with
    | error error =>
      refine ⟨refused path error, ⟨named, came⟩, ?_⟩
      rintro (_ | ⟨other, found⟩ | ⟨other, found⟩) reached
      · exact absurd named (reached path)
      · obtain rfl := named.eq reached.1
        rw [Except.error.inj (came.symm.trans reached.2)]
      · obtain rfl := named.eq reached.1
        cases came.symm.trans reached.2
    | ok count =>
      refine ⟨loaded path count, ⟨named, came⟩, ?_⟩
      rintro (_ | ⟨other, found⟩ | ⟨other, found⟩) reached
      · exact absurd named (reached path)
      · obtain rfl := named.eq reached.1
        cases came.symm.trans reached.2
      · obtain rfl := named.eq reached.1
        rw [Except.ok.inj (came.symm.trans reached.2)]

end Stage

namespace Session

/-- The keymap that arguments choose. -/
def keymapOf (arguments : List String) : Keymap :=
  if Options.literalKeysFlag ∈ arguments then .literal else .leftHand

section Run

variable {library : TerminalLibrary} {surroundings : Surroundings} {arguments : List String}
  {path : String}

theorem run_of_misused (reached : Stage.misused.IsReached surroundings.disk arguments) :
    run library surroundings arguments =
      ⟨some misuse, [Options.usage], [], surroundings.batches, 0⟩ := by
  rw [run, Opening.ofArguments, Options.parse_eq_none_iff.mpr reached]

theorem ofArguments_of_names (named : Options.Names arguments path) (disk : Disk)
    (hasTerminal : Bool) :
    Opening.ofArguments disk hasTerminal arguments =
      .ofOptions disk hasTerminal ⟨path, decide (Options.literalKeysFlag ∈ arguments)⟩ := by
  rw [Opening.ofArguments, Options.parse_of_names named]

/-- A program that cannot be loaded ends the opening with its error. -/
theorem ofArguments_of_refused (named : Options.Names arguments path) {disk : Disk}
    {error : LoadError} (refused : (Machine.powerOn.loadPath disk path).outcome = .error error)
    (hasTerminal : Bool) :
    Opening.ofArguments disk hasTerminal arguments =
      .exit failure [Opening.errorLine error.message] := by
  rw [ofArguments_of_names named, Opening.ofOptions]
  simp only [refused]

/-- A program that is loaded is ready to go on, with the keymap that the arguments choose. -/
theorem ofArguments_of_loaded (named : Options.Names arguments path) {disk : Disk} {count : Nat}
    (loaded : (Machine.powerOn.loadPath disk path).outcome = .ok count) :
    Opening.ofArguments disk true arguments =
      .ready [Opening.loadedLine count path] (.ofKeymap (keymapOf arguments))
        (Machine.powerOn.loadPath disk path).target := by
  rw [ofArguments_of_names named, Opening.ofOptions]
  simp only [loaded, if_true, Options.keymap, decide_eq_true_eq]
  rfl

theorem run_of_refused {error : LoadError}
    (reached : (Stage.refused path error).IsReached surroundings.disk arguments) :
    run library surroundings arguments =
      ⟨some failure, ["Error: " ++ error.message], [], surroundings.batches, 0⟩ := by
  obtain ⟨named, failed⟩ := reached
  rw [run, ofArguments_of_refused named failed]
  rfl

/-- With a program loaded, the rounds begin on a blank framebuffer, whatever the program is. -/
theorem run_of_loaded {count : Nat} (onTerminal : surroundings.hasTerminal = true)
    (reached : (Stage.loaded path count).IsReached surroundings.disk arguments) :
    run library surroundings arguments =
      (play library surroundings.terminal .blank (library.start surroundings.terminal)
        (.ofKeymap (keymapOf arguments)) .empty surroundings.batches).after
          [Opening.loadedLine count path] [] := by
  obtain ⟨named, loaded⟩ := reached
  rw [run, onTerminal, ofArguments_of_loaded named loaded]
  rfl

/-- However what is typed is cut into batches, the same is said of it, and only the number of frames
tells how many there were. -/
theorem run_until_escape (lawful : library.Lawful) {count : Nat}
    {earlier later : List (List Event)} {events : List Event}
    (onTerminal : surroundings.hasTerminal = true)
    (reached : (Stage.loaded path count).IsReached surroundings.disk arguments)
    (wide : 66 ≤ (library.covered surroundings.terminal).columns)
    (high : 34 ≤ (library.covered surroundings.terminal).rows)
    (typed : surroundings.batches = earlier ++ events :: later)
    (quiet : ∀ batch ∈ earlier, batch.any Event.isEscape = false)
    (escape : events.any Event.isEscape = true) :
    run library surroundings arguments =
      ⟨some success,
        Opening.loadedLine count path ::
          complaints (keymapOf arguments) (earlier.flatten ++ events),
        List.replicate (earlier.length + 1)
          (Picture.alone .blank (library.covered surroundings.terminal)), later, 34⟩ := by
  rw [run_of_loaded onTerminal reached, typed, play_until_escape lawful .blank _ _ later
    (.start surroundings.terminal) wide high rfl earlier quiet escape]
  rfl

end Run

/-- **A session, stage by stage**, with a lawful terminal library. It gets to one stage and no
other. Arguments that name no program are answered with the usage line, and a program that cannot be
loaded with its error: nothing is drawn, and no event is read. Otherwise the program says what it
has loaded, and all of the first batch is taken, on both sides of escape. If a frame covers enough
of the terminal, one frame is drawn, which is the picture of a blank framebuffer and nothing else,
and the program exits with nothing wrong; if not, drawing it is a panic. A frame covers the terminal
as a whole if it has up to 65535 cells, and never enough of one that is too small. -/
theorem run_in_stages {library : TerminalLibrary} (lawful : library.Lawful) (disk : Disk)
    (terminal : Size) (arguments : List String) (events : List Event) (later : List (List Event))
    (escape : events.any Event.isEscape = true) :
    let session := run library ⟨disk, terminal, true, events :: later⟩ arguments
    let covered := library.covered terminal
    (∃! stage : Stage, stage.IsReached disk arguments) ∧
    (Stage.misused.IsReached disk arguments →
      session = ⟨some 2, ["usage: chip8-core <rom> [--literal-keys]"], [], events :: later, 0⟩) ∧
    (∀ path error, (Stage.refused path error).IsReached disk arguments →
      session = ⟨some 1, ["Error: " ++ error.message], [], events :: later, 0⟩) ∧
    (∀ path count, (Stage.loaded path count).IsReached disk arguments →
      session.said = ("loaded " ++ Text.decimal count ++ " bytes from " ++ path ++ " at 0x200") ::
        complaints (keymapOf arguments) events ∧
      session.unread = later ∧
      (66 ≤ covered.columns ∧ 34 ≤ covered.rows →
        session.status = some 0 ∧ session.closingLines = 34 ∧
        ∃ screen : Screen covered, session.frames = [screen] ∧
          screen = Picture.alone .blank covered ∧ Picture.ShowsAlone .blank screen) ∧
      (covered.columns < 66 ∨ covered.rows < 34 →
        session.status = some 101 ∧ session.closingLines = 0 ∧ session.frames = [])) ∧
    (terminal.area ≤ 65535 → covered = terminal) ∧
    (terminal.columns < 66 ∨ terminal.rows < 34 → covered.columns < 66 ∨ covered.rows < 34) := by
  intro session covered
  refine ⟨Stage.existsUnique_isReached disk arguments, fun misused => ?_,
    fun path error refused => run_of_refused refused, fun path count loaded => ?_,
    lawful.covered_whole, lawful.covered_small⟩
  · exact (run_of_misused misused).trans rfl
  have played : session = (play library terminal .blank (library.start terminal)
      (.ofKeymap (keymapOf arguments)) .empty (events :: later)).after
        [Opening.loadedLine count path] [] := run_of_loaded rfl loaded
  by_cases large : 66 ≤ covered.columns ∧ 34 ≤ covered.rows
  case pos =>
    obtain ⟨wide, high⟩ := large
    rw [play_escape lawful .blank _ _ later (.start terminal) wide high escape] at played
    rw [played]
    refine ⟨rfl, rfl, fun _ => ⟨rfl, rfl, _, rfl, rfl, Picture.showsAlone_alone wide high⟩,
      fun small => ?_⟩
    omega
  case neg =>
    have small : covered.columns < 66 ∨ covered.rows < 34 := by omega
    rw [play_small lawful .blank _ _ later small] at played
    rw [played]
    exact ⟨rfl, rfl, fun both => absurd both large, fun _ => ⟨rfl, rfl, rfl⟩⟩

section Buffered

open TerminalLibrary

/-- A character before escape and one after it, with the literal keymap. -/
theorem run_in_stages_accented :
    let disk : Disk := fun _ => .ok ⟨.ok ⟨true, 2⟩, .ofBytes [0x12, 0x34]⟩
    let arguments := ["--literal-keys", "rom.ch8"]
    let events := [.typed 'q', .escape, .typed 'é']
    let session := run buffered ⟨disk, ⟨80, 40⟩, true, [events]⟩ arguments
    events.any Event.isEscape = true ∧
    (Stage.loaded "rom.ch8" 2).IsReached disk arguments ∧
    session.said = ["loaded 2 bytes from rom.ch8 at 0x200",
      "Warning: can't map 'q' to a COSMAC key", "Warning: can't map 'é' to a COSMAC key"] ∧
    session.status = some 0 := by
  intro disk arguments events session
  have escape : events.any Event.isEscape = true := rfl
  have reached : (Stage.loaded "rom.ch8" 2).IsReached disk arguments :=
    ⟨⟨rfl, by decide⟩, rfl⟩
  obtain ⟨-, -, -, loaded, -⟩ :=
    run_in_stages buffered_lawful disk ⟨80, 40⟩ arguments events [] escape
  obtain ⟨said, -, large, -⟩ := loaded _ _ reached
  exact ⟨escape, reached, said.trans (by decide), (large (by decide)).1⟩

/-- A terminal with enough columns, and many more rows, is a panic with every lawful library: a
frame covers a part of it that is too narrow. -/
theorem run_on_tall_terminal :
    let disk : Disk := fun _ => .ok ⟨.ok ⟨true, 2⟩, .ofBytes [0x12, 0x34]⟩
    let surroundings : Surroundings := ⟨disk, ⟨70, 2000⟩, true, [[.escape, .typed 'é']]⟩
    (Stage.loaded "rom.ch8" 2).IsReached disk ["rom.ch8"] ∧
    (∀ library : TerminalLibrary, library.Lawful →
      ¬ ((run library surroundings ["rom.ch8"]).status = some 101 ↔ 70 < 66 ∨ 2000 < 34) ∧
      ¬ ((run library surroundings ["rom.ch8"]).status = some 0 ∧
        (run library surroundings ["rom.ch8"]).frames.length = 1)) ∧ buffered.Lawful := by
  intro disk surroundings
  have reached : (Stage.loaded "rom.ch8" 2).IsReached disk ["rom.ch8"] :=
    ⟨⟨rfl, by decide⟩, rfl⟩
  refine ⟨reached, fun library lawful => ?_, buffered_lawful⟩
  have narrow : (library.covered ⟨70, 2000⟩).columns < 66 ∨
      (library.covered ⟨70, 2000⟩).rows < 34 := lawful.covered_oblong (.inl (by decide))
  have played : run library surroundings ["rom.ch8"] = _ := run_of_loaded rfl reached
  have crashed : (run library surroundings ["rom.ch8"]).status = some 101 := by
    rw [played, play_small lawful .blank _ _ [] narrow]
    rfl
  rw [crashed]
  exact ⟨by decide, by simp⟩

end Buffered

end Session

end Cosmac
