/-
**The grammar of command lines.**

A command line is one path that is no request for help, with the flag of the literal keymap anywhere
around it and any number of times. Such a line starts the program on that path, and every other one
is answered with the usage line. Where the flag stands does not matter, and whether it stands there
at all chooses the keymap and nothing else.

* `Options.names_iff` — a line of the grammar, spelt out.
* `Options.names_congr`, `Options.parse_congr` — lines that differ in the flag only.
* `Opening.status_ofOptions`, `Session.status_play`, `Session.status_run_of_names` — a program that
  has been named never exits with the status of misuse, so `Session.status_run_eq_misuse_iff`.
* `Session.run_by_grammar` — what command lines lead to.
-/

import Cosmac.Proofs.Launch.Session

namespace Cosmac

namespace Options

theorem names_iff {arguments : List String} {path : String} :
    Names arguments path ↔ operands arguments = [path] ∧ path ≠ "-h" ∧ path ≠ "--help" := by
  have known : path ∉ helpFlags ↔ path ≠ "-h" ∧ path ≠ "--help" := by simp [helpFlags]
  rw [← known]
  exact ⟨fun named => ⟨named.operands_eq, named.not_help⟩, fun both => ⟨both.1, both.2⟩⟩

section Congr

variable {arguments other : List String} (same : operands other = operands arguments)

include same

theorem names_congr {path : String} : Names other path ↔ Names arguments path := by
  rw [names_iff, names_iff, same]

/-- Lines that both have the flag, or both have not, ask for the same. -/
theorem parse_congr (flag : literalKeysFlag ∈ other ↔ literalKeysFlag ∈ arguments) :
    parse other = parse arguments := by
  refine Option.ext fun options => ?_
  rw [parse_eq_some_iff, parse_eq_some_iff, names_congr same, decide_eq_decide.mpr flag]

end Congr

end Options

/-! ### The status of misuse -/

/-- An opening with options exits with an error, if it exits. -/
theorem Opening.status_ofOptions {disk : Disk} {hasTerminal : Bool} {options : Options}
    {status : Nat} {said : List String}
    (exits : ofOptions disk hasTerminal options = .exit status said) :
    status = Session.failure := by
  unfold ofOptions at exits
  cases outcome : (Machine.powerOn.loadPath disk options.program).outcome with
  | error error =>
    simp only [outcome] at exits
    cases exits
    rfl
  | ok count =>
    simp only [outcome] at exits
    split at exits
    · cases exits
    · cases exits
      rfl

namespace Session

variable {library : TerminalLibrary}

theorem status?_ne_misuse {terminal : Size} (round : Round library terminal) :
    round.status? ≠ some misuse := by
  unfold Round.status?
  split
  · decide
  · split
    · decide
    · exact nofun

/-- The rounds of a program never end with the status of misuse, whatever they show. The induction
is on the batches; each round may leave any keyboard and any keypad, and the library anything. -/
theorem status_play (terminal : Size) (framebuffer : Framebuffer) (kept : library.Kept)
    (keyboard : Keyboard) (keypad : Keypad) (batches : List (List Event)) :
    (play library terminal framebuffer kept keyboard keypad batches).status ≠ some misuse := by
  induction batches generalizing kept keyboard keypad with
  | nil => exact nofun
  | cons events later ih =>
    have round := status?_ne_misuse
      (Round.of library terminal kept keyboard keypad framebuffer events)
    unfold play
    cases ended : (Round.of library terminal kept keyboard keypad framebuffer events).status? with
    | some status =>
      rw [ended] at round
      simp only [ended]
      exact round
    | none =>
      simp only [ended]
      exact ih _ _ _

section Run

variable {surroundings : Surroundings} {arguments : List String} {path : String}

theorem status_run_of_names (named : Options.Names arguments path) :
    (run library surroundings arguments).status ≠ some misuse := by
  rw [run, ofArguments_of_names named]
  cases opened : Opening.ofOptions surroundings.disk surroundings.hasTerminal
      ⟨path, decide (Options.literalKeysFlag ∈ arguments)⟩ with
  | exit status said =>
    obtain rfl := Opening.status_ofOptions opened
    show some failure ≠ some misuse
    decide
  | ready said keyboard machine => exact status_play _ _ _ _ _ _

/-- **The status of misuse tells that the line is not of the grammar.** -/
theorem status_run_eq_misuse_iff :
    (run library surroundings arguments).status = some misuse ↔
      ∀ path, ¬ Options.Names arguments path := by
  constructor
  · exact fun misused path named => status_run_of_names named misused
  · intro unnamed
    have usage : run library surroundings arguments =
        ⟨some misuse, [Options.usage], [], surroundings.batches, 0⟩ := run_of_misused unnamed
    rw [usage]

/-- A run depends on the arguments by what they ask for. -/
theorem run_congr {other : List String} (same : Options.parse other = Options.parse arguments) :
    run library surroundings other = run library surroundings arguments := by
  simp only [run, Opening.ofArguments, same]

end Run

/-- **Command lines are accepted by their grammar.** If one argument is left without the flag of the
literal keymap, and it is no request for help, it is the path of the program: the literal keymap is
chosen if the flag is anywhere on the line and the other one if not, the program is loaded from that
path, and the run never ends with the status of misuse. Every other line is answered with the usage
line and that status, before anything is opened or read. Lines that are the same without the flag
are accepted alike, and have the same run if both have the flag or both have not. -/
theorem run_by_grammar (library : TerminalLibrary) (surroundings : Surroundings)
    (arguments : List String) :
    let counting := arguments.filter fun argument => argument ≠ "--literal-keys"
    let keymap : Keymap := if "--literal-keys" ∈ arguments then .literal else .leftHand
    let opening := Opening.ofArguments surroundings.disk surroundings.hasTerminal arguments
    let session := run library surroundings arguments
    (∀ path, counting = [path] → path ≠ "-h" → path ≠ "--help" →
      (∃ options, Options.parse arguments = some options ∧ options.program = path ∧
        options.keymap = keymap) ∧
      (let report := Machine.powerOn.loadPath surroundings.disk path
      (∀ error, report.outcome = .error error →
        opening = .exit 1 ["Error: " ++ error.message]) ∧
      (∀ count, report.outcome = .ok count → surroundings.hasTerminal = true →
        opening = .ready [Opening.loadedLine count path] (.ofKeymap keymap) report.target)) ∧
      session.status ≠ some 2) ∧
    ((∀ path, counting = [path] → path = "-h" ∨ path = "--help") →
      Options.parse arguments = none ∧
      session = ⟨some 2, ["usage: chip8-core <rom> [--literal-keys]"], [],
        surroundings.batches, 0⟩) ∧
    (∀ other, (other.filter fun argument => argument ≠ "--literal-keys") = counting →
      ((run library surroundings other).status = some 2 ↔ session.status = some 2) ∧
      (("--literal-keys" ∈ other ↔ "--literal-keys" ∈ arguments) →
        Options.parse other = Options.parse arguments ∧
        run library surroundings other = session)) := by
  intro counting keymap opening session
  refine ⟨fun path alone notH notHelp => ?_, fun others => ?_, fun other same => ⟨?_, fun flag => ?_⟩⟩
  · have named : Options.Names arguments path := Options.names_iff.mpr ⟨alone, notH, notHelp⟩
    refine ⟨⟨_, Options.parse_of_names named, rfl, ?_⟩,
      ⟨fun error refused => ?_, fun count loaded onTerminal => ?_⟩, status_run_of_names named⟩
    · simp only [Options.keymap, decide_eq_true_eq]
      rfl
    · exact ofArguments_of_refused named refused _
    · show Opening.ofArguments surroundings.disk surroundings.hasTerminal arguments = _
      rw [onTerminal]
      exact ofArguments_of_loaded named loaded
  · have unnamed : ∀ path, ¬ Options.Names arguments path := by
      intro path named
      obtain ⟨alone, notH, notHelp⟩ := Options.names_iff.mp named
      exact (others path alone).elim notH notHelp
    exact ⟨Options.parse_eq_none_iff.mpr unnamed, (run_of_misused unnamed).trans rfl⟩
  · show (run library surroundings other).status = some misuse ↔ session.status = some misuse
    rw [status_run_eq_misuse_iff, status_run_eq_misuse_iff]
    exact forall_congr' fun path => not_congr (Options.names_congr same)
  · have asked := Options.parse_congr same flag
    exact ⟨asked, run_congr asked⟩

/-- A path that begins with a dash between two flags; a second path and a request for help; and an
empty path with the flag behind it, or twice before it. -/
theorem run_by_grammar_dashed :
    let surroundings : Surroundings :=
      ⟨fun _ => .ok ⟨.ok ⟨true, 2⟩, .ofBytes [0x12, 0x34]⟩, ⟨80, 40⟩, true, [[.escape]]⟩
    (∃ options, Options.parse ["--literal-keys", "-x", "--literal-keys"] = some options ∧
      options.program = "-x" ∧ options.keymap = .literal) ∧
    Opening.ofArguments surroundings.disk true ["--literal-keys", "-x", "--literal-keys"] =
      .ready ["loaded 2 bytes from -x at 0x200"] ⟨.literal, false⟩
        (Machine.powerOn.loadPath surroundings.disk "-x").target ∧
    run .buffered surroundings ["rom", "--help", "--literal-keys"] =
      ⟨some 2, ["usage: chip8-core <rom> [--literal-keys]"], [], [[.escape]], 0⟩ ∧
    run .buffered surroundings ["", "--literal-keys"] =
      run .buffered surroundings ["--literal-keys", "--literal-keys", ""] := by
  intro surroundings
  obtain ⟨accepted, -, -⟩ :=
    run_by_grammar .buffered surroundings ["--literal-keys", "-x", "--literal-keys"]
  obtain ⟨-, refused, -⟩ :=
    run_by_grammar .buffered surroundings ["rom", "--help", "--literal-keys"]
  obtain ⟨-, -, moved⟩ :=
    run_by_grammar .buffered surroundings ["--literal-keys", "--literal-keys", ""]
  obtain ⟨asked, ⟨-, ready⟩, -⟩ := accepted "-x" (by decide) (by decide) (by decide)
  have line : Opening.loadedLine 2 "-x" = "loaded 2 bytes from -x at 0x200" := by decide
  refine ⟨asked, ?_, (refused fun path alone => ?_).2, ?_⟩
  · rw [← line]
    exact ready 2 rfl rfl
  · have lengths : 2 = 1 := congrArg List.length alone
    exact absurd lengths (by decide)
  · exact ((moved ["", "--literal-keys"] (by decide)).2 (by decide)).2

end Session

end Cosmac
