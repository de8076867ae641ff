/-
**Options: the command lines that name a program.**

The flag of the literal keymap may stand anywhere and does not count. What is left of the arguments
must be one path, and no request for help: nothing depends on the order of the arguments.

* `Options.operands` — the arguments that count.
* `Options.Names` — the arguments name the program at a path.
* `Options.parse_eq_some_iff`, `Options.parse_of_names`, `Options.parse_eq_none_iff` — what
  arguments ask for, if anything.
-/

import Cosmac.Launch.Options

namespace Cosmac.Options

/-- The arguments that are not the flag of the literal keymap. -/
def operands (arguments : List String) : List String :=
  arguments.filter fun argument => argument ≠ literalKeysFlag

/-- The arguments name the program at a path. -/
structure Names (arguments : List String) (path : String) : Prop where
  /-- The path is the one argument that counts. -/
  operands_eq : operands arguments = [path]
  not_help : path ∉ helpFlags

theorem Names.eq {arguments : List String} {path other : String} (named : Names arguments path)
    (alsoNamed : Names arguments other) : path = other :=
  List.singleton_inj.mp (named.operands_eq.symm.trans alsoNamed.operands_eq)

/-! ### One more argument in front -/

section Cons

variable {argument path : String} (later : List String)

theorem operands_flag : operands (literalKeysFlag :: later) = operands later :=
  List.filter_cons_of_neg (by simp)

theorem operands_cons (counts : argument ≠ literalKeysFlag) :
    operands (argument :: later) = argument :: operands later :=
  List.filter_cons_of_pos (decide_eq_true counts)

theorem names_flag : Names (literalKeysFlag :: later) path ↔ Names later path := by
  have same := operands_flag later
  exact ⟨fun named => ⟨same ▸ named.operands_eq, named.not_help⟩,
    fun named => ⟨same ▸ named.operands_eq, named.not_help⟩⟩

theorem names_cons (counts : argument ≠ literalKeysFlag) :
    Names (argument :: later) path ↔
      argument ∉ helpFlags ∧ operands later = [] ∧ argument = path := by
  constructor
  · rintro ⟨alone, known⟩
    rw [operands_cons later counts] at alone
    obtain ⟨rfl, nothing⟩ := List.cons.inj alone
    exact ⟨known, nothing, rfl⟩
  · rintro ⟨known, nothing, rfl⟩
    exact ⟨by rw [operands_cons later counts, nothing], known⟩

end Cons

/-! ### The scan -/

/-- Once a program is named, no argument that counts may follow. -/
theorem parseFrom_some (path : String) (literalKeys : Bool) (arguments : List String) :
    parseFrom (some path) literalKeys arguments =
      if operands arguments = [] then
        some ⟨path, literalKeys || decide (literalKeysFlag ∈ arguments)⟩
      else none := by
  induction arguments generalizing literalKeys with
  | nil => cases literalKeys <;> rfl
  | cons argument later ih =>
    by_cases flag : argument = literalKeysFlag
    case pos =>
      subst flag
      rw [parseFrom, if_pos rfl, ih, operands_flag, decide_eq_true List.mem_cons_self,
        Bool.or_true, Bool.true_or]
    case neg =>
      rw [parseFrom, if_neg flag, if_pos (Or.inr rfl : _ ∨ (some path).isSome = true),
        operands_cons later flag, if_neg (List.cons_ne_nil _ _)]

/-- What is asked for as long as no program is named. The induction is on the arguments; whether the
flag has been met goes along. -/
theorem parseFrom_none_eq_some_iff {literalKeys : Bool} {arguments : List String}
    {options : Options} :
    parseFrom none literalKeys arguments = some options ↔
      Names arguments options.program ∧
        (literalKeys || decide (literalKeysFlag ∈ arguments)) = options.literalKeys := by
  induction arguments generalizing literalKeys with
  | nil => exact iff_of_false nofun fun found => nomatch found.1.operands_eq
  | cons argument later ih =>
    by_cases flag : argument = literalKeysFlag
    case pos =>
      subst flag
      rw [parseFrom, if_pos rfl, ih, names_flag, decide_eq_true List.mem_cons_self, Bool.or_true,
        Bool.true_or]
    case neg =>
      have same : decide (literalKeysFlag ∈ argument :: later) =
          decide (literalKeysFlag ∈ later) :=
        decide_eq_decide.mpr (List.mem_cons.trans (or_iff_right (Ne.symm flag)))
      rw [parseFrom, if_neg flag, names_cons later flag, same]
      by_cases help : argument ∈ helpFlags
      case pos =>
        rw [if_pos (Or.inl help)]
        exact iff_of_false nofun fun found => found.1.1 help
      case neg =>
        rw [if_neg (by simpa using help), parseFrom_some]
        by_cases nothing : operands later = []
        case pos =>
          obtain ⟨program, chosen⟩ := options
          rw [if_pos nothing, Option.some.injEq, Options.mk.injEq]
          simp only [help, nothing, not_false_eq_true, true_and]
        case neg =>
          rw [if_neg nothing]
          exact iff_of_false nofun fun found => nothing found.1.2.1

/-- **What arguments ask for**: the program that they name, with the literal keymap if its flag is
anywhere among them. -/
theorem parse_eq_some_iff {arguments : List String} {options : Options} :
    parse arguments = some options ↔
      Names arguments options.program ∧
        decide (literalKeysFlag ∈ arguments) = options.literalKeys := by
  rw [parse, parseFrom_none_eq_some_iff, Bool.false_or]

theorem parse_of_names {arguments : List String} {path : String} (named : Names arguments path) :
    parse arguments = some ⟨path, decide (literalKeysFlag ∈ arguments)⟩ :=
  parse_eq_some_iff.mpr ⟨named, rfl⟩

/-- **Arguments that name no program are answered with the usage line.** -/
theorem parse_eq_none_iff {arguments : List String} :
    parse arguments = none ↔ ∀ path, ¬ Names arguments path := by
  rw [Option.eq_none_iff_forall_ne_some]
  constructor
  · intro nothing path named
    exact nothing _ (parse_of_names named)
  · intro unnamed options found
    exact unnamed options.program (parse_eq_some_iff.mp found).1

end Cosmac.Options
