/-
**Keyboards alike: the case of letters and entries that never count.**

Of a keymap a keyboard uses only the key of each typed character, and of a typed character only its
lower case and, if it stands for no key, the character itself. So two runs whose keymaps give the
same keys, and whose typed characters are pairwise equal in lower case, go side by side: the keypads
and the wish to stop are the same after every step, and the warnings stand at the same places. Three
changes are of this kind: a letter typed in the other case, an entry of the keymap that never counts
taken away, and the entries of the keymap in another order, if those for one character keep theirs.

* `SameLetter`, `KeepsLowerCase` — letters in either case, and what such a relation must keep.
* `Event.Retyped`, `Typing.Step.Retyped` — events and steps whose characters are related.
* `Keymap.SameKeys` — keymaps that give the same keys.
* `Keymap.Thinned`, `Keymap.Reordered` — entries taken away, and entries in another order.
* `Typing.Alike`, `Typing.take_alike`, `Typing.takeAll_alike` — what two such runs have in common,
  step by step and at the end.
* `Typing.takeAll_case_and_dead_entries` — the three changes.
-/

import Cosmac.Proofs.Keyboard.Batches
import Mathlib

namespace Cosmac

/-! ### Characters and events -/

/-- A character, or the same letter from A to Z in either case. -/
def SameLetter (typed retyped : Char) : Prop :=
  retyped = typed ∨ retyped = typed.toLower ∨ retyped = typed.toUpper

/-- Related characters have the same lower case. -/
def KeepsLowerCase (related : Char → Char → Prop) : Prop :=
  ∀ ⦃typed retyped : Char⦄, related typed retyped → typed.toLower = retyped.toLower

theorem keepsLowerCase_sameLetter : KeepsLowerCase SameLetter := by
  rintro typed _ (rfl | rfl | rfl)
  · rfl
  · exact (Char.toLower_toLower_eq_toLower typed).symm
  · exact (Char.toLower_toUpper_eq_toLower typed).symm

theorem keepsLowerCase_eq : KeepsLowerCase Eq := fun _ _ => congrArg Char.toLower

/-- Beyond ASCII no character has another lower case. -/
theorem toLower_of_not_ascii {typed : Char} (beyond : 128 ≤ typed.toNat) :
    typed.toLower = typed := by
  refine Char.toLower_eq_of_not_isUpper ?_
  simp only [Char.isUpper, ge_iff_le, UInt32.le_iff_toNat_le, Char.toNat_val, decide_eq_true_eq]
  intro ⟨_, letter⟩
  exact absurd (beyond.trans letter) (by decide)

variable {related : Char → Char → Prop}

namespace Event

/-- The same event, but that a related character may be typed in place of a character. -/
inductive Retyped (related : Char → Char → Prop) : Event → Event → Prop
  | character {typed retyped : Char} (modifiers : Modifiers) : related typed retyped →
      Retyped related (.key (.character typed) modifiers) (.key (.character retyped) modifiers)
  | same (event : Event) : event.character? = none → Retyped related event event

theorem Retyped.refl (reflexive : ∀ typed, related typed typed) (event : Event) :
    Retyped related event event := by
  cases types : event.character? with
  | none => exact .same event types
  | some typed =>
    unfold character? at types
    split at types
    · exact .character _ (reflexive _)
    · cases types

end Event

/-! ### Keymaps -/

namespace Keymap

/-- Every typed character has the same key in both, or none in both. -/
def SameKeys (keymap other : Keymap) : Prop := ∀ typed, keymap.key? typed = other.key? typed

theorem lookup?_cons (entry : Char × UInt8) (later : Keymap) (character : Char) :
    lookup? (entry :: later) character =
      (lookup? later character).or (if entry.1 = character then some entry.2 else none) := by
  rw [lookup?, List.reverse_cons, List.find?_append, Option.map_or, ← lookup?]
  by_cases same : entry.1 = character <;> simp [same]

/-- An entry that never counts with these after it: its character is an upper-case letter, or one of
these is for its character, too. -/
def Dead (entry : Char × UInt8) (later : Keymap) : Prop :=
  entry.1.isUpper = true ∨ ∃ other ∈ later, other.1 = entry.1

/-- Any entries that never count are taken away. -/
inductive Thinned : Keymap → Keymap → Prop
  | nil : Thinned [] []
  | keep (entry : Char × UInt8) {later rest : Keymap} : Thinned later rest →
      Thinned (entry :: later) (entry :: rest)
  | drop (entry : Char × UInt8) {later rest : Keymap} : Dead entry later → Thinned later rest →
      Thinned (entry :: later) rest

/-- A character that is no upper-case letter has the same key when entries that never count are
taken away. -/
theorem Thinned.lookup?_eq {keymap rest : Keymap} (thinned : Thinned keymap rest)
    {character : Char} (lower : character.isUpper = false) :
    keymap.lookup? character = rest.lookup? character := by
  induction thinned with
  | nil => rfl
  | keep entry _ ih => rw [lookup?_cons, lookup?_cons, ih]
  | @drop entry later rest dead _ ih =>
    rw [lookup?_cons, ← ih]
    by_cases same : entry.1 = character
    case neg => rw [if_neg same, Option.or_none]
    case pos =>
      obtain upper | ⟨other, member, shadows⟩ := dead
      · rw [same, lower] at upper
        cases upper
      · have listed : character ∈ later.characters :=
          List.mem_map.mpr ⟨other, member, shadows.trans same⟩
        obtain ⟨key, found⟩ : ∃ key, later.lookup? character = some key :=
          Option.ne_none_iff_exists'.mp fun missing => lookup?_eq_none_iff.mp missing listed
        rw [found, Option.some_or]

theorem Thinned.sameKeys {keymap rest : Keymap} (thinned : Thinned keymap rest) :
    keymap.SameKeys rest :=
  fun typed => thinned.lookup?_eq (Char.isUpper_toLower_eq_false typed)

/-- The same entries in another order, where those for one character stay in theirs. -/
structure Reordered (keymap other : Keymap) : Prop where
  perm : keymap.Perm other
  ordered : ∀ character, keymap.filter (fun entry => entry.1 = character) =
    other.filter fun entry => entry.1 = character

/-- Only the entries for a character decide its key. -/
theorem lookup?_filter (keymap : Keymap) (character : Char) :
    lookup? (keymap.filter fun entry => entry.1 = character) character =
      keymap.lookup? character := by
  rw [lookup?, ← List.filter_reverse, List.find?_filter, lookup?]
  simp only [decide_eq_true_eq, and_self]

theorem Reordered.sameKeys {keymap other : Keymap} (reordered : Reordered keymap other) :
    keymap.SameKeys other := by
  intro typed
  rw [key?, key?, ← lookup?_filter, reordered.ordered, lookup?_filter]

end Keymap

/-! ### What an event does on either keyboard -/

namespace Event.Retyped

variable {keymap other : Keymap} {event retyped : Event}

theorem isEscape_eq (same : Retyped related event retyped) :
    event.isEscape = retyped.isEscape := by
  cases same <;> rfl

theorem key?_eq (lower : KeepsLowerCase related) (keys : keymap.SameKeys other)
    (same : Retyped related event retyped) : event.key? keymap = retyped.key? other := by
  cases same with
  | @character typed retyped _ near =>
    show keymap.key? typed = other.key? retyped
    rw [keys, Keymap.key?, Keymap.key?, lower near]
  | same event silent => rw [key?, key?, silent]; rfl

/-- Both events set a character aside, and related ones, or neither does. -/
theorem unmapped?_rel (lower : KeepsLowerCase related) (keys : keymap.SameKeys other)
    (same : Retyped related event retyped) :
    Option.Rel related (event.unmapped? keymap) (retyped.unmapped? other) := by
  cases same with
  | @character typed retyped modifiers near =>
    have keyed : keymap.key? typed = other.key? retyped :=
      key?_eq lower keys (.character modifiers near)
    show Option.Rel related (Option.filter (fun typed => (keymap.key? typed).isNone) (some typed))
      (Option.filter (fun typed => (other.key? typed).isNone) (some retyped))
    rw [Option.filter_some, Option.filter_some, keyed]
    split
    · exact .some near
    · exact .none
  | same event silent =>
    rw [unmapped?, unmapped?, silent]
    exact .none

/-- The characters set aside stand at the same places of both batches. -/
theorem map_isSome_unmapped? (lower : KeepsLowerCase related) (keys : keymap.SameKeys other)
    {events others : List Event} (same : List.Forall₂ (Retyped related) events others) :
    events.map (fun event => (event.unmapped? keymap).isSome) =
      others.map fun event => (event.unmapped? other).isSome := by
  have present : ∀ {first second : Option Char}, Option.Rel related first second →
      first.isSome = second.isSome := by
    intro first second both
    cases both <;> rfl
  induction same with
  | nil => rfl
  | cons head _ ih =>
    rw [List.map_cons, List.map_cons, ih, present (head.unmapped?_rel lower keys)]

end Event.Retyped

/-! ### Polls on either keyboard -/

/-- Two lines that warn of related characters. -/
def Keyboard.WarnsAlike (related : Char → Char → Prop) (line other : String) : Prop :=
  ∃ typed retyped, related typed retyped ∧ line = warning typed ∧ other = warning retyped

namespace Keyboard

variable {keyboard other : Keyboard} {events retyped : List Event}

theorem keypad_poll_alike (lower : KeepsLowerCase related)
    (keys : keyboard.keymap.SameKeys other.keymap)
    (same : List.Forall₂ (Event.Retyped related) events retyped) (keypad : Keypad) :
    (keyboard.poll keypad events).keypad = (other.poll keypad retyped).keypad := by
  have pressed : events.filterMap (Event.key? keyboard.keymap) =
      retyped.filterMap (Event.key? other.keymap) := by
    induction same with
    | nil => rfl
    | cons head _ ih => rw [List.filterMap_cons, List.filterMap_cons, head.key?_eq lower keys, ih]
  rw [poll_eq, poll_eq, pressed]

theorem stopAsked_poll_alike (stopAsked : keyboard.stopAsked = other.stopAsked)
    (same : List.Forall₂ (Event.Retyped related) events retyped) (keypad : Keypad) :
    (keyboard.poll keypad events).keyboard.stopAsked =
      (other.poll keypad retyped).keyboard.stopAsked := by
  have escapes : events.any Event.isEscape = retyped.any Event.isEscape := by
    induction same with
    | nil => rfl
    | cons head _ ih => rw [List.any_cons, List.any_cons, head.isEscape_eq, ih]
  rw [keyboard_poll, keyboard_poll, stopAsked, escapes]

theorem warnings_poll_alike (lower : KeepsLowerCase related)
    (keys : keyboard.keymap.SameKeys other.keymap)
    (same : List.Forall₂ (Event.Retyped related) events retyped) (keypad : Keypad) :
    List.Forall₂ (WarnsAlike related) (keyboard.poll keypad events).warnings
      (other.poll keypad retyped).warnings := by
  have strange : List.Forall₂ related (events.filterMap (Event.unmapped? keyboard.keymap))
      (retyped.filterMap (Event.unmapped? other.keymap)) :=
    List.rel_filterMap (fun _ _ head => head.unmapped?_rel lower keys) same
  rw [Polled.warnings, Polled.warnings, poll_eq, poll_eq, List.forall₂_map_left_iff,
    List.forall₂_map_right_iff]
  exact strange.imp fun typed retyped near => ⟨typed, retyped, near, rfl, rfl⟩

end Keyboard

/-! ### Runs on either keyboard -/

namespace Typing

/-- The same step, but that events may be typed in place of events. -/
inductive Step.Retyped (related : Char → Char → Prop) : Step → Step → Prop
  | poll {events retyped : List Event} : List.Forall₂ (Event.Retyped related) events retyped →
      Retyped related (.poll events) (.poll retyped)
  | press (key : UInt8) : Retyped related (.press key) (.press key)
  | renew (keymap : Keymap) : Retyped related (.renew keymap) (.renew keymap)

theorem Step.Retyped.refl (reflexive : ∀ typed, related typed typed) (step : Step) :
    Step.Retyped related step step := by
  cases step with
  | poll events => exact .poll (List.forall₂_same.mpr fun event _ => .refl reflexive event)
  | press key => exact .press key
  | renew keymap => exact .renew keymap

/-- Keypads and wishes to stop are the same, and so are the keys of all characters. -/
structure Alike (first second : Typing) : Prop where
  keys : first.keyboard.keymap.SameKeys second.keyboard.keymap
  stopAsked : first.keyboard.stopAsked = second.keyboard.stopAsked
  keypad : first.keypad = second.keypad

variable {first second : Typing}

/-- **One step on either keyboard.** -/
theorem take_alike (lower : KeepsLowerCase related) (alike : Alike first second)
    {step retyped : Step} (same : Step.Retyped related step retyped) :
    List.Forall₂ (Keyboard.WarnsAlike related) (first.take step).1 (second.take retyped).1 ∧
      Alike (first.take step).2 (second.take retyped).2 := by
  obtain ⟨keyboard, keypad⟩ := first
  obtain ⟨other, _⟩ := second
  obtain ⟨keys, stopAsked, rfl⟩ := alike
  cases same with
  | @poll events retyped batch =>
    refine ⟨Keyboard.warnings_poll_alike lower keys batch keypad, ?_,
      Keyboard.stopAsked_poll_alike stopAsked batch keypad,
      Keyboard.keypad_poll_alike lower keys batch keypad⟩
    show (keyboard.poll keypad events).keyboard.keymap.SameKeys
      (other.poll keypad retyped).keyboard.keymap
    rw [Keyboard.keymap_poll, Keyboard.keymap_poll]
    exact keys
  | press key => exact ⟨.nil, keys, stopAsked, rfl⟩
  | renew keymap => exact ⟨.nil, fun _ => rfl, rfl, rfl⟩

/-- **A run on either keyboard.** -/
theorem takeAll_alike (lower : KeepsLowerCase related) (alike : Alike first second)
    {steps retyped : List Step} (same : List.Forall₂ (Step.Retyped related) steps retyped) :
    List.Forall₂ (List.Forall₂ (Keyboard.WarnsAlike related)) (first.takeAll steps).1
        (second.takeAll retyped).1 ∧
      Alike (first.takeAll steps).2 (second.takeAll retyped).2 := by
  induction same generalizing first second with
  | nil => exact ⟨.nil, alike⟩
  | cons head _ ih =>
    obtain ⟨said, next⟩ := take_alike lower alike head
    obtain ⟨rest, final⟩ := ih next
    exact ⟨.cons said rest, final⟩

/-- One and the same run on keyboards whose keymaps give the same keys. -/
theorem takeAll_sameKeys (alike : Alike first second) (steps : List Step) :
    (first.takeAll steps).1 = (second.takeAll steps).1 ∧
      Alike (first.takeAll steps).2 (second.takeAll steps).2 := by
  have same : List.Forall₂ (Step.Retyped Eq) steps steps :=
    List.forall₂_same.mpr fun step _ => .refl (fun _ => rfl) step
  obtain ⟨said, final⟩ := takeAll_alike keepsLowerCase_eq alike same
  have equal : List.Forall₂ (List.Forall₂ Eq) (first.takeAll steps).1 (second.takeAll steps).1 := by
    refine said.imp fun _ _ lines => lines.imp ?_
    rintro _ _ ⟨typed, _, rfl, rfl, rfl⟩
    rfl
  rw [List.forall₂_eq_eq_eq, List.forall₂_eq_eq_eq] at equal
  exact ⟨equal, final⟩

/-- **The case of letters and dead entries do not matter.** Letters typed in the other case leave
the same keypad and the same wish to stop after every step, and the same warnings but for the
character shown. Entries that never count taken away, or entries in another order that keeps those
for one character in theirs, leave the printed lines the same, too. A character beyond ASCII stands
for a key exactly if there is an entry for that very character. -/
theorem takeAll_case_and_dead_entries (keymap : Keymap) (asked : Bool) (keypad : Keypad)
    (steps : List Step) :
    let typing : Typing := ⟨⟨keymap, asked⟩, keypad⟩
    (∀ retyped, List.Forall₂ (Step.Retyped SameLetter) steps retyped →
      (∀ count, (typing.takeAll (steps.take count)).2.keypad =
          (typing.takeAll (retyped.take count)).2.keypad ∧
        (typing.takeAll (steps.take count)).2.keyboard.stopAsked =
          (typing.takeAll (retyped.take count)).2.keyboard.stopAsked) ∧
      List.Forall₂ (List.Forall₂ (Keyboard.WarnsAlike SameLetter)) (typing.takeAll steps).1
        (typing.takeAll retyped).1) ∧
    (∀ events retyped, List.Forall₂ (Event.Retyped SameLetter) events retyped →
      events.map (fun event => (event.unmapped? keymap).isSome) =
        retyped.map fun event => (event.unmapped? keymap).isSome) ∧
    (∀ other, keymap.Thinned other ∨ keymap.Reordered other →
      let changed : Typing := ⟨⟨other, asked⟩, keypad⟩
      (typing.takeAll steps).1 = (changed.takeAll steps).1 ∧
      ∀ count, (typing.takeAll (steps.take count)).2.keypad =
          (changed.takeAll (steps.take count)).2.keypad ∧
        (typing.takeAll (steps.take count)).2.keyboard.stopAsked =
          (changed.takeAll (steps.take count)).2.keyboard.stopAsked) ∧
    (∀ typed : Char, 128 ≤ typed.toNat →
      (∀ key, keymap.key? typed = some key ↔ keymap.LastEntry typed key) ∧
      ((keymap.key? typed).isSome = true ↔ ∃ key, (typed, key) ∈ keymap) ∧
      ∀ events, typed ∈ (Keyboard.poll ⟨keymap, asked⟩ keypad events).unmapped ↔
        typed ∈ events.filterMap Event.character? ∧ ∀ key, (typed, key) ∉ keymap) := by
  intro typing
  have self : Alike typing typing := ⟨fun _ => rfl, rfl, rfl⟩
  refine ⟨fun retyped same => ⟨fun count => ?_, ?_⟩, fun events retyped same => ?_,
    fun other change => ?_, fun typed beyond => ⟨fun key => ?_, ?_, fun events => ?_⟩⟩
  · have final := (takeAll_alike keepsLowerCase_sameLetter self (List.forall₂_take count same)).2
    exact ⟨final.keypad, final.stopAsked⟩
  · exact (takeAll_alike keepsLowerCase_sameLetter self same).1
  · exact Event.Retyped.map_isSome_unmapped? keepsLowerCase_sameLetter (fun _ => rfl) same
  · have alike : Alike typing ⟨⟨other, asked⟩, keypad⟩ :=
      ⟨change.elim Keymap.Thinned.sameKeys Keymap.Reordered.sameKeys, rfl, rfl⟩
    refine ⟨(takeAll_sameKeys alike steps).1, fun count => ?_⟩
    have final := (takeAll_sameKeys alike (steps.take count)).2
    exact ⟨final.keypad, final.stopAsked⟩
  · rw [Keymap.key?, toLower_of_not_ascii beyond, Keymap.lookup?_eq_some_iff]
  · rw [Option.isSome_iff_ne_none, Ne, Keymap.key?_eq_none_iff, Classical.not_not,
      toLower_of_not_ascii beyond, Keymap.mem_characters]
  · rw [Keyboard.poll_eq, Event.filterMap_unmapped?, List.mem_filter, decide_eq_true_iff,
      toLower_of_not_ascii beyond, Keymap.mem_characters, not_exists]

/-- Letters typed in the other case; a shadowed entry and one for an upper-case letter taken away;
entries for other characters exchanged; a letter beyond ASCII. -/
theorem takeAll_case_and_dead_entries_accent :
    let keymap : Keymap := [('a', 1), ('A', 2), ('é', 3), ('a', 4)]
    let typing : Typing := ⟨⟨keymap, false⟩, .empty⟩
    let thinned : Typing := ⟨⟨[('é', 3), ('a', 4)], false⟩, .empty⟩
    let reordered : Typing := ⟨⟨[('A', 2), ('a', 1), ('é', 3), ('a', 4)], false⟩, .empty⟩
    let steps : List Step := [.poll [.typed 'A', .escape, .typed 'q'], .press 7, .poll []]
    let retyped : List Step := [.poll [.typed 'a', .escape, .typed 'Q'], .press 7, .poll []]
    (typing.takeAll (steps.take 1)).2.keypad = (typing.takeAll (retyped.take 1)).2.keypad ∧
    [Event.typed 'A', .escape, .typed 'q'].map (fun event => (event.unmapped? keymap).isSome) =
      [Event.typed 'a', .escape, .typed 'Q'].map (fun event => (event.unmapped? keymap).isSome) ∧
    (typing.takeAll steps).1 = (thinned.takeAll steps).1 ∧
    (typing.takeAll steps).1 = (reordered.takeAll steps).1 ∧
    (keymap.key? 'é').isSome = true ∧
    'É' ∈ (typing.keyboard.poll .empty [.typed 'É']).unmapped := by
  intro keymap typing thinned reordered steps retyped
  have batch : List.Forall₂ (Event.Retyped SameLetter) [.typed 'A', .escape, .typed 'q']
      [.typed 'a', .escape, .typed 'Q'] :=
    .cons (.character _ (.inr (.inl (by decide)))) (.cons (.same _ rfl)
      (.cons (.character _ (.inr (.inr (by decide)))) .nil))
  have same : List.Forall₂ (Step.Retyped SameLetter) steps retyped :=
    .cons (.poll batch) (.cons (.press 7) (.cons (.poll .nil) .nil))
  have dead : keymap.Thinned thinned.keyboard.keymap :=
    .drop _ (.inr ⟨('a', 4), by decide, rfl⟩) (.drop _ (.inl (by decide)) (.keep _ (.keep _ .nil)))
  have moved : keymap.Reordered reordered.keyboard.keymap := by
    refine ⟨by decide, fun character => ?_⟩
    by_cases small : 'a' = character
    · subst small
      decide
    · simp [keymap, reordered, List.filter_cons, small]
  obtain ⟨cases, places, changes, beyond⟩ :=
    takeAll_case_and_dead_entries keymap false .empty steps
  refine ⟨((cases retyped same).1 1).1, places _ _ batch, (changes _ (.inl dead)).1,
    (changes _ (.inr moved)).1, ?_, ?_⟩
  · exact (beyond 'é' (by decide)).2.1.mpr ⟨3, by decide⟩
  · refine ((beyond 'É' (by decide)).2.2 [.typed 'É']).mpr ⟨List.mem_singleton.mpr rfl, ?_⟩
    simp [keymap]

end Typing

end Cosmac
