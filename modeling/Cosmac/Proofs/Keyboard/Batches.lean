/-
**Batches: every event of a poll is accounted for once.**

A character either holds the key that it stands for or is set aside and printed on a line of its
own, as it was typed. Escape asks to stop, wherever in the batch it stands, and all else leaves no
trace. So a batch can be cut anywhere: the lines of its parts come one after the other, and what is
held is what one part or the other holds.

* `Keymap.characters` — the characters that a keymap has an entry for.
* `Keyboard.newline_not_mem_warning` — a warning is one line, whatever character it shows.
* `Keyboard.receive_strange`, `receive_mapped`, `receive_escape`, `receive_silent` — all that an
  event does, for each kind of event.
* `Keyboard.poll_accounts` — every event of a poll, in its turn and in sum.
-/

import Cosmac.Proofs.Keyboard.Polls
import Cosmac.Proofs.Text.Numerals
import Mathlib.Tactic.SplitIfs

namespace Cosmac

/-! ### Characters with an entry -/

namespace Keymap

/-- The characters that have an entry. -/
def characters (keymap : Keymap) : List Char := keymap.map fun entry => entry.1

theorem mem_characters {keymap : Keymap} {character : Char} :
    character ∈ keymap.characters ↔ ∃ key, (character, key) ∈ keymap := by
  rw [characters, List.mem_map]
  constructor
  · rintro ⟨⟨_, key⟩, member, rfl⟩
    exact ⟨key, member⟩
  · rintro ⟨key, member⟩
    exact ⟨(character, key), member, rfl⟩

theorem lookup?_eq_none_iff {keymap : Keymap} {character : Char} :
    keymap.lookup? character = none ↔ character ∉ keymap.characters := by
  rw [lookup?, Option.map_eq_none_iff, List.find?_eq_none, characters, List.mem_map]
  simp only [List.mem_reverse, decide_eq_true_eq, not_exists, not_and]

/-- A character is set aside if its lower case has no entry. -/
theorem key?_eq_none_iff {keymap : Keymap} {typed : Char} :
    keymap.key? typed = none ↔ typed.toLower ∉ keymap.characters :=
  lookup?_eq_none_iff

theorem exists_key?_of_mem {keymap : Keymap} {typed : Char}
    (listed : typed.toLower ∈ keymap.characters) : ∃ key, keymap.key? typed = some key :=
  Option.ne_none_iff_exists'.mp fun missing => key?_eq_none_iff.mp missing listed

end Keymap

namespace Event

theorem character?_of_isEscape {event : Event} (escape : event.isEscape = true) :
    event.character? = none := by
  unfold isEscape at escape
  split at escape
  · rfl
  · cases escape

theorem filterMap_key? (keymap : Keymap) (events : List Event) :
    events.filterMap (key? keymap) = (events.filterMap character?).filterMap keymap.key? :=
  List.filterMap_filterMap.symm

theorem filterMap_unmapped? (keymap : Keymap) (events : List Event) :
    events.filterMap (unmapped? keymap) =
      (events.filterMap character?).filter fun typed => typed.toLower ∉ keymap.characters := by
  have strange : (fun typed => (keymap.key? typed).isNone) =
      fun typed => decide (typed.toLower ∉ keymap.characters) := by
    funext typed
    rw [Bool.eq_iff_iff, Option.isNone_iff_eq_none, decide_eq_true_iff, Keymap.key?_eq_none_iff]
  rw [List.filter_filterMap, ← strange]
  rfl

end Event

/-- What is held after several keys are pressed. -/
theorem Keypad.isHeld_pressEach (keypad : Keypad) (keys : List UInt8) (key : UInt8) :
    (keypad.pressEach keys).isHeld key =
      (keys.any (fun held => held.toNat % 16 = key.toNat % 16) || keypad.isHeld key) := by
  have byte := keypad.getElem_pressEach keys (slot key).val (slot key).isLt
  rw [isHeld, Fin.getElem_fin, byte, isHeld, Fin.getElem_fin]
  by_cases held : ∃ other ∈ keys, other.toNat % 16 = (slot key).val
  · have some_held : keys.any (fun held => held.toNat % 16 = key.toNat % 16) = true := by
      simpa [slot, size] using held
    rw [if_pos held, some_held]
    rfl
  · have none_held : keys.any (fun held => held.toNat % 16 = key.toNat % 16) = false := by
      simpa [slot, size] using held
    rw [if_neg held, none_held]
    rfl

theorem Keypad.isHeld_press (keypad : Keypad) (key : UInt8) :
    (keypad.press key).isHeld key = true :=
  (keypad.isHeld_pressEach [key] key).trans (by simp)

/-- Characters are pressed or set aside. -/
theorem Keymap.length_pressed_add (keymap : Keymap) (typed : List Char) :
    (typed.filterMap keymap.key?).length +
      (typed.filter fun character => character.toLower ∉ keymap.characters).length =
        typed.length := by
  induction typed with
  | nil => rfl
  | cons character later ih =>
    by_cases listed : character.toLower ∈ keymap.characters
    · obtain ⟨key, found⟩ := exists_key?_of_mem listed
      rw [List.filterMap_cons_some found, List.filter_cons_of_neg (by simpa using listed)]
      simp only [List.length_cons]
      omega
    · rw [List.filterMap_cons_none (key?_eq_none_iff.mpr listed),
        List.filter_cons_of_pos (by simpa using listed)]
      simp only [List.length_cons]
      omega

/-! ### Warnings are lines -/

namespace Text

theorem newline_ne_digitChar : ∀ digit < 16, '\n' ≠ Nat.digitChar digit := by
  decide

theorem not_mem_append {character : Char} {first second : String}
    (absent : character ∉ first.toList) (alsoAbsent : character ∉ second.toList) :
    character ∉ (first ++ second).toList := by
  rw [String.toList_append, List.mem_append, not_or]
  exact ⟨absent, alsoAbsent⟩

/-- No escape holds a line feed; that is what the escape of the line feed is for. -/
theorem newline_not_mem_escape (mark character : Char) : '\n' ∉ escape mark character := by
  unfold escape
  split_ifs with nul tab carriage feed marked invisible
  · decide
  · decide
  · decide
  · decide
  · have apart : '\n' ≠ character := fun same => feed same.symm
    simp [apart]
  · intro member
    have digits : '\n' ∈ Nat.toDigits 16 character.toNat := by simpa using member
    obtain ⟨digit, small, same⟩ := exists_digit_of_mem_toDigits (by decide) digits
    exact newline_ne_digitChar digit small same
  · have apart : '\n' ≠ character := fun same => feed same.symm
    simp [apart]

end Text

namespace Keyboard

/-- **A warning is one line**, whatever character it shows. -/
theorem newline_not_mem_warning (typed : Char) : '\n' ∉ (warning typed).toList := by
  have shown : '\n' ∉ (Text.quotedCharacter typed).toList := by
    rw [Text.quotedCharacter, String.toList_ofList, Text.quoted, List.flatMap_singleton,
      List.mem_cons, List.mem_append, List.mem_singleton]
    rintro (mark | escaped | mark)
    · exact absurd mark (by decide)
    · exact Text.newline_not_mem_escape _ typed escaped
    · exact absurd mark (by decide)
  exact Text.not_mem_append (Text.not_mem_append (by decide) shown) (by decide)

/-! ### One event -/

section Receive

variable {polled : Polled} {event : Event} {typed : Char}

theorem receive_strange (types : event.character? = some typed)
    (strange : typed.toLower ∉ polled.keyboard.keymap.characters) :
    receive polled event = { polled with unmapped := polled.unmapped ++ [typed] } := by
  have missing := Keymap.key?_eq_none_iff.mpr strange
  unfold Event.character? at types
  split at types
  · cases types
    simp only [receive, missing]
  · cases types

theorem receive_mapped {key : UInt8} (types : event.character? = some typed)
    (found : polled.keyboard.keymap.key? typed = some key) :
    receive polled event = { polled with keypad := polled.keypad.press key } := by
  unfold Event.character? at types
  split at types
  · cases types
    simp only [receive, found]
  · cases types

theorem receive_escape (escape : event.isEscape = true) :
    receive polled event =
      { polled with keyboard := { polled.keyboard with stopAsked := true } } := by
  unfold Event.isEscape at escape
  split at escape
  · rfl
  · cases escape

theorem receive_silent (silent : event.character? = none) (calm : event.isEscape = false) :
    receive polled event = polled := by
  rw [receive_eq, Event.key?, Event.unmapped?, silent, calm, Bool.or_false]
  exact congrArg (fun unmapped => { polled with unmapped }) (List.append_nil _)

end Receive

/-! ### A poll -/

theorem poll_concat (keyboard : Keyboard) (keypad : Keypad) (earlier : List Event)
    (event : Event) :
    keyboard.poll keypad (earlier ++ [event]) = receive (keyboard.poll keypad earlier) event := by
  rw [poll, List.foldl_append]
  rfl

theorem keyboard_poll (keyboard : Keyboard) (keypad : Keypad) (events : List Event) :
    (keyboard.poll keypad events).keyboard =
      ⟨keyboard.keymap, keyboard.stopAsked || events.any Event.isEscape⟩ := by
  rw [poll_eq]

theorem keymap_poll (keyboard : Keyboard) (keypad : Keypad) (events : List Event) :
    (keyboard.poll keypad events).keyboard.keymap = keyboard.keymap := by
  rw [keyboard_poll]

theorem warnings_poll (keyboard : Keyboard) (keypad : Keypad) (events : List Event) :
    (keyboard.poll keypad events).warnings =
      ((events.filterMap Event.character?).filter fun typed =>
        typed.toLower ∉ keyboard.keymap.characters).map warning := by
  rw [Polled.warnings, poll_eq, Event.filterMap_unmapped?]

/-- An event that types nothing leaves its wish to stop, if it is escape, wherever it stands. -/
theorem poll_around_silent (keyboard : Keyboard) (keypad : Keypad) (earlier later : List Event)
    {event : Event} (silent : event.character? = none) :
    keyboard.poll keypad (earlier ++ event :: later) =
      let without := keyboard.poll keypad (earlier ++ later)
      { without with
        keyboard :=
          { without.keyboard with
            stopAsked := without.keyboard.stopAsked || event.isEscape } } := by
  have noKey : event.key? keyboard.keymap = none := by rw [Event.key?, silent]; rfl
  have kept : event.unmapped? keyboard.keymap = none := by rw [Event.unmapped?, silent]; rfl
  have escapes : (earlier ++ event :: later).any Event.isEscape =
      ((earlier ++ later).any Event.isEscape || event.isEscape) := by
    simp only [List.any_append, List.any_cons]
    cases event.isEscape <;> simp
  simp only [poll_eq, List.filterMap_append, List.filterMap_cons_none noKey,
    List.filterMap_cons_none kept, escapes, Bool.or_assoc]

/-! ### A batch in two polls -/

theorem warnings_poll_append (keyboard : Keyboard) (keypad : Keypad) (first second : List Event) :
    let one := keyboard.poll keypad first
    (keyboard.poll keypad (first ++ second)).warnings =
      one.warnings ++ (one.keyboard.poll one.keypad second).warnings := by
  intro one
  rw [warnings_poll, warnings_poll, warnings_poll, keymap_poll, ← List.map_append,
    ← List.filter_append, ← List.filterMap_append]

theorem keyboard_poll_append (keyboard : Keyboard) (keypad : Keypad) (first second : List Event) :
    let one := keyboard.poll keypad first
    (keyboard.poll keypad (first ++ second)).keyboard =
      (one.keyboard.poll one.keypad second).keyboard := by
  intro one
  rw [keyboard_poll, keyboard_poll, keyboard_poll, List.any_append, Bool.or_assoc]

/-- What is held after a batch is what one part of it or the other holds. -/
theorem isHeld_poll_append (keyboard : Keyboard) (keypad : Keypad) (first second : List Event)
    (key : UInt8) :
    (keyboard.poll keypad (first ++ second)).keypad.isHeld key =
      ((keyboard.poll keypad first).keypad.isHeld key ||
        (keyboard.poll keypad second).keypad.isHeld key) := by
  have nothing : Keypad.empty.isHeld key = false := by simp [Keypad.isHeld, Keypad.empty]
  simp only [poll_eq, Keypad.isHeld_pressEach, List.filterMap_append, List.any_append, nothing,
    Bool.or_false]

/-- **Every event of a poll is accounted for once.** A character whose lower case has no entry is
printed as it was typed, on one line, in the order of typing, and any other presses one key, which
is held then, so that presses and lines are as many as characters. Escape, wherever it stands, only asks to stop, and all
else leaves no trace. A batch cut in two is polled as its parts are, one after the other. -/
theorem poll_accounts (keyboard : Keyboard) (keypad : Keypad) (events : List Event) :
    let polled := keyboard.poll keypad events
    let typed := events.filterMap Event.character?
    let pressed := typed.filterMap keyboard.keymap.key?
    (polled.warnings =
        (typed.filter fun character => character.toLower ∉ keyboard.keymap.characters).map
          fun character =>
            "Warning: can't map " ++ Text.quotedCharacter character ++ " to a COSMAC key") ∧
    (∀ line ∈ polled.warnings, '\n' ∉ line.toList) ∧
    polled.keypad = Keypad.empty.pressEach pressed ∧
    pressed.length + polled.warnings.length = typed.length ∧
    polled.keyboard = ⟨keyboard.keymap, keyboard.stopAsked || events.any Event.isEscape⟩ ∧
    (∀ earlier event later, events = earlier ++ event :: later →
      let before := keyboard.poll keypad earlier
      let after := keyboard.poll keypad (earlier ++ [event])
      let without := keyboard.poll keypad (earlier ++ later)
      (∀ character, event.character? = some character →
        (character.toLower ∉ keyboard.keymap.characters →
          after = { before with unmapped := before.unmapped ++ [character] }) ∧
        (character.toLower ∈ keyboard.keymap.characters →
          ∃ key, keyboard.keymap.key? character = some key ∧
            after = { before with keypad := before.keypad.press key } ∧
            after.keypad.isHeld key = true ∧
            ∀ number (inside : number < Keypad.size), after.keypad.keys[number] =
              if key.toNat % 16 = number then 1 else before.keypad.keys[number])) ∧
      (event.isEscape = true →
        after = { before with keyboard := { before.keyboard with stopAsked := true } } ∧
        polled = { without with keyboard := { without.keyboard with stopAsked := true } }) ∧
      (event.character? = none → event.isEscape = false → after = before ∧ polled = without)) ∧
    (∀ first second, events = first ++ second →
      let one := keyboard.poll keypad first
      let two := one.keyboard.poll one.keypad second
      polled.warnings = one.warnings ++ two.warnings ∧ polled.keyboard = two.keyboard ∧
      ∀ key, polled.keypad.isHeld key =
        (one.keypad.isHeld key || (keyboard.poll keypad second).keypad.isHeld key)) := by
  intro polled typed pressed
  have said : polled.warnings = (typed.filter fun character =>
      character.toLower ∉ keyboard.keymap.characters).map warning :=
    warnings_poll keyboard keypad events
  refine ⟨said, ?_, ?_, ?_, ?_, ?_, ?_⟩
  · intro line member
    rw [said] at member
    obtain ⟨character, -, rfl⟩ := List.mem_map.mp member
    exact newline_not_mem_warning character
  · show (keyboard.poll keypad events).keypad = _
    rw [poll_eq, Event.filterMap_key?]
  · rw [said, List.length_map]
    exact keyboard.keymap.length_pressed_add typed
  · exact keyboard.keyboard_poll keypad events
  · rintro earlier event later split before after without
    have keymap_before : before.keyboard.keymap = keyboard.keymap :=
      keymap_poll keyboard keypad earlier
    have turn : after = receive before event := poll_concat keyboard keypad earlier event
    refine ⟨fun character types => ⟨fun strange => ?_, fun listed => ?_⟩, fun escape => ⟨?_, ?_⟩,
      fun silent calm => ⟨?_, ?_⟩⟩
    · rw [← keymap_before] at strange
      rw [turn, receive_strange types strange]
    · obtain ⟨key, found⟩ := Keymap.exists_key?_of_mem listed
      have pressed : after = { before with keypad := before.keypad.press key } := by
        rw [turn, receive_mapped types (keymap_before ▸ found)]
      refine ⟨key, found, pressed, ?_, fun number inside => ?_⟩
      · rw [pressed]
        exact before.keypad.isHeld_press key
      · simp only [pressed, Keypad.getElem_press]
    · rw [turn, receive_escape escape]
    · have around := keyboard.poll_around_silent keypad earlier later
        (Event.character?_of_isEscape escape)
      rw [← split, escape] at around
      simpa only [Bool.or_true] using around
    · rw [turn, receive_silent silent calm]
    · have around := keyboard.poll_around_silent keypad earlier later silent
      rw [← split, calm] at around
      simpa only [Bool.or_false] using around
  · rintro first second rfl one two
    exact ⟨keyboard.warnings_poll_append keypad first second,
      keyboard.keyboard_poll_append keypad first second,
      keyboard.isHeld_poll_append keypad first second⟩

/-- A letter, escape in the middle of the batch, a quotation mark that stands for no key, and the
mouse. -/
theorem poll_accounts_around_escape :
    let poll := (Keyboard.mk .leftHand false).poll .empty
    let batch : List Event := [.typed 'Q', .escape, .typed '\'', .mouse]
    (poll batch).warnings = ["Warning: can't map '\\'' to a COSMAC key"] ∧
    (poll [.typed 'Q']).keypad = Keypad.empty.press 4 ∧
    (poll [.typed 'Q']).keypad.isHeld 4 = true ∧
    (poll [.typed 'Q']).keypad.keys[4] = 1 ∧
    (poll [.typed 'Q']).keypad.keys[5] = 0 ∧
    (poll batch).unmapped = (poll [.typed 'Q', .escape]).unmapped ++ ['\''] ∧
    (poll batch).keyboard.stopAsked = true ∧
    poll batch = poll [.typed 'Q', .escape, .typed '\''] ∧
    ((poll batch).keypad.isHeld 4 =
      ((poll [.typed 'Q']).keypad.isHeld 4 ||
        (poll [.escape, .typed '\'', .mouse]).keypad.isHeld 4)) := by
  intro poll batch
  obtain ⟨said, -, -, -, -, turns, cuts⟩ := poll_accounts ⟨.leftHand, false⟩ .empty batch
  obtain ⟨letter, -, -⟩ := turns [] (.typed 'Q') [.escape, .typed '\'', .mouse] rfl
  obtain ⟨-, escape, -⟩ := turns [.typed 'Q'] .escape [.typed '\'', .mouse] rfl
  obtain ⟨mark, -, -⟩ := turns [.typed 'Q', .escape] (.typed '\'') [.mouse] rfl
  obtain ⟨-, -, silent⟩ := turns [.typed 'Q', .escape, .typed '\''] .mouse [] rfl
  have same : poll batch = poll [.typed 'Q', .escape, .typed '\''] := (silent rfl rfl).2
  obtain ⟨key, found, pressed, held, bytes⟩ := (letter 'Q' rfl).2 (by decide)
  have four : Keymap.leftHand.key? 'Q' = some 4 := by decide
  obtain rfl : key = 4 := Option.some.inj (found.symm.trans four)
  refine ⟨?_, congrArg Polled.keypad pressed, held, bytes 4 (by decide), bytes 5 (by decide), ?_, ?_,
    same, ?_⟩
  · rw [said]
    decide +kernel
  · rw [same]
    exact congrArg Polled.unmapped ((mark '\'' rfl).1 (by decide))
  · exact congrArg (fun polled => polled.keyboard.stopAsked) (escape rfl).2
  · exact (cuts [.typed 'Q'] [.escape, .typed '\'', .mouse] rfl).2.2 4

end Keyboard

end Cosmac
