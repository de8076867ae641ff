/-
**Stand-ins: a script of keys in place of a keyboard.**

A poll of a script and a poll of a keyboard leave the same keypad if the script lists, by any names
and any number of times, the keys that the typed events stand for. From then on the script is
empty, and the two go on alike as long as nothing more is typed: keys pressed by hand are held until
the next poll, which lets go of them all.

* `Listed`, `exists_holds_iff` — a key is listed by one of its names, and the keys that events hold
  as a list.
* `getElem_poll_script`, `poll_script_eq` — the keypad after a poll of a script, and that it is the
  one after a poll of a keyboard.
* `lowestHeld?_poll_script`, `lowestHeld?_poll_script_eq_none_iff` — the lowest key held.
* `Turn` — a key pressed by hand or a poll, for a script and for a keyboard.
* `Abreast`, `serve_abreast`, `serveAll_abreast` — the two side by side, turn after turn.
* `script_stands_in` — the first poll, and any turns after it.
-/

import Cosmac.Proofs.Keyboard.Polls
import Cosmac.Proofs.Keypad.Edits

namespace Cosmac

/-- The key of that number is listed by one of its names. -/
def Listed (keys : List UInt8) (number : Nat) : Prop := ∃ key ∈ keys, key.toNat % 16 = number

/-- The keys that events hold, as a list. -/
theorem exists_holds_iff {keymap : Keymap} {events : List Event} {number : Nat} :
    (∃ event ∈ events, event.Holds keymap number) ↔
      Listed (events.filterMap (Event.key? keymap)) number := by
  simp only [Listed, List.mem_filterMap, Event.holds_iff]
  constructor
  · rintro ⟨event, member, key, found, names⟩
    exact ⟨key, ⟨event, member, found⟩, names⟩
  · rintro ⟨key, ⟨event, member, found⟩, names⟩
    exact ⟨event, member, key, found, names⟩

namespace ScriptedInput

variable (keys : List UInt8) (keypad : Keypad)

/-! ### The first poll -/

/-- **What is held after a poll of a script**: the keys that it lists, and no other. -/
theorem getElem_poll_script (number : Nat) (inside : number < Keypad.size) :
    ((mk keys).poll keypad).2.keys[number] = 1 ∧ Listed keys number ∨
      ((mk keys).poll keypad).2.keys[number] = 0 ∧ ¬ Listed keys number := by
  show (keypad.letAllGo.pressEach keys).keys[number] = 1 ∧ _ ∨
    (keypad.letAllGo.pressEach keys).keys[number] = 0 ∧ _
  rw [Keypad.getElem_pressEach, Keypad.getElem_letAllGo]
  by_cases listed : ∃ key ∈ keys, key.toNat % 16 = number
  · exact .inl ⟨if_pos listed, listed⟩
  · exact .inr ⟨if_neg listed, listed⟩

theorem poll_script_eq_one_iff {number : Nat} (inside : number < Keypad.size) :
    ((mk keys).poll keypad).2.keys[number] = 1 ↔ Listed keys number := by
  obtain ⟨byte, listed⟩ | ⟨byte, unlisted⟩ := getElem_poll_script keys keypad number inside
  · exact iff_of_true byte listed
  · rw [byte]
    exact iff_of_false (by decide) unlisted

theorem poll_script_eq_zero_iff {number : Nat} (inside : number < Keypad.size) :
    ((mk keys).poll keypad).2.keys[number] = 0 ↔ ¬ Listed keys number := by
  obtain ⟨byte, listed⟩ | ⟨byte, unlisted⟩ := getElem_poll_script keys keypad number inside
  · rw [byte]
    exact iff_of_false (by decide) (not_not_intro listed)
  · exact iff_of_true byte unlisted

/-- **A script does what a keyboard does** if it lists the keys that the events hold. -/
theorem poll_script_eq {keyboard : Keyboard} {events : List Event}
    (same : ∀ number < Keypad.size,
      Listed keys number ↔ ∃ event ∈ events, event.Holds keyboard.keymap number)
    (other : Keypad) :
    ((mk keys).poll keypad).2 = (keyboard.poll other events).keypad := by
  refine congrArg Keypad.mk (Vector.ext fun number inside => ?_)
  obtain ⟨one, zero⟩ := keyboard.getElem_poll other events number inside
  rw [← same number inside] at one zero
  obtain ⟨byte, listed⟩ | ⟨byte, unlisted⟩ := getElem_poll_script keys keypad number inside
  · exact byte.trans (one.mpr listed).symm
  · exact byte.trans (zero.mpr unlisted).symm

/-- **The lowest key held** is the lowest that is listed. -/
theorem lowestHeld?_poll_script {number : Fin Keypad.size} :
    ((mk keys).poll keypad).2.lowestHeld? = some number ↔
      Listed keys number ∧ ∀ key ∈ keys, number.val ≤ key.toNat % 16 := by
  have bytes : ∀ place : Fin Keypad.size,
      ((mk keys).poll keypad).2.keys[place] = 0 ↔ ¬ Listed keys place.val :=
    fun place => poll_script_eq_zero_iff keys keypad place.isLt
  rw [Keypad.lowestHeld?_eq_some_iff]
  simp only [ne_eq, bytes, Classical.not_not]
  refine and_congr_right fun _ => ⟨fun lowest key member => ?_, fun lowest place below => ?_⟩
  · refine Nat.le_of_not_lt fun below => ?_
    exact lowest (Keypad.slot key) below ⟨key, member, rfl⟩
  · rintro ⟨key, member, names⟩
    have above := lowest key member
    rw [names] at above
    exact absurd below (Nat.not_lt.mpr above)

theorem lowestHeld?_poll_script_eq_none_iff :
    ((mk keys).poll keypad).2.lowestHeld? = none ↔ keys = [] := by
  rw [Keypad.lowestHeld?_eq_none_iff]
  constructor
  · intro released
    refine List.eq_nil_iff_forall_not_mem.mpr fun key member => ?_
    have unlisted := (poll_script_eq_zero_iff keys keypad (Keypad.slot key).isLt).mp
      (released (Keypad.slot key))
    exact unlisted ⟨key, member, rfl⟩
  · rintro rfl number
    refine (poll_script_eq_zero_iff [] keypad number.isLt).mpr ?_
    rintro ⟨_, member, _⟩
    cases member

end ScriptedInput

/-! ### Further turns -/

/-- A key pressed by hand, or a poll before which nothing is typed. -/
inductive Turn where
  | press (key : UInt8)
  | poll
deriving DecidableEq

namespace Turn

/-- A turn of a script. -/
def request : Turn → Controls.Request
  | press key => .press key
  | poll => .poll

/-- A turn of a keyboard. -/
def step : Turn → Typing.Step
  | press key => .press key
  | poll => .poll []

end Turn

/-- A script and a keyboard side by side: the keypads are the same, and the script is at its end. -/
structure Abreast (controls : Controls) (typing : Typing) : Prop where
  keypad : controls.keypad = typing.keypad
  finished : controls.input = ⟨[]⟩

/-- **One turn of either.** -/
theorem serve_abreast {controls : Controls} {typing : Typing} (abreast : Abreast controls typing)
    (turn : Turn) :
    Abreast (controls.serve turn.request).2 (typing.take turn.step).2 := by
  obtain ⟨keypad, input⟩ := controls
  obtain ⟨rfl, rfl⟩ := abreast
  cases turn with
  | press key => exact ⟨rfl, rfl⟩
  | poll => exact ⟨rfl, rfl⟩

/-- **Any turns of either.** The induction is on the turns. -/
theorem serveAll_abreast {controls : Controls} {typing : Typing}
    (abreast : Abreast controls typing) (turns : List Turn) :
    Abreast (controls.serveAll (turns.map Turn.request)).2
      (typing.takeAll (turns.map Turn.step)).2 := by
  induction turns generalizing controls typing with
  | nil => exact abreast
  | cons turn later ih => exact ih (serve_abreast abreast turn)

theorem serveAll_append (controls : Controls) (first later : List Controls.Request) :
    (controls.serveAll (first ++ later)).2 = ((controls.serveAll first).2.serveAll later).2 := by
  induction first generalizing controls with
  | nil => rfl
  | cons request rest ih => exact ih (controls.serve request).2

/-- **A poll at the end of any turns leaves nothing held.** -/
theorem keypad_serveAll_poll {controls : Controls} {typing : Typing}
    (abreast : Abreast controls typing) (turns : List Turn) :
    (controls.serveAll ((turns ++ [Turn.poll]).map Turn.request)).2.keypad = .empty := by
  have finished := (serveAll_abreast abreast turns).finished
  rw [List.map_append, serveAll_append]
  show ((controls.serveAll (turns.map Turn.request)).2.input.poll _).2 = .empty
  rw [finished]
  rfl

namespace ScriptedInput

/-- **A script stands in for a keyboard.** If it lists the keys that the typed events hold, by any
names and any number of times, its first poll leaves the keypad that a poll of those events leaves,
whatever was held before either. A key's byte is one if the key is listed and zero if not, and the
lowest key held is the lowest one listed. After that, whatever is pressed by hand and however often
the two are polled, the keypads stay the same, and nothing is held after a poll. A script never asks
to stop. -/
theorem script_stands_in (keys : List UInt8) (keyboard : Keyboard) (events : List Event)
    (same : ∀ number < Keypad.size,
      Listed keys number ↔ ∃ event ∈ events, event.Holds keyboard.keymap number)
    (first second : Keypad) :
    let keypad := ((mk keys).poll first).2
    keypad = (keyboard.poll second events).keypad ∧
    (∀ number (inside : number < Keypad.size),
      (keypad.keys[number] = 1 ↔ Listed keys number) ∧
      (keypad.keys[number] = 0 ↔ ¬ Listed keys number)) ∧
    (∀ number : Fin Keypad.size, keypad.lowestHeld? = some number ↔
      Listed keys number ∧ ∀ key ∈ keys, number.val ≤ key.toNat % 16) ∧
    (keypad.lowestHeld? = none ↔ keys = []) ∧
    (∀ turns : List Turn,
      let controls := (Controls.serveAll ⟨first, ⟨keys⟩⟩ (.poll :: turns.map Turn.request)).2
      let typing := (Typing.takeAll ⟨keyboard, second⟩ (.poll events :: turns.map Turn.step)).2
      controls.keypad = typing.keypad ∧
      ∀ earlier, turns = earlier ++ [.poll] →
        controls.keypad = .empty ∧ typing.keypad = .empty) ∧
    ∀ controls : Controls, (controls.serve .poll).1 = .flag false := by
  intro keypad
  have agree : keypad = (keyboard.poll second events).keypad :=
    poll_script_eq keys first same second
  have abreast : Abreast (Controls.serve ⟨first, ⟨keys⟩⟩ .poll).2
      (Typing.take ⟨keyboard, second⟩ (.poll events)).2 := ⟨agree, rfl⟩
  refine ⟨agree, fun number inside => ⟨?_, ?_⟩, fun number => ?_, ?_, fun turns => ?_,
    fun controls => rfl⟩
  · exact poll_script_eq_one_iff keys first inside
  · exact poll_script_eq_zero_iff keys first inside
  · exact lowestHeld?_poll_script keys first
  · exact lowestHeld?_poll_script_eq_none_iff keys first
  · intro controls typing
    have level : controls.keypad = typing.keypad := (serveAll_abreast abreast turns).keypad
    refine ⟨level, ?_⟩
    rintro earlier rfl
    have released : controls.keypad = .empty := keypad_serveAll_poll abreast earlier
    exact ⟨released, level.symm.trans released⟩

/-- A script with two names for one key, and a letter typed twice in either case; then a key pressed
by hand between two polls. -/
theorem script_stands_in_twice_named :
    let keyboard : Keyboard := ⟨.leftHand, false⟩
    let events : List Event := [.typed 'v', .escape, .typed 'Q', .typed 'q', .typed 'p']
    let turns : List Turn := [.press 7, .poll, .press 0x23, .poll]
    let keypad := ((mk [0x14, 0x0f, 0xf4]).poll (Keypad.empty.press 9)).2
    (∀ number < Keypad.size, Listed [0x14, 0x0f, 0xf4] number ↔
      ∃ event ∈ events, event.Holds keyboard.keymap number) ∧
    keypad = (keyboard.poll (Keypad.empty.press 2) events).keypad ∧
    keypad.lowestHeld? = some (Keypad.slot 4) ∧
    (Typing.takeAll ⟨keyboard, Keypad.empty.press 2⟩
      (.poll events :: turns.map Turn.step)).2.keypad = .empty := by
  intro keyboard events turns keypad
  have same : ∀ number < Keypad.size, Listed [0x14, 0x0f, 0xf4] number ↔
      ∃ event ∈ events, event.Holds keyboard.keymap number := by
    simp only [exists_holds_iff, Listed]
    decide
  obtain ⟨agree, -, lowest, -, further, -⟩ := script_stands_in [0x14, 0x0f, 0xf4] keyboard events
    same (Keypad.empty.press 9) (Keypad.empty.press 2)
  refine ⟨same, agree, (lowest _).mpr ⟨⟨0x14, by decide, rfl⟩, ?_⟩, ?_⟩
  · simp only [List.forall_mem_cons, List.not_mem_nil, false_implies, implies_true, and_true]
    decide
  · exact ((further turns).2 [.press 7, .poll, .press 0x23] rfl).2

end ScriptedInput

end Cosmac
