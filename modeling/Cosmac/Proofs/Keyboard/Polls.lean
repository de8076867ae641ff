/-
**Polls: what a keyboard leaves on the keypad, poll after poll.**

A poll forgets every key that was held before it. So what is held afterwards depends on the events
of that poll and on the keymap in use, and neither on the order of the events nor on how often one
occurs. The wish to stop is the one thing that outlasts a poll; only a new keyboard drops it.

* `Event.key?`, `Event.unmapped?` — the key that an event holds, and the character that it sets
  aside.
* `Keyboard.receive_eq`, `Keyboard.poll_eq` — all that one event does, and all that a poll does.
* `Keymap.LastEntry`, `Event.Holds` — the entry that counts for a character, and the number of the
  key that an event holds through it.
* `Typing.lastKeymap`, `Typing.Step.IsRenewal` — the keymap in use after a run, and the steps that
  change it.
* `Typing.Escaped` — a poll of the keyboard in use met escape.
* `Typing.takeAll_polls` — runs of polls, presses by hand and new keyboards.
-/

import Cosmac.Keyboard

namespace Cosmac

/-! ### One event -/

namespace Event

/-- The key that an event holds. -/
def key? (keymap : Keymap) (event : Event) : Option UInt8 := event.character?.bind keymap.key?

/-- The character that an event sets aside because it stands for no key. -/
def unmapped? (keymap : Keymap) (event : Event) : Option Char :=
  event.character?.filter fun typed => (keymap.key? typed).isNone

end Event

/-- Several keys held, each byte afterwards. -/
theorem Keypad.getElem_pressEach (keypad : Keypad) (keys : List UInt8) (index : Nat)
    (inside : index < size) :
    (keypad.pressEach keys).keys[index] =
      if ∃ key ∈ keys, key.toNat % 16 = index then 1 else keypad.keys[index] := by
  induction keys generalizing keypad with
  | nil => rw [if_neg (by simp)]; rfl
  | cons key later ih =>
    show ((keypad.press key).pressEach later).keys[index] = _
    rw [ih, getElem_press]
    by_cases held : ∃ key ∈ later, key.toNat % 16 = index
    · rw [if_pos held, if_pos (held.imp fun _ both => ⟨List.mem_cons_of_mem _ both.1, both.2⟩)]
    · rw [if_neg held]
      simp only [List.mem_cons, exists_eq_or_imp, or_iff_left held]

namespace Keyboard

/-- **All that one event does**: it may hold a key, ask to stop, or set its character aside. -/
theorem receive_eq (polled : Polled) (event : Event) :
    receive polled event =
      { keyboard :=
          ⟨polled.keyboard.keymap, polled.keyboard.stopAsked || event.isEscape⟩
        keypad := polled.keypad.pressEach (event.key? polled.keyboard.keymap).toList
        unmapped := polled.unmapped ++ (event.unmapped? polled.keyboard.keymap).toList } := by
  have idle : ∀ other : Event, other.character? = none → other.isEscape = false →
      polled =
        { keyboard :=
            ⟨polled.keyboard.keymap, polled.keyboard.stopAsked || other.isEscape⟩
          keypad := polled.keypad.pressEach (other.key? polled.keyboard.keymap).toList
          unmapped := polled.unmapped ++ (other.unmapped? polled.keyboard.keymap).toList } := by
    intro other silent calm
    simp only [Event.key?, Event.unmapped?, silent, calm, Option.bind_none, Option.filter_none,
      Option.toList_none, List.append_nil, Bool.or_false]
    rfl
  cases event with
  | mouse => exact idle .mouse rfl rfl
  | resized => exact idle .resized rfl rfl
  | key key modifiers =>
    cases key with
    | character typed =>
      unfold receive
      cases found : polled.keyboard.keymap.key? typed with
      | some key =>
        simp [Event.key?, Event.unmapped?, Event.character?, Event.isEscape, found,
          Keypad.pressEach]
      | none =>
        simp [Event.key?, Event.unmapped?, Event.character?, Event.isEscape, found,
          Keypad.pressEach, Option.filter]
    | escape =>
      simp [receive, Event.key?, Event.unmapped?, Event.character?, Event.isEscape,
        Keypad.pressEach]
    | _ => exact idle _ rfl rfl

/-- Events taken in order after any others. -/
theorem foldl_receive (polled : Polled) (events : List Event) :
    events.foldl receive polled =
      { keyboard :=
          ⟨polled.keyboard.keymap, polled.keyboard.stopAsked || events.any Event.isEscape⟩
        keypad := polled.keypad.pressEach (events.filterMap (Event.key? polled.keyboard.keymap))
        unmapped :=
          polled.unmapped ++ events.filterMap (Event.unmapped? polled.keyboard.keymap) } := by
  induction events generalizing polled with
  | nil => simp [Keypad.pressEach]
  | cons event later ih =>
    have split : ∀ {α : Type} (f : Event → Option α),
        (event :: later).filterMap f = (f event).toList ++ later.filterMap f := by
      intro α f
      rw [List.filterMap_cons]
      cases f event <;> rfl
    rw [List.foldl_cons, ih, receive_eq, split, split]
    simp only [Keypad.pressEach, List.foldl_append, List.append_assoc, List.any_cons,
      Bool.or_assoc]

/-- **All that a poll does.** -/
theorem poll_eq (keyboard : Keyboard) (keypad : Keypad) (events : List Event) :
    keyboard.poll keypad events =
      { keyboard := ⟨keyboard.keymap, keyboard.stopAsked || events.any Event.isEscape⟩
        keypad := Keypad.empty.pressEach (events.filterMap (Event.key? keyboard.keymap))
        unmapped := events.filterMap (Event.unmapped? keyboard.keymap) } := by
  unfold poll
  rw [foldl_receive]
  rfl

end Keyboard

/-! ### The key of a character -/

/-- The last entry for a character gives it that key. -/
def Keymap.LastEntry (keymap : Keymap) (character : Char) (key : UInt8) : Prop :=
  ∃ earlier later, keymap = earlier ++ (character, key) :: later ∧
    ∀ entry ∈ later, entry.1 ≠ character

theorem Keymap.lookup?_eq_some_iff {keymap : Keymap} {character : Char} {key : UInt8} :
    keymap.lookup? character = some key ↔ keymap.LastEntry character key := by
  constructor
  · intro found
    obtain ⟨entry, first, rfl⟩ := Option.map_eq_some_iff.mp found
    obtain ⟨same, later, earlier, split, others⟩ := List.find?_eq_some_iff_append.mp first
    refine ⟨earlier.reverse, later.reverse, ?_, fun other member => ?_⟩
    · rw [← List.reverse_reverse keymap, split, ← of_decide_eq_true same]
      simp
    · simpa using others other (List.mem_reverse.mp member)
  · rintro ⟨earlier, later, rfl, others⟩
    refine Option.map_eq_some_iff.mpr ⟨(character, key), ?_, rfl⟩
    refine List.find?_eq_some_iff_append.mpr
      ⟨decide_eq_true rfl, later.reverse, earlier.reverse, by simp, fun entry member => ?_⟩
    simpa using others entry (List.mem_reverse.mp member)

/-- An event types a character that, in lower case, stands for the key of that number. -/
def Event.Holds (keymap : Keymap) (number : Nat) (event : Event) : Prop :=
  ∃ typed key, event.character? = some typed ∧ keymap.LastEntry typed.toLower key ∧
    key.toNat % 16 = number

theorem Event.holds_iff {keymap : Keymap} {number : Nat} {event : Event} :
    event.Holds keymap number ↔ ∃ key, event.key? keymap = some key ∧ key.toNat % 16 = number := by
  have opened : ∀ key, event.key? keymap = some key ↔
      ∃ typed, event.character? = some typed ∧ keymap.LastEntry typed.toLower key := by
    intro key
    rw [key?, Option.bind_eq_some_iff]
    exact exists_congr fun typed => and_congr_right fun _ => Keymap.lookup?_eq_some_iff
  constructor
  · rintro ⟨typed, key, types, entry, same⟩
    exact ⟨key, (opened key).mpr ⟨typed, types, entry⟩, same⟩
  · rintro ⟨key, found, same⟩
    obtain ⟨typed, types, entry⟩ := (opened key).mp found
    exact ⟨typed, key, types, entry, same⟩

/-- **What is held after a poll**: the keys that its events hold, and no other. -/
theorem Keyboard.getElem_poll (keyboard : Keyboard) (keypad : Keypad) (events : List Event)
    (number : Nat) (inside : number < Keypad.size) :
    ((keyboard.poll keypad events).keypad.keys[number] = 1 ↔
      ∃ event ∈ events, event.Holds keyboard.keymap number) ∧
    ((keyboard.poll keypad events).keypad.keys[number] = 0 ↔
      ¬ ∃ event ∈ events, event.Holds keyboard.keymap number) := by
  have pressed : (∃ key ∈ events.filterMap (Event.key? keyboard.keymap),
      key.toNat % 16 = number) ↔ ∃ event ∈ events, event.Holds keyboard.keymap number := by
    simp only [List.mem_filterMap, Event.holds_iff]
    constructor
    · rintro ⟨key, ⟨event, member, found⟩, same⟩
      exact ⟨event, member, key, found, same⟩
    · rintro ⟨event, member, key, found, same⟩
      exact ⟨key, ⟨event, member, found⟩, same⟩
  have released : Keypad.empty.keys[number] = 0 := by simp [Keypad.empty]
  rw [poll_eq, Keypad.getElem_pressEach, released, ← pressed]
  by_cases held : ∃ key ∈ events.filterMap (Event.key? keyboard.keymap),
      key.toNat % 16 = number
  · rw [if_pos held]
    exact ⟨iff_of_true rfl held, iff_of_false (by decide) (not_not_intro held)⟩
  · rw [if_neg held]
    exact ⟨iff_of_false (by decide) held, iff_of_true rfl held⟩

/-! ### Runs -/

namespace Typing

/-- A keyboard just made, and the keypad as it may be. -/
def start (keymap : Keymap) (keypad : Keypad) : Typing := ⟨.ofKeymap keymap, keypad⟩

/-- A new keyboard takes the place of the old. -/
def Step.IsRenewal : Step → Prop
  | .renew _ => True
  | _ => False

/-- A poll of the keyboard that is in use after a run met escape. -/
def Escaped (steps : List Step) : Prop :=
  ∃ earlier batch later, steps = earlier ++ .poll batch :: later ∧
    (∀ step ∈ later, ¬ step.IsRenewal) ∧ ∃ event ∈ batch, event.isEscape = true

/-- The keymap in use after a run that began with another one in use. -/
def lastKeymap (keymap : Keymap) : List Step → Keymap
  | [] => keymap
  | .renew other :: later => lastKeymap other later
  | _ :: later => lastKeymap keymap later

theorem takeAll_append (typing : Typing) (first later : List Step) :
    (typing.takeAll (first ++ later)).2 = ((typing.takeAll first).2.takeAll later).2 := by
  induction first generalizing typing with
  | nil => rfl
  | cons step rest ih => exact ih (typing.take step).2

theorem keymap_takeAll (typing : Typing) (steps : List Step) :
    (typing.takeAll steps).2.keyboard.keymap = lastKeymap typing.keyboard.keymap steps := by
  induction steps generalizing typing with
  | nil => rfl
  | cons step later ih =>
    show ((typing.take step).2.takeAll later).2.keyboard.keymap = _
    rw [ih]
    cases step with
    | poll events =>
      show lastKeymap (typing.keyboard.poll typing.keypad events).keyboard.keymap later = _
      rw [Keyboard.poll_eq]
      rfl
    | press key => rfl
    | renew keymap => rfl

/-- A step that is no poll with escape leaves the wish to stop as it is, unless it is a new
keyboard. -/
theorem stopAsked_take (typing : Typing) (step : Step) :
    (typing.take step).2.keyboard.stopAsked = true ↔
      (∃ batch, step = .poll batch ∧ ∃ event ∈ batch, event.isEscape = true) ∨
      (typing.keyboard.stopAsked = true ∧ ¬ step.IsRenewal) := by
  cases step with
  | poll batch =>
    have calm : ¬ (Step.poll batch).IsRenewal := id
    show (typing.keyboard.poll typing.keypad batch).keyboard.stopAsked = true ↔ _
    rw [Keyboard.poll_eq, Bool.or_eq_true, List.any_eq_true, or_comm, and_iff_left calm]
    simp only [Step.poll.injEq, exists_eq_left']
  | press key =>
    have calm : ¬ (Step.press key).IsRenewal := id
    rw [and_iff_left calm]
    exact (or_iff_right nofun).symm
  | renew keymap =>
    have fresh : (Step.renew keymap).IsRenewal := trivial
    exact iff_of_false nofun (not_or_intro nofun fun both => both.2 fresh)

/-- The poll that met escape is the first step or a later one. -/
theorem escaped_cons (step : Step) (later : List Step) :
    Escaped (step :: later) ↔
      ((∃ batch, step = .poll batch ∧ ∃ event ∈ batch, event.isEscape = true) ∧
        ∀ other ∈ later, ¬ other.IsRenewal) ∨ Escaped later := by
  constructor
  · rintro ⟨earlier, batch, rest, split, same, escape⟩
    cases earlier with
    | nil =>
      obtain ⟨rfl, rfl⟩ := List.cons.inj split
      exact Or.inl ⟨⟨batch, rfl, escape⟩, same⟩
    | cons first earlier =>
      exact Or.inr ⟨earlier, batch, rest, (List.cons.inj split).2, same, escape⟩
  · rintro (⟨⟨batch, rfl, escape⟩, same⟩ | ⟨earlier, batch, rest, rfl, same, escape⟩)
    · exact ⟨[], batch, later, rfl, same, escape⟩
    · exact ⟨step :: earlier, batch, rest, rfl, same, escape⟩

/-- **The wish to stop after a run**: escape since the keyboard was made, or a wish from before
the run if the keyboard is still the same. The induction is on the run; a new keyboard cuts off
what came before it. -/
theorem stopAsked_takeAll (typing : Typing) (steps : List Step) :
    (typing.takeAll steps).2.keyboard.stopAsked = true ↔
      Escaped steps ∨
      (typing.keyboard.stopAsked = true ∧ ∀ step ∈ steps, ¬ step.IsRenewal) := by
  induction steps generalizing typing with
  | nil => simp [takeAll, Escaped]
  | cons step later ih =>
    show ((typing.take step).2.takeAll later).2.keyboard.stopAsked = true ↔ _
    rw [ih, stopAsked_take, escaped_cons, List.forall_mem_cons]
    constructor
    · rintro (escaped | ⟨escape | ⟨asked, calm⟩, same⟩)
      · exact Or.inl (Or.inr escaped)
      · exact Or.inl (Or.inl ⟨escape, same⟩)
      · exact Or.inr ⟨asked, calm, same⟩
    · rintro ((⟨escape, same⟩ | escaped) | ⟨asked, calm, same⟩)
      · exact Or.inr ⟨Or.inl escape, same⟩
      · exact Or.inl escaped
      · exact Or.inr ⟨Or.inr ⟨asked, calm⟩, same⟩

/-- **Runs of polls, presses by hand and new keyboards.** After a poll a key is held exactly if an
event of that poll holds it through the keymap in use, so neither earlier keys nor the order and
number of equal events matter. The keyboard asks to stop exactly if one of its polls met escape,
and goes on asking until there is a new keyboard. -/
theorem takeAll_polls (keymap : Keymap) (keypad : Keypad) (steps : List Step) :
    (∀ earlier events, steps = earlier ++ [.poll events] →
      ∀ number (inside : number < Keypad.size),
      (((start keymap keypad).takeAll steps).2.keypad.keys[number] = 1 ↔
        ∃ event ∈ events, event.Holds (lastKeymap keymap earlier) number) ∧
      (((start keymap keypad).takeAll steps).2.keypad.keys[number] = 0 ↔
        ¬ ∃ event ∈ events, event.Holds (lastKeymap keymap earlier) number)) ∧
    (∀ earlier events, steps = earlier ++ [.poll events] →
      ∀ otherKeymap otherKeypad otherEarlier otherEvents,
        lastKeymap otherKeymap otherEarlier = lastKeymap keymap earlier →
        (∀ event, event ∈ otherEvents ↔ event ∈ events) →
          ((start otherKeymap otherKeypad).takeAll
            (otherEarlier ++ [.poll otherEvents])).2.keypad =
              ((start keymap keypad).takeAll steps).2.keypad) ∧
    (((start keymap keypad).takeAll steps).2.keyboard.stopAsked = true ↔ Escaped steps) ∧
    (((start keymap keypad).takeAll steps).2.keyboard.stopAsked = true →
      ∀ later, (∀ step ∈ later, ¬ step.IsRenewal) →
        ((start keymap keypad).takeAll (steps ++ later)).2.keyboard.stopAsked = true) := by
  have held : ∀ keymap keypad earlier events, ∀ number (inside : number < Keypad.size),
      (((start keymap keypad).takeAll (earlier ++ [.poll events])).2.keypad.keys[number] = 1 ↔
        ∃ event ∈ events, event.Holds (lastKeymap keymap earlier) number) ∧
      (((start keymap keypad).takeAll (earlier ++ [.poll events])).2.keypad.keys[number] = 0 ↔
        ¬ ∃ event ∈ events, event.Holds (lastKeymap keymap earlier) number) := by
    intro keymap keypad earlier events number inside
    have keymapNow := (start keymap keypad).keymap_takeAll earlier
    rw [takeAll_append, ← show _ = lastKeymap keymap earlier from keymapNow]
    exact Keyboard.getElem_poll _ _ events number inside
  refine ⟨?_, ?_, ?_, ?_⟩
  · rintro earlier events rfl number inside
    exact held keymap keypad earlier events number inside
  · rintro earlier events rfl otherKeymap otherKeypad otherEarlier otherEvents sameKeymap sameEvents
    refine congrArg Keypad.mk (Vector.ext fun index inside => ?_)
    have here := held keymap keypad earlier events index inside
    have there := held otherKeymap otherKeypad otherEarlier otherEvents index inside
    simp only [sameKeymap, sameEvents] at there
    by_cases holds : ∃ event ∈ events, event.Holds (lastKeymap keymap earlier) index
    · exact (there.1.mpr holds).trans (here.1.mpr holds).symm
    · exact (there.2.mpr holds).trans (here.2.mpr holds).symm
  · rw [stopAsked_takeAll]
    simp [start, Keyboard.ofKeymap]
  · intro asked later same
    rw [takeAll_append, stopAsked_takeAll]
    exact Or.inr ⟨asked, same⟩

/-- Escape in an earlier poll and a key held by hand before the last one; the last of three
entries counts, in either case of the letter. -/
theorem takeAll_polls_shadowed :
    let keymap : Keymap := [('a', 0x01), ('A', 0x02), ('a', 0x13)]
    let final := ((start keymap .empty).takeAll
      [.poll [.escape, .typed 'q'], .press 7, .poll [.typed 'A', .mouse, .typed 'A']]).2
    final.keypad.keys.get ⟨3, by decide⟩ = 1 ∧ final.keypad.keys.get ⟨7, by decide⟩ = 0 ∧
      final.keyboard.stopAsked = true := by
  intro keymap final
  obtain ⟨held, -, stops, -⟩ := takeAll_polls keymap .empty
    [.poll [.escape, .typed 'q'], .press 7, .poll [.typed 'A', .mouse, .typed 'A']]
  have entry : keymap.LastEntry 'a' 0x13 := ⟨[('a', 0x01), ('A', 0x02)], [], rfl, by simp⟩
  have only : ∀ key, keymap.key? 'A' = some key → key = 0x13 := fun key found =>
    (Option.some.inj (found.symm.trans (Keymap.lookup?_eq_some_iff.mpr entry)))
  refine ⟨?_, ?_, ?_⟩
  · refine (held [.poll [.escape, .typed 'q'], .press 7] _ rfl 3 (by decide)).1.mpr ?_
    exact ⟨.typed 'A', by simp, 'A', 0x13, rfl, entry, by decide⟩
  · refine (held [.poll [.escape, .typed 'q'], .press 7] _ rfl 7 (by decide)).2.mpr ?_
    rintro ⟨event, member, holds⟩
    obtain ⟨key, found, seven⟩ := Event.holds_iff.mp holds
    simp only [List.mem_cons, List.not_mem_nil, or_false] at member
    obtain rfl | rfl | rfl := member
    · rw [only key found] at seven
      exact absurd seven (by decide)
    · exact absurd found nofun
    · rw [only key found] at seven
      exact absurd seven (by decide)
  · exact stops.mpr ⟨[], [.escape, .typed 'q'], _, rfl, by simp [Step.IsRenewal],
      .escape, by simp, rfl⟩

end Typing

end Cosmac
