/-
**Outlines read back.**

The text of an outline tells which outline it is, in either layout, if records and their labels have
proper names. The first character says whether it is a number, a list or a record; a name or a
numeral ends where a character of another kind stands; and whether another part comes or the list or
record is closed is seen before that part begins.

* `Outline.Legible` — outlines with proper names.
* `Layout.Follows` — what may come after an outline in a longer text.
* `Layout.Readable` — what a layout must keep apart so that texts can be read;
  `readable_oneLine`, `readable_stacked` — both layouts do.
* `telling_write` — the text of an outline tells what it is and where it ends.
* `onOneLine_inj`, `indented_inj` — outlines with the same text are the same.
-/

import Cosmac.Text.Outline
import Cosmac.Proofs.Text.Numerals

namespace Cosmac.Text

/-! ### Names -/

/-- Whether a character may stand in a name: a letter, a figure or a low line. -/
def isNameCharacter (character : Char) : Bool :=
  character.isAlphanum || character = '_'

/-- Whether a text is a name: characters that may stand in a name, the first of them no figure. -/
def isName (text : String) : Bool :=
  match text.toList with
  | [] => false
  | first :: later => !first.isDigit && (first :: later).all isNameCharacter

theorem isNameCharacter_of_isDigit {character : Char} (digit : isDigit 10 character = true) :
    isNameCharacter character = true := by
  rw [isNameCharacter, Char.isAlphanum, isDigit_of_isDigit_ten digit, Bool.or_true, Bool.true_or]

theorem exists_first_of_isName {text : String} (named : isName text = true) :
    ∃ first later, text.toList = first :: later ∧ first.isDigit = false := by
  unfold isName at named
  split at named
  case h_1 => cases named
  case h_2 first later spelled =>
    have no_figure := (Bool.and_eq_true_iff.mp named).1
    exact ⟨first, later, spelled, by simpa using no_figure⟩

theorem isNameCharacter_of_isName {text : String} (named : isName text = true) :
    ∀ character ∈ text.toList, isNameCharacter character = true := by
  unfold isName at named
  split at named
  case h_1 => cases named
  case h_2 first later spelled =>
    rw [spelled]
    exact List.all_eq_true.mp (Bool.and_eq_true_iff.mp named).2

/-- A name in a longer text tells what it is and where it ends. -/
theorem name_append_inj {first second : String} {rest ending : List Char}
    (named : isName first = true) (otherNamed : isName second = true)
    (stops : Stops isNameCharacter rest) (otherStops : Stops isNameCharacter ending)
    (same : first.toList ++ rest = second.toList ++ ending) : first = second ∧ rest = ending := by
  obtain ⟨names, remaining⟩ := row_append_inj (isNameCharacter_of_isName named)
    (isNameCharacter_of_isName otherNamed) stops otherStops same
  exact ⟨String.toList_inj.mp names, remaining⟩

/-! ### Legible outlines -/

namespace Outline

/-- Outlines in which records and labels have proper names. -/
inductive Legible : Outline → Prop
  | number (value : Nat) : Legible (.number value)
  | list {items : List Outline} (each : ∀ item ∈ items, Legible item) : Legible (.list items)
  | record {name : String} {fields : List (String × Outline)} (named : isName name = true)
      (labelled : ∀ field ∈ fields, isName field.1 = true)
      (each : ∀ field ∈ fields, Legible field.2) : Legible (.record name fields)

theorem Legible.record_nil {name : String} (named : isName name = true) :
    (Outline.record name []).Legible :=
  .record named nofun nofun

theorem Legible.record_cons {name label : String} {value : Outline}
    {later : List (String × Outline)} (labelled : isName label = true) (legible : value.Legible)
    (others : (Outline.record name later).Legible) :
    (Outline.record name ((label, value) :: later)).Legible := by
  cases others with
  | record named othersLabelled each =>
    exact .record named (List.forall_mem_cons.mpr ⟨labelled, othersLabelled⟩)
      (List.forall_mem_cons.mpr ⟨legible, each⟩)

/-- The three forms of an outline. -/
inductive Form where
  | number
  | list
  | record

/-- The form of an outline. -/
def form : Outline → Form
  | .number _ => .number
  | .list _ => .list
  | .record _ _ => .record

/-- The form of an outline whose text begins with a character, if there is one. -/
def Form.ofStart? (character : Char) : Option Form :=
  if character = '[' then some .list
  else if character.isDigit then some .number
  else if isNameCharacter character then some .record
  else none

theorem Form.ofStart?_of_isDigit {character : Char} (digit : character.isDigit = true) :
    ofStart? character = some .number := by
  have apart : character ≠ '[' := by
    rintro rfl
    cases digit
  rw [ofStart?, if_neg apart, if_pos digit]

theorem Form.ofStart?_of_isNameCharacter {character : Char}
    (no_figure : character.isDigit = false) (named : isNameCharacter character = true) :
    ofStart? character = some .record := by
  have apart : character ≠ '[' := by
    rintro rfl
    cases named
  have no_digit : ¬ character.isDigit = true := by
    rw [no_figure]
    exact Bool.false_ne_true
  rw [ofStart?, if_neg apart, if_neg no_digit, if_pos named]

end Outline

/-! ### Parts and what follows them -/

namespace Layout

/-- What may come after an outline with `depth` lists and records open around it: nothing that
could belong to a name or a numeral, nor what opens a record. -/
structure Follows (layout : Layout) (depth : Nat) (text : List Char) : Prop where
  stops : Stops isNameCharacter text
  unopened : ¬ layout.recordOpening depth <+: text

/-- A text that closes what `depth` others are around: it may come after an outline, and is told
from a separator. -/
structure Closes (layout : Layout) (depth : Nat) (closing : List Char) : Prop where
  follows : ∀ rest, layout.Follows (depth + 1) (closing ++ rest)
  apart : ∀ rest ending, layout.separator depth ++ rest ≠ closing ++ ending

/-- What a layout keeps apart so that texts can be read. -/
structure Readable (layout : Layout) : Prop where
  follows_nil : ∀ depth, layout.Follows depth []
  follows_separator : ∀ depth rest, layout.Follows (depth + 1) (layout.separator depth ++ rest)
  closes_list : ∀ depth, layout.Closes depth (layout.listClosing depth)
  closes_record : ∀ depth, layout.Closes depth (layout.recordClosing depth)
  stops_recordOpening : ∀ depth rest, Stops isNameCharacter (layout.recordOpening depth ++ rest)
  /-- A list that is opened is told from one without items. -/
  listOpening_cases : ∀ depth, ∃ gap, layout.listOpening depth = '[' :: gap ∧
    ∀ character ∈ gap.head?, character ≠ ']'

end Layout

section Parts

variable {layout : Layout} {depth : Nat} {Part : Type} {write : Part → List Char}
  {closing rest ending : List Char}

/-- In a longer text, a part tells what it is among some parts, and where it ends. -/
def Telling (may : List Char → Prop) (among : Part → Prop) (write : Part → List Char)
    (part : Part) : Prop :=
  ∀ other rest ending, among other → may rest → may ending →
    write part ++ rest = write other ++ ending → part = other ∧ rest = ending

/-- The later parts of a list or record, with a separator before each, up to the closing, and the
text after it. -/
def laterParts (layout : Layout) (depth : Nat) (write : Part → List Char) (closing : List Char)
    (parts : List Part) (rest : List Char) : List Char :=
  parts.flatMap (fun part => layout.separator depth ++ write part) ++ (closing ++ rest)

theorem laterParts_cons (part : Part) (later : List Part) :
    laterParts layout depth write closing (part :: later) rest =
      layout.separator depth ++ (write part ++ laterParts layout depth write closing later rest) := by
  rw [laterParts, List.flatMap_cons, List.append_assoc, List.append_assoc]
  rfl

theorem follows_laterParts (readable : layout.Readable) (closes : layout.Closes depth closing)
    (parts : List Part) :
    layout.Follows (depth + 1) (laterParts layout depth write closing parts rest) := by
  cases parts with
  | nil => exact closes.follows rest
  | cons part later =>
    rw [laterParts_cons]
    exact readable.follows_separator depth _

variable {among : Part → Prop}

/-- **The parts up to the closing are told part by part.** -/
theorem laterParts_inj (readable : layout.Readable) (closes : layout.Closes depth closing)
    {parts others : List Part} (among_others : ∀ other ∈ others, among other)
    (telling : ∀ part ∈ parts, Telling (layout.Follows (depth + 1)) among write part)
    (same : laterParts layout depth write closing parts rest =
      laterParts layout depth write closing others ending) :
    parts = others ∧ rest = ending := by
  induction parts generalizing others with
  | nil =>
    cases others with
    | nil => exact ⟨rfl, List.append_cancel_left same⟩
    | cons other following =>
      -- One text goes on with a separator where the other is closed.
      rw [laterParts_cons] at same
      exact absurd same.symm (closes.apart _ _)
  | cons part later ih =>
    cases others with
    | nil =>
      rw [laterParts_cons] at same
      exact absurd same (closes.apart _ _)
    | cons other following =>
      rw [laterParts_cons, laterParts_cons] at same
      obtain ⟨rfl, remaining⟩ := telling part List.mem_cons_self other _ _
        (among_others other List.mem_cons_self) (follows_laterParts readable closes later)
        (follows_laterParts readable closes following) (List.append_cancel_left same)
      obtain ⟨rfl, ended⟩ := ih (fun other member => among_others other (.tail _ member))
        (fun part member => telling part (.tail _ member)) remaining
      exact ⟨rfl, ended⟩

end Parts

/-! ### Whole outlines -/

namespace Outline

variable {layout : Layout} {depth : Nat} {rest ending : List Char}

/-- A field with its label. -/
def writeField (layout : Layout) (depth : Nat) (field : String × Outline) : List Char :=
  field.1.toList ++ ':' :: ' ' :: field.2.write layout depth

theorem writeItems_eq (items : List Outline) :
    writeItems layout depth items =
      items.flatMap fun item => layout.separator depth ++ item.write layout (depth + 1) := by
  induction items with
  | nil => rw [writeItems, List.flatMap_nil]
  | cons item later ih => rw [writeItems, ih, List.flatMap_cons]

theorem writeFields_eq (fields : List (String × Outline)) :
    writeFields layout depth fields =
      fields.flatMap fun field => layout.separator depth ++ writeField layout (depth + 1) field := by
  induction fields with
  | nil => rw [writeFields, List.flatMap_nil]
  | cons field later ih =>
    rw [writeFields, ih, List.flatMap_cons, writeField]
    simp only [List.append_assoc, List.cons_append, List.nil_append]

theorem write_list_nil : (list []).write layout depth ++ rest = '[' :: ']' :: rest := by
  rw [write]
  rfl

theorem write_list_cons (item : Outline) (later : List Outline) :
    (list (item :: later)).write layout depth ++ rest =
      layout.listOpening depth ++ (item.write layout (depth + 1) ++
        laterParts layout depth (write layout (depth + 1)) (layout.listClosing depth) later rest) := by
  rw [write, writeItems_eq, laterParts]
  simp only [List.append_assoc]

theorem write_record_nil (name : String) :
    (record name []).write layout depth ++ rest = name.toList ++ rest := by
  rw [write]

theorem write_record_cons (name : String) (field : String × Outline)
    (later : List (String × Outline)) :
    (record name (field :: later)).write layout depth ++ rest =
      name.toList ++ (layout.recordOpening depth ++ (writeField layout (depth + 1) field ++
        laterParts layout depth (writeField layout (depth + 1)) (layout.recordClosing depth) later
          rest)) := by
  rw [write, writeFields_eq, laterParts, writeField]
  simp only [List.append_assoc, List.cons_append, List.nil_append]

theorem exists_write_record (layout : Layout) (depth : Nat) (name : String)
    (fields : List (String × Outline)) :
    ∃ later, (record name fields).write layout depth = name.toList ++ later := by
  cases fields with
  | nil =>
    refine ⟨[], ?_⟩
    rw [write, List.append_nil]
  | cons field others =>
    have whole : (record name (field :: others)).write layout depth ++ [] = _ :=
      write_record_cons name field others
    rw [List.append_nil] at whole
    exact ⟨_, whole⟩

/-- **The first character of its text says which form an outline has.** -/
theorem exists_start (readable : layout.Readable) {outline : Outline} (legible : outline.Legible)
    (depth : Nat) (rest : List Char) :
    ∃ first later, outline.write layout depth ++ rest = first :: later ∧
      Form.ofStart? first = some outline.form := by
  cases legible with
  | number value =>
    cases spelled : Nat.toDigits 10 value with
    | nil => exact absurd spelled Nat.toDigits_ne_nil
    | cons first later =>
      have member : first ∈ Nat.toDigits 10 value := by
        rw [spelled]
        exact List.mem_cons_self
      have digit := Nat.isDigit_of_mem_toDigits (by decide) (by decide) member
      rw [write, spelled]
      exact ⟨first, _, rfl, Form.ofStart?_of_isDigit digit⟩
  | @list items each =>
    cases items with
    | nil => exact ⟨'[', ']' :: rest, write_list_nil, rfl⟩
    | cons item later =>
      obtain ⟨gap, opening, -⟩ := readable.listOpening_cases depth
      rw [write_list_cons, opening]
      exact ⟨'[', _, rfl, rfl⟩
  | @record name fields named labelled each =>
    obtain ⟨first, later, spelled, no_figure⟩ := exists_first_of_isName named
    have member : first ∈ name.toList := by
      rw [spelled]
      exact List.mem_cons_self
    have formed := Form.ofStart?_of_isNameCharacter no_figure
      (isNameCharacter_of_isName named first member)
    obtain ⟨others, written⟩ := exists_write_record layout depth name fields
    rw [written, spelled]
    exact ⟨first, _, rfl, formed⟩

theorem form_eq_of_write_append (readable : layout.Readable) {first second : Outline}
    (legible : first.Legible) (otherLegible : second.Legible)
    (same : first.write layout depth ++ rest = second.write layout depth ++ ending) :
    first.form = second.form := by
  obtain ⟨start, _, spelled, formed⟩ := exists_start readable legible depth rest
  obtain ⟨other, _, otherSpelled, otherFormed⟩ := exists_start readable otherLegible depth ending
  rw [spelled, otherSpelled] at same
  rw [(List.cons.inj same).1, otherFormed] at formed
  exact (Option.some.inj formed).symm

/-- A list without items is told from one that begins with an item. -/
theorem write_list_nil_ne (readable : layout.Readable) {item : Outline} (legible : item.Legible)
    (text : List Char) :
    '[' :: ']' :: rest ≠ layout.listOpening depth ++ (item.write layout (depth + 1) ++ text) := by
  obtain ⟨gap, opening, apart⟩ := readable.listOpening_cases depth
  intro same
  rw [opening] at same
  cases gap with
  | nil =>
    obtain ⟨start, later, spelled, formed⟩ := exists_start readable legible (depth + 1) text
    rw [spelled] at same
    obtain ⟨rfl, -⟩ := List.cons.inj (List.cons.inj same).2
    cases formed
  | cons character remaining =>
    obtain ⟨rfl, -⟩ := List.cons.inj (List.cons.inj same).2
    exact apart _ rfl rfl

/-- A field is told by its label and then by its value. -/
theorem telling_field {field : String × Outline} (named : isName field.1 = true)
    (telling : Telling (layout.Follows depth) Legible (write layout depth) field.2) :
    Telling (layout.Follows depth) (fun other => isName other.1 = true ∧ other.2.Legible)
      (writeField layout depth) field := by
  intro other rest ending legible follows otherFollows same
  have stops : ∀ text, Stops isNameCharacter (':' :: text) := stops_cons rfl
  rw [writeField, writeField, List.append_assoc, List.append_assoc] at same
  obtain ⟨labels, values⟩ := name_append_inj named legible.1 (stops _) (stops _) same
  obtain ⟨value, ended⟩ := telling other.2 rest ending legible.2 follows otherFollows
    (List.cons.inj (List.cons.inj values).2).2
  exact ⟨Prod.ext labels value, ended⟩

theorem write_list_inj (readable : layout.Readable) {items others : List Outline}
    (each : ∀ item ∈ items, item.Legible) (otherEach : ∀ other ∈ others, other.Legible)
    (telling : ∀ item ∈ items,
      Telling (layout.Follows (depth + 1)) Legible (write layout (depth + 1)) item)
    (same : (list items).write layout depth ++ rest = (list others).write layout depth ++ ending) :
    items = others ∧ rest = ending := by
  cases items with
  | nil =>
    cases others with
    | nil => exact ⟨rfl, List.append_cancel_left same⟩
    | cons other following =>
      rw [write_list_nil, write_list_cons] at same
      exact absurd same (write_list_nil_ne readable (otherEach other List.mem_cons_self) _)
  | cons item later =>
    cases others with
    | nil =>
      rw [write_list_cons, write_list_nil] at same
      exact absurd same.symm (write_list_nil_ne readable (each item List.mem_cons_self) _)
    | cons other following =>
      rw [write_list_cons, write_list_cons] at same
      have parts := List.append_cancel_left same
      apply laterParts_inj readable (readable.closes_list depth) otherEach telling
      rw [laterParts_cons, laterParts_cons, parts]

theorem write_record_inj (readable : layout.Readable) {name otherName : String}
    {fields others : List (String × Outline)} (named : isName name = true)
    (otherNamed : isName otherName = true) (follows : layout.Follows depth rest)
    (otherFollows : layout.Follows depth ending)
    (otherEach : ∀ other ∈ others, isName other.1 = true ∧ other.2.Legible)
    (telling : ∀ field ∈ fields, Telling (layout.Follows (depth + 1))
      (fun other => isName other.1 = true ∧ other.2.Legible) (writeField layout (depth + 1)) field)
    (same : (record name fields).write layout depth ++ rest =
      (record otherName others).write layout depth ++ ending) :
    name = otherName ∧ fields = others ∧ rest = ending := by
  cases fields with
  | nil =>
    cases others with
    | nil =>
      rw [write_record_nil, write_record_nil] at same
      obtain ⟨names, ended⟩ := name_append_inj named otherNamed follows.stops otherFollows.stops same
      exact ⟨names, rfl, ended⟩
    | cons other following =>
      rw [write_record_nil, write_record_cons] at same
      obtain ⟨-, opened⟩ := name_append_inj named otherNamed follows.stops
        (readable.stops_recordOpening depth _) same
      exact absurd ⟨_, opened.symm⟩ follows.unopened
  | cons field later =>
    cases others with
    | nil =>
      rw [write_record_cons, write_record_nil] at same
      obtain ⟨-, opened⟩ := name_append_inj named otherNamed
        (readable.stops_recordOpening depth _) otherFollows.stops same
      exact absurd ⟨_, opened⟩ otherFollows.unopened
    | cons other following =>
      rw [write_record_cons, write_record_cons] at same
      obtain ⟨names, opened⟩ := name_append_inj named otherNamed
        (readable.stops_recordOpening depth _) (readable.stops_recordOpening depth _) same
      have parts := List.append_cancel_left opened
      refine ⟨names, ?_⟩
      apply laterParts_inj readable (readable.closes_record depth) otherEach telling
      rw [laterParts_cons, laterParts_cons, parts]

/-- **The text of an outline tells what it is and where it ends**, in a longer text. -/
theorem telling_write (readable : layout.Readable) {outline : Outline} (legible : outline.Legible)
    (depth : Nat) : Telling (layout.Follows depth) Legible (write layout depth) outline := by
  -- A part stands one list or record deeper than the whole, so the depth is left general.
  induction legible generalizing depth with
  | number value =>
    intro other rest ending otherLegible follows otherFollows same
    have forms := form_eq_of_write_append readable (.number value) otherLegible same
    cases otherLegible with
    | number counted =>
      rw [write, write] at same
      obtain ⟨rfl, ended⟩ := toDigits_append_inj
        (follows.stops.mono fun _ => isNameCharacter_of_isDigit)
        (otherFollows.stops.mono fun _ => isNameCharacter_of_isDigit) same
      exact ⟨rfl, ended⟩
    | list => cases forms
    | record => cases forms
  | list each ih =>
    intro other rest ending otherLegible follows otherFollows same
    have forms := form_eq_of_write_append readable (.list each) otherLegible same
    cases otherLegible with
    | list otherEach =>
      obtain ⟨rfl, ended⟩ := write_list_inj readable each otherEach
        (fun item member => ih item member (depth + 1)) same
      exact ⟨rfl, ended⟩
    | number => cases forms
    | record => cases forms
  | record named labelled each ih =>
    intro other rest ending otherLegible follows otherFollows same
    have forms := form_eq_of_write_append readable (.record named labelled each) otherLegible same
    cases otherLegible with
    | record otherNamed otherLabelled otherEach =>
      obtain ⟨rfl, rfl, ended⟩ := write_record_inj readable named otherNamed follows otherFollows
        (fun other member => ⟨otherLabelled other member, otherEach other member⟩)
        (fun field member => telling_field (labelled field member) (ih field member (depth + 1)))
        same
      exact ⟨rfl, ended⟩
    | number => cases forms
    | list => cases forms

/-- Outlines with the same text, in a layout that can be read, are the same. -/
theorem write_inj (readable : layout.Readable) {first second : Outline} (legible : first.Legible)
    (otherLegible : second.Legible) :
    first.write layout 0 = second.write layout 0 ↔ first = second := by
  refine ⟨fun same => ?_, congrArg (write layout 0)⟩
  have follows := readable.follows_nil 0
  exact (telling_write readable legible 0 second [] [] otherLegible follows follows
    (by rw [same])).1

end Outline

/-! ### The two layouts -/

namespace Layout

theorem readable_oneLine : oneLine.Readable where
  follows_nil _ := ⟨nofun, by simp [oneLine]⟩
  follows_separator _ rest := ⟨stops_cons rfl _, by simp [oneLine]⟩
  closes_list _ := ⟨fun rest => ⟨stops_cons rfl _, by simp [oneLine]⟩, by simp [oneLine]⟩
  closes_record _ := ⟨fun rest => ⟨stops_cons rfl _, by simp [oneLine]⟩, by simp [oneLine]⟩
  stops_recordOpening _ _ := stops_cons rfl _
  listOpening_cases _ := ⟨[], rfl, nofun⟩

/-- The start of a line that stands one level deeper goes on with a space. -/
theorem newLine_succ_ne {character : Char} (visible : character ≠ ' ') (depth : Nat)
    (rest ending : List Char) :
    newLine (depth + 1) ++ rest ≠ newLine depth ++ character :: ending := by
  intro same
  have deeper : newLine (depth + 1) = newLine depth ++ List.replicate 4 ' ' := by
    rw [newLine, newLine, Nat.mul_succ, ← List.replicate_append_replicate]
    rfl
  rw [deeper, List.append_assoc] at same
  obtain ⟨space, -⟩ := List.cons.inj (List.append_cancel_left same)
  exact visible space.symm

/-- A closing mark on a line of its own. -/
theorem closes_stacked {mark : Char} (visible : mark ≠ ' ') (depth : Nat) :
    stacked.Closes depth (',' :: (newLine depth ++ [mark])) where
  follows rest := ⟨stops_cons rfl _, by simp [stacked]⟩
  apart rest ending same := by
    rw [List.cons_append, List.append_assoc] at same
    exact newLine_succ_ne visible depth rest ending (List.cons.inj same).2

theorem readable_stacked : stacked.Readable where
  follows_nil _ := ⟨nofun, by simp [stacked]⟩
  follows_separator _ rest := ⟨stops_cons rfl _, by simp [stacked]⟩
  closes_list := closes_stacked (by decide)
  closes_record := closes_stacked (by decide)
  stops_recordOpening _ _ := stops_cons rfl _
  listOpening_cases depth := by
    refine ⟨newLine (depth + 1), rfl, ?_⟩
    rintro _ ⟨⟩
    decide

end Layout

namespace Outline

variable {first second : Outline}

/-- **Outlines with the same text on one line are the same.** -/
theorem onOneLine_inj (legible : first.Legible) (otherLegible : second.Legible) :
    first.onOneLine = second.onOneLine ↔ first = second := by
  rw [onOneLine, onOneLine, String.ofList_inj]
  exact write_inj Layout.readable_oneLine legible otherLegible

/-- A record without a proper name can look like nothing at all. -/
example : (list []).onOneLine = (list [record "" []]).onOneLine := by decide

/-- **Outlines with the same text over several lines are the same.** -/
theorem indented_inj (legible : first.Legible) (otherLegible : second.Legible) :
    first.indented = second.indented ↔ first = second := by
  rw [indented, indented, String.ofList_inj]
  exact write_inj Layout.readable_stacked legible otherLegible

end Outline

end Cosmac.Text
