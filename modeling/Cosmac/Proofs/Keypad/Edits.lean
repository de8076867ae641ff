/-
**Edits: the keypad is a set of keys.**

A byte names the key of its low four bits, and a key is held if the byte stored for it is not zero,
whatever else that byte is. The last edit that is about a key decides whether it is held, and no
edit faults. The lowest key held is the least of the set.

* `Edit`, `edit`, `editAll` — a key pressed, released or given a byte, or all let go, and a run of
  these.
* `Edit.Touches`, `Edit.byte` — the keys that an edit is about, and the byte that it stores.
* `toNat_mask`, `put?_mask` — the low four bits of a byte, and a byte stored for the key that they
  name.
* `getElem_edit`, `getElem_editAll_of_apart`, `getElem_editAll_of_last` — the byte of one key after
  an edit, and after a run.
* `Controls.serveAll`, `serveAll_edits` — a run of requests, and a run of edits as such.
* `lowestHeld?_eq_some_iff`, `lowestHeld?_eq_none_iff`, `lowestHeld?_eq_key_iff` — the lowest key
  held.
* `editAll_set_of_keys` — the keypad after a run of edits.
-/

import Cosmac.Keypad.Controls

namespace Cosmac

/-- The replies to a run of requests, in order, and the controls after all of them. -/
def Controls.serveAll (controls : Controls) : List Controls.Request → List Reply × Controls
  | [] => ([], controls)
  | request :: later =>
    let (reply, next) := controls.serve request
    let (replies, final) := next.serveAll later
    (reply :: replies, final)

/-- The first place at which a test holds. -/
theorem findFinIdx?_eq_some_iff {α : Type} {length : Nat} {values : Vector α length}
    {test : α → Bool} {place : Fin length} :
    values.findFinIdx? test = some place ↔
      test (values.get place) = true ∧ ∀ other < place, test (values.get other) = false := by
  obtain ⟨entries, rfl⟩ := values
  rw [Vector.findFinIdx?_mk, Option.map_eq_some_iff]
  simp only [Fin.cast_refl, id_eq, exists_eq_right, Array.findFinIdx?_eq_some_iff, Bool.not_eq_true]
  rfl

namespace Keypad

/-- What can be done to a keypad. -/
inductive Edit where
  | press (key : UInt8)
  | release (key : UInt8)
  | letAllGo
  /-- Store any byte for the key of that number. -/
  | put (number : Fin size) (value : UInt8)
deriving DecidableEq

namespace Edit

/-- An edit is about the key of that number. -/
def Touches (number : Fin size) : Edit → Prop
  | press key | release key => slot key = number
  | letAllGo => True
  | put other _ => other = number

instance (number : Fin size) (edit : Edit) : Decidable (edit.Touches number) :=
  match edit with
  | press key | release key => inferInstanceAs (Decidable (slot key = number))
  | letAllGo => inferInstanceAs (Decidable True)
  | put other _ => inferInstanceAs (Decidable (other = number))

/-- The byte that an edit stores for the keys that it is about. -/
def byte : Edit → UInt8
  | press _ => 1
  | release _ | letAllGo => 0
  | put _ value => value

/-- An edit as a request. -/
def request : Edit → Controls.Request
  | press key => .press key
  | release key => .release key
  | letAllGo => .letAllGo
  | put number value => .put number.val value

end Edit

variable (keypad : Keypad)

/-- The keypad after an edit. -/
def edit : Edit → Keypad
  | .press key => keypad.press key
  | .release key => keypad.release key
  | .letAllGo => keypad.letAllGo
  | .put number value => ⟨keypad.keys.set number value⟩

/-- The keypad after a run of edits. -/
def editAll (edits : List Edit) : Keypad := edits.foldl edit keypad

/-! ### The key that a byte names -/

/-- The low four bits of a byte are its remainder by sixteen. -/
theorem toNat_mask (key : UInt8) : (key &&& 0x0f).toNat = key.toNat % 16 := by
  rw [UInt8.toNat_and]
  exact Nat.and_two_pow_sub_one_eq_mod key.toNat 4

/-- **The low four bits of a byte always name a key**: a byte can be stored for it. -/
theorem put?_mask (key value : UInt8) :
    keypad.put? (key &&& 0x0f).toNat value = some (keypad.edit (.put (slot key) value)) := by
  have inside : key.toNat % 16 < size := Nat.mod_lt _ (by decide)
  simp only [toNat_mask, put?, dif_pos inside]
  rfl

theorem isHeld_mask (key : UInt8) :
    keypad.keys[(key &&& 0x0f).toNat]?.map (· != 0) = some (keypad.isHeld key) := by
  have inside : key.toNat % 16 < size := Nat.mod_lt _ (by decide)
  rw [toNat_mask, Vector.getElem?_eq_getElem inside]
  rfl

/-! ### The byte of one key -/

/-- **One edit and one key**: an edit that is about the key stores its byte, any other leaves the
key's byte as it is. -/
theorem getElem_edit (edit : Edit) (number : Fin size) :
    (keypad.edit edit).keys[number] =
      if edit.Touches number then edit.byte else keypad.keys[number] := by
  cases edit with
  | letAllGo => exact keypad.getElem_letAllGo number.val number.isLt
  | press key =>
    show (keypad.keys.set (slot key).val 1)[number.val] = _
    simp only [Vector.getElem_set, ← Fin.ext_iff]
    rfl
  | release key =>
    show (keypad.keys.set (slot key).val 0)[number.val] = _
    simp only [Vector.getElem_set, ← Fin.ext_iff]
    rfl
  | put other value =>
    show (keypad.keys.set other.val value)[number.val] = _
    simp only [Vector.getElem_set, ← Fin.ext_iff]
    rfl

variable {edits : List Edit} {number : Fin size}

/-- A key that no edit of a run is about keeps its byte. -/
theorem getElem_editAll_of_apart (apart : ∀ edit ∈ edits, ¬ edit.Touches number) :
    (keypad.editAll edits).keys[number] = keypad.keys[number] := by
  induction edits generalizing keypad with
  | nil => rfl
  | cons edit later ih =>
    obtain ⟨here, rest⟩ := List.forall_mem_cons.mp apart
    show ((keypad.edit edit).editAll later).keys[number] = _
    rw [ih _ rest, getElem_edit, if_neg here]

/-- **The last edit that is about a key decides its byte.** -/
theorem getElem_editAll_of_last {earlier later : List Edit} {edit : Edit}
    (split : edits = earlier ++ edit :: later) (touches : edit.Touches number)
    (apart : ∀ other ∈ later, ¬ other.Touches number) :
    (keypad.editAll edits).keys[number] = edit.byte := by
  have parts : keypad.editAll edits = ((keypad.editAll earlier).edit edit).editAll later := by
    rw [split, editAll, List.foldl_append]
    rfl
  rw [parts, getElem_editAll_of_apart _ apart, getElem_edit, if_pos touches]

/-! ### Edits as requests -/

theorem serve_edit (input : ScriptedInput) (edit : Edit) :
    Controls.serve ⟨keypad, input⟩ edit.request = (.done, ⟨keypad.edit edit, input⟩) := by
  cases edit with
  | put number value => simp only [Edit.request, Controls.serve, put?, dif_pos number.isLt]; rfl
  | _ => rfl

/-- **A run of edits never faults.** -/
theorem serveAll_edits (input : ScriptedInput) (edits : List Edit) :
    Controls.serveAll ⟨keypad, input⟩ (edits.map Edit.request) =
      (edits.map fun _ => .done, ⟨keypad.editAll edits, input⟩) := by
  induction edits generalizing keypad with
  | nil => rfl
  | cons edit later ih =>
    simp only [List.map_cons, Controls.serveAll, serve_edit, ih]
    rfl

/-- **The one fault**: a byte stored for a key that there is not. -/
theorem serve_fault_iff (input : ScriptedInput) (request : Controls.Request) :
    (Controls.serve ⟨keypad, input⟩ request).1 = .fault ↔
      ∃ index value, request = .put index value ∧ size ≤ index := by
  cases request with
  | put index value =>
    simp only [Controls.serve, put?, Controls.Request.put.injEq]
    by_cases inside : index < size
    · rw [dif_pos inside]
      exact iff_of_false nofun fun ⟨_, _, ⟨same, _⟩, outside⟩ =>
        absurd (same ▸ inside) (Nat.not_lt.mpr outside)
    · rw [dif_neg inside]
      exact iff_of_true rfl ⟨index, value, ⟨rfl, rfl⟩, Nat.le_of_not_lt inside⟩
  | _ => exact iff_of_false nofun nofun

/-! ### The lowest key held -/

/-- The byte that is the number of a key. -/
def keyOf (number : Fin size) : UInt8 := UInt8.ofNat number.val

theorem toNat_keyOf (number : Fin size) : (keyOf number).toNat = number.val :=
  UInt8.toNat_ofNat_of_lt' (Nat.lt_trans number.isLt (by decide))

theorem slot_keyOf (number : Fin size) : slot (keyOf number) = number := by
  refine Fin.ext ?_
  show (keyOf number).toNat % 16 = number.val
  rw [toNat_keyOf]
  exact Nat.mod_eq_of_lt number.isLt

theorem isHeld_eq_true_iff {key : UInt8} :
    keypad.isHeld key = true ↔ keypad.keys.get (slot key) ≠ 0 := by
  rw [isHeld, bne_iff_ne]
  rfl

theorem isHeld_eq_false_iff {key : UInt8} :
    keypad.isHeld key = false ↔ keypad.keys.get (slot key) = 0 := by
  rw [isHeld, bne_eq_false_iff_eq]
  rfl

/-- **The lowest key held** is held, and none below it is. -/
theorem lowestHeld?_eq_some_iff :
    keypad.lowestHeld? = some number ↔
      keypad.keys[number] ≠ 0 ∧ ∀ other < number, keypad.keys[other] = 0 := by
  rw [lowestHeld?, findFinIdx?_eq_some_iff]
  simp only [bne_iff_ne, bne_eq_false_iff_eq]
  rfl

theorem lowestHeld?_eq_none_iff :
    keypad.lowestHeld? = none ↔ ∀ number : Fin size, keypad.keys[number] = 0 := by
  simp only [lowestHeld?, Vector.findFinIdx?_eq_none_iff, bne_iff_ne, ne_eq, Classical.not_not,
    Vector.mem_iff_getElem]
  constructor
  · exact fun zero number => zero _ ⟨number.val, number.isLt, rfl⟩
  · rintro zero value ⟨number, inside, rfl⟩
    exact zero ⟨number, inside⟩

/-- **The lowest key held, among all bytes.** A byte above fifteen is never told, though it may name
a key that is held: its low four bits are a lower byte for the same key. -/
theorem lowestHeld?_eq_key_iff {key : UInt8} :
    keypad.lowestHeld?.map Fin.val = some key.toNat ↔
      keypad.isHeld key = true ∧ ∀ other < key, keypad.isHeld other = false := by
  simp only [isHeld_eq_true_iff, isHeld_eq_false_iff, Option.map_eq_some_iff,
    lowestHeld?_eq_some_iff, UInt8.lt_iff_toNat_lt]
  constructor
  · rintro ⟨number, ⟨held, lowest⟩, told⟩
    have same : slot key = number := by
      rw [← slot_keyOf number, ← UInt8.toNat_inj.mp ((toNat_keyOf number).trans told)]
    refine ⟨same ▸ held, fun other below => lowest (slot other) ?_⟩
    -- a byte below sixteen is the number of the key that it names
    have reduced : other.toNat % 16 ≤ other.toNat := Nat.mod_le _ _
    show other.toNat % 16 < number.val
    omega
  · rintro ⟨held, lowest⟩
    have small : key.toNat < 16 := by
      refine Nat.lt_of_not_le fun large => held ?_
      have lower : (keyOf (slot key)).toNat < key.toNat := by
        rw [toNat_keyOf]
        show key.toNat % 16 < key.toNat
        omega
      simpa only [slot_keyOf] using lowest _ lower
    have same : slot key = ⟨key.toNat, small⟩ := Fin.ext (Nat.mod_eq_of_lt small)
    refine ⟨⟨key.toNat, small⟩, ⟨same ▸ held, fun other below => ?_⟩, rfl⟩
    have lower : (keyOf other).toNat < key.toNat := by
      rw [toNat_keyOf]
      exact below
    have released := lowest _ lower
    rw [slot_keyOf] at released
    exact released

/-- **The keypad is a set of keys.** No edit of a run faults, and the one request that faults is to
store a byte for a key that there is not; the low four bits of a byte always name a key. A key is
held as the last edit that is about it left it: if that pressed it or stored a byte for it that is
not zero. If no edit is about it, it is held as it was at the start. Pressing or releasing a key
leaves the bytes of all others. The lowest key held is the one that is held with none held below
it, and there is none exactly if no key is held. -/
theorem editAll_set_of_keys (keypad : Keypad) (edits : List Edit) (input : ScriptedInput) :
    let after := keypad.editAll edits
    Controls.serveAll ⟨keypad, input⟩ (edits.map Edit.request) =
      (edits.map fun _ => .done, ⟨after, input⟩) ∧
    (∀ request, (Controls.serve ⟨after, input⟩ request).1 = .fault ↔
      ∃ index value, request = .put index value ∧ 16 ≤ index) ∧
    (∀ key : UInt8, (slot key).val = key.toNat % 16 ∧
      after.put? (key &&& 0x0f).toNat 1 = some (after.press key) ∧
      after.put? (key &&& 0x0f).toNat 0 = some (after.release key) ∧
      after.keys[(key &&& 0x0f).toNat]?.map (· != 0) = some (after.isHeld key)) ∧
    (∀ key earlier edit later, edits = earlier ++ edit :: later → edit.Touches (slot key) →
      (∀ other ∈ later, ¬ other.Touches (slot key)) → after.isHeld key = (edit.byte != 0)) ∧
    (∀ key, (∀ edit ∈ edits, ¬ edit.Touches (slot key)) →
      after.isHeld key = (keypad.keys.get (slot key) != 0)) ∧
    (∀ key number, number ≠ slot key →
      (after.press key).keys[number] = after.keys[number] ∧
      (after.release key).keys[number] = after.keys[number]) ∧
    (∀ key : UInt8, after.lowestHeld?.map Fin.val = some key.toNat ↔
      after.isHeld key = true ∧ ∀ other < key, after.isHeld other = false) ∧
    (after.lowestHeld? = none ↔ ∀ key, after.isHeld key = false) := by
  intro after
  refine ⟨keypad.serveAll_edits input edits, after.serve_fault_iff input, fun key => ?_,
    fun key earlier edit later split touches apart => ?_, fun key apart => ?_,
    fun key number other => ⟨?_, ?_⟩, fun key => after.lowestHeld?_eq_key_iff, ?_⟩
  · exact ⟨rfl, after.put?_mask key 1, after.put?_mask key 0, after.isHeld_mask key⟩
  · rw [isHeld, keypad.getElem_editAll_of_last split touches apart]
  · rw [isHeld, keypad.getElem_editAll_of_apart apart]
    rfl
  · have apart : ¬ (Edit.press key).Touches number := other.symm
    exact (after.getElem_edit (.press key) number).trans (if_neg apart)
  · have apart : ¬ (Edit.release key).Touches number := other.symm
    exact (after.getElem_edit (.release key) number).trans (if_neg apart)
  · rw [lowestHeld?_eq_none_iff]
    constructor
    · exact fun zero key => after.isHeld_eq_false_iff.mpr (zero (slot key))
    · intro released number
      have zero := after.isHeld_eq_false_iff.mp (released (keyOf number))
      rw [slot_keyOf] at zero
      exact zero

/-- A key pressed and released by other names of it, a byte that is not one stored for a key, and a
key held from the start. -/
theorem editAll_set_of_keys_by_other_names :
    let keypad : Keypad := ⟨#v[0, 0, 0, 0, 0, 0xff, 0, 0, 0, 0, 0, 0, 0, 0, 0, 0]⟩
    let after := keypad.editAll [.press 0x1a, .put (slot 3) 0x80, .release 0x2a]
    after.isHeld 0xfa = false ∧ after.isHeld 0x53 = true ∧ after.isHeld 0x05 = true ∧
    (after.press 0x15).keys[slot 3] = after.keys[slot 3] ∧
    after.lowestHeld?.map Fin.val = some 3 := by
  intro keypad after
  obtain ⟨-, -, -, last, first, frame, lowest, -⟩ :=
    keypad.editAll_set_of_keys [.press 0x1a, .put (slot 3) 0x80, .release 0x2a] ⟨[]⟩
  have third : after.isHeld 0x53 = true :=
    last 0x53 [.press 0x1a] (.put (slot 3) 0x80) [.release 0x2a] rfl (by decide) (by decide)
  refine ⟨?_, third, first 0x05 (by decide), (frame 0x15 (slot 3) (by decide)).1, ?_⟩
  · exact last 0xfa [.press 0x1a, .put (slot 3) 0x80] (.release 0x2a) [] rfl (by decide) (by decide)
  · refine (lowest 3).mpr ⟨third, fun other below => ?_⟩
    have few : other = 0 ∨ other = 1 ∨ other = 2 := by
      rw [UInt8.lt_iff_toNat_lt] at below
      simp only [← UInt8.toNat_inj]
      exact (by omega : ∀ n < 3, n = 0 ∨ n = 1 ∨ n = 2) other.toNat below
    obtain rfl | rfl | rfl := few
    · exact first 0 (by decide)
    · exact first 1 (by decide)
    · exact first 2 (by decide)

end Keypad

end Cosmac
