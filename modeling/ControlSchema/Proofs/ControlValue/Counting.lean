import ControlSchema.Proofs.ControlValue.Grid
import ControlSchema.Proofs.Text.Bytes

/-!
# What counts as an element

A value says how many elements it stores, an array is asked for by its length,
and a list takes whatever there is. For values of elements the three agree on
what an element is. A text they read in two ways: it is stored and listed as the
bytes of its encoding, but measured and taken apart as characters.
-/

namespace ControlSchema

namespace ControlValue

/-- An array is given for the number of stored elements and for no other. -/
def CountsArray (value : ControlValue) : Prop :=
  ∀ n : Int, (∃ x, value.toArray value.kind n = .ok x) ↔ n = value.elementCount

/-- What is given as an array is what is given as a list. -/
def ListsArray (value : ControlValue) : Prop :=
  ∀ (n : Int) (x : Datum), value.toArray value.kind n = .ok x →
    ∃ items, value.toList value.kind = .ok (.list items) ∧ x = .tuple items

/-! ## Arrays and lists -/

theorem toArray_own_kind (value : ControlValue) (n : Int) :
    value.toArray value.kind n
      = if n = value.items.length then .ok (.tuple value.items)
        else .error (.invalidLength n value.items.length) := by
  have hcheck : value.checkKind value.kind = .ok () := if_pos rfl
  rw [toArray, hcheck]
  show (value.exactly n >>= _) = _
  by_cases h : n = value.items.length
  · rw [if_pos h, exactly, if_pos h.symm]
    rfl
  · rw [if_neg h, exactly, if_neg (Ne.symm h)]
    rfl

theorem exists_toArray_iff (value : ControlValue) (n : Int) :
    (∃ x, value.toArray value.kind n = .ok x) ↔ n = value.items.length := by
  rw [toArray_own_kind]
  by_cases h : n = value.items.length
  · rw [if_pos h]
    exact iff_of_true ⟨_, rfl⟩ h
  · rw [if_neg h]
    refine iff_of_false ?_ h
    rintro ⟨_, ⟨⟩⟩

theorem toList_of_ne_string {value : ControlValue} (h : value.kind ≠ .string) :
    value.toList value.kind = .ok (.list value.items) := by
  have hcheck : value.checkKind value.kind = .ok () := if_pos rfl
  cases value with
  | string text => exact absurd rfl h
  | none => rfl
  | array kind elements => simp only [toList, hcheck, bind, Except.bind, pure, Except.pure]

/-- The bytes of a text as they are listed. -/
def byteItems (text : String) : List Datum := text.toUTF8.toList.map fun b => .int b.toNat

theorem toList_string (text : String) :
    (ControlValue.string text).toList (.known .string) = .ok (.list (byteItems text)) := rfl

theorem length_byteItems (text : String) :
    (byteItems text).length = (ControlValue.string text).elementCount := by
  rw [byteItems, List.length_map, Text.length_toUTF8]
  rfl

theorem length_items_string (text : String) :
    (ControlValue.string text).items.length = text.length := by
  rw [items, List.length_map, String.length_toList]

/-! ## Values that are counted alike -/

theorem countsArray_iff (value : ControlValue) :
    CountsArray value ↔ value.items.length = value.elementCount := by
  constructor
  · intro h
    have hown := (exists_toArray_iff value value.items.length).2 rfl
    exact Int.ofNat.inj ((h value.items.length).1 hown)
  · intro h n
    rw [exists_toArray_iff, h]

theorem countsArray_string_iff (text : String) :
    CountsArray (.string text) ↔ ∀ c ∈ text.toList, c.toNat < 128 := by
  rw [countsArray_iff, length_items_string, ← Text.utf8ByteSize_eq_length_iff]
  exact eq_comm

/-- Characters are no bytes, so only a text without any is listed as it is taken apart. -/
theorem listsArray_string_iff (text : String) : ListsArray (.string text) ↔ text = "" := by
  constructor
  · intro h
    obtain ⟨x, hx⟩ := (exists_toArray_iff (.string text) _).2 rfl
    obtain ⟨listed, hlist, rfl⟩ := h _ x hx
    have hlisted : byteItems text = listed := by
      cases (toList_string text).symm.trans hlist
      rfl
    have hitems : (ControlValue.string text).items = listed := by
      rw [toArray_own_kind, if_pos rfl] at hx
      cases hx
      rfl
    rw [← hlisted, items, byteItems] at hitems
    cases hchars : text.toList with
    | nil => exact String.toList_eq_nil_iff.1 hchars
    | cons c cs =>
      rw [hchars, List.map_cons] at hitems
      generalize text.toUTF8.toList = bytes at hitems
      cases bytes <;> cases hitems
  · rintro rfl n x hx
    have hnone : byteItems "" = [] := List.length_eq_zero_iff.1 (length_byteItems "")
    rw [toArray_own_kind] at hx
    split at hx
    · cases hx
      exact ⟨[], (toList_string "").trans (by rw [hnone]), rfl⟩
    · cases hx

theorem countsArray_of_ne_string {value : ControlValue} (h : value.kind ≠ .string) :
    CountsArray value := (countsArray_iff value).2 (length_items h)

theorem listsArray_of_ne_string {value : ControlValue} (h : value.kind ≠ .string) :
    ListsArray value := by
  intro n x hx
  rw [toArray_own_kind] at hx
  split at hx
  · cases hx
    exact ⟨_, toList_of_ne_string h, rfl⟩
  · cases hx

/-- Arrays are given for the stored number of elements unless a text has characters of more than
one byte, and they hold what is listed unless a text has characters at all. A text is given as an
array of its characters for their number, and as a list of its bytes, which are what is counted. -/
theorem toArray_agrees_iff (value : ControlValue) :
    (CountsArray value ↔ ∀ text, value = .string text → ∀ c ∈ text.toList, c.toNat < 128) ∧
    (ListsArray value ↔ ∀ text, value = .string text → text = "") ∧
    ∀ text, value = .string text →
      (∀ n : Int, value.toArray value.kind n
        = if n = text.length then .ok (.tuple (text.toList.map fun c => .text c.toString))
          else .error (.invalidLength n text.length)) ∧
      value.toList value.kind = .ok (.list (byteItems text)) ∧
      (byteItems text).length = value.elementCount := by
  by_cases hvalue : ∃ text, value = .string text
  · obtain ⟨text, rfl⟩ := hvalue
    simp only [string.injEq, forall_eq']
    refine ⟨countsArray_string_iff text, listsArray_string_iff text, fun n => ?_,
      toList_string text, length_byteItems text⟩
    rw [toArray_own_kind, length_items_string]
    rfl
  · have hother : ∀ text, value ≠ .string text := not_exists.1 hvalue
    have hkind : value.kind ≠ .string := by
      cases value with
      | string text => exact absurd rfl (hother text)
      | none =>
        intro h
        cases h
      | array kind elements =>
        intro h
        cases kind <;> cases h
    exact ⟨iff_of_true (countsArray_of_ne_string hkind) fun t ht => absurd ht (hother t),
      iff_of_true (listsArray_of_ne_string hkind) fun t ht => absurd ht (hother t),
      fun t ht => absurd ht (hother t)⟩

/-- A letter with an accent is stored as two elements and taken apart as one, which is not an
element that is listed. -/
theorem toArray_disagrees_accent :
    (ControlValue.string "é").elementCount = 2 ∧
    (ControlValue.string "é").toArray (.known .string) 2 = .error (.invalidLength 2 1) ∧
    (ControlValue.string "é").toArray (.known .string) 1 = .ok (.tuple [.text "é"]) ∧
    (ControlValue.string "é").toList (.known .string) = .ok (.list [.int 0xC3, .int 0xA9]) ∧
    ¬ CountsArray (.string "é") ∧ ¬ ListsArray (.string "é") := by
  have hbytes : byteItems "é" = [.int 0xC3, .int 0xA9] := by
    rw [byteItems, Text.toList_eq_toList_data]
    rfl
  refine ⟨rfl, rfl, rfl, (toList_string "é").trans (by rw [hbytes]), ?_, ?_⟩
  · rw [countsArray_iff]
    decide
  · rw [listsArray_string_iff]
    decide

end ControlValue

end ControlSchema
