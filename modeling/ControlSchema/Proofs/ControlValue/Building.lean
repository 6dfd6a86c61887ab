import ControlSchema.Proofs.ControlValue.Extraction
import ControlSchema.Proofs.Number.Overflow

/-!
# Errors of building

Building a value is documented to raise errors of three classes: about an
unknown tag, about data of a wrong type, and about data out of range. An error
of another class escapes a caller who is prepared for these.

Elements are checked one after another, and so are the fields of a record. The
first that is refused decides, so an error escapes where that one is of a
special sort. There are two sorts. An integer may be beyond all floating-point
numbers, which is met in the conversion and not by a check. And an integer may
be out of range as expected but have more digits than are ever written, so that
the error about it cannot be made up.
-/

namespace ControlSchema

open Number

/-! ## Escaping errors -/

/-- The classes that callers who build values are prepared for. -/
def ErrorClass.IsDocumented (c : ErrorClass) : Prop :=
  c = .unknownType ∨ c = .wrongType ∨ c = .invalidData

instance (c : ErrorClass) : Decidable c.IsDocumented :=
  inferInstanceAs (Decidable (_ ∨ _ ∨ _))

/-- What is raised is of a class that callers are not prepared for. -/
def Escapes {α : Type} (c : ErrorClass) (found : Except ValueError α) : Prop :=
  ¬ c.IsDocumented ∧ ∃ e, found = .error e ∧ e.errorClass = c

/-- The first item that does not pass is one that trips. -/
def Stumbles {α : Type} (passes trips : α → Prop) (items : List α) : Prop :=
  ∃ before item after, items = before ++ item :: after ∧ (∀ x ∈ before, passes x) ∧ trips item

section

variable {α β : Type} {passes trips : α → Prop} {c : ErrorClass}

theorem not_stumbles_nil : ¬ Stumbles passes trips [] := by
  rintro ⟨before, item, after, h, -⟩
  cases before <;> cases h

theorem stumbles_cons (x : α) (items : List α) :
    Stumbles passes trips (x :: items) ↔
      trips x ∨ passes x ∧ Stumbles passes trips items := by
  constructor
  · rintro ⟨before, item, after, h, hbefore, hitem⟩
    cases before with
    | nil =>
      cases h
      exact .inl hitem
    | cons y before =>
      cases h
      obtain ⟨hx, hbefore⟩ := List.forall_mem_cons.1 hbefore
      exact .inr ⟨hx, before, item, after, rfl, hbefore, hitem⟩
  · rintro (hx | ⟨hx, before, item, after, rfl, hbefore, hitem⟩)
    · exact ⟨[], x, items, rfl, List.forall_mem_nil _, hx⟩
    · exact ⟨x :: before, item, after, rfl, List.forall_mem_cons.2 ⟨hx, hbefore⟩, hitem⟩

theorem not_escapes_ok (a : α) : ¬ Escapes c (.ok a) := by
  rintro ⟨-, e, h, -⟩
  cases h

theorem escapes_error (e : ValueError) :
    Escapes c (.error e : Except ValueError α) ↔ ¬ c.IsDocumented ∧ e.errorClass = c := by
  simp only [Escapes, Except.error.injEq, exists_eq_left']

theorem escapes_bind (x : Except ValueError α) (f : α → Except ValueError β) :
    Escapes c (x >>= f) ↔ Escapes c x ∨ ∃ a, x = .ok a ∧ Escapes c (f a) := by
  cases x with
  | ok a =>
    show Escapes c (f a) ↔ _
    simp only [not_escapes_ok, false_or, Except.ok.injEq, exists_eq_left']
  | error e =>
    show Escapes c (.error e : Except ValueError β) ↔ _
    simp only [escapes_error, reduceCtorEq, false_and, exists_false, or_false]

/-- What escapes from a sequence is raised for the first item that fails. -/
theorem escapes_mapM (f : α → Except ValueError β) (items : List α) :
    Escapes c (items.mapM f) ↔
      Stumbles (fun x => ∃ y, f x = .ok y) (fun x => Escapes c (f x)) items := by
  induction items with
  | nil => exact iff_of_false (not_escapes_ok []) not_stumbles_nil
  | cons x items ih =>
    have hrest (y : β) :
        Escapes c (do return y :: (← items.mapM f)) ↔ Escapes c (items.mapM f) := by
      rw [escapes_bind]
      refine or_iff_left ?_
      rintro ⟨ys, -, h⟩
      exact not_escapes_ok _ h
    rw [List.mapM_cons, escapes_bind, stumbles_cons, ← ih]
    simp only [hrest, ← exists_and_right]

end

/-! ## Integers in messages -/

section

variable {α : Type} {c : ErrorClass}

theorem not_escapes_of_isDocumented {e : ValueError} (h : e.errorClass.IsDocumented) :
    ¬ Escapes c (.error e : Except ValueError α) := by
  rw [escapes_error]
  rintro ⟨hc, rfl⟩
  exact hc h

theorem escapes_of_not_isDocumented {e : ValueError} (h : ¬ e.errorClass.IsDocumented) :
    Escapes c (.error e : Except ValueError α) ↔ c = e.errorClass := by
  rw [escapes_error, and_iff_right_of_imp]
  · exact eq_comm
  · rintro rfl
    exact h

theorem not_escapes_wrongType (fault : TypeFault) :
    ¬ Escapes c (.error (.wrongType fault) : Except ValueError α) :=
  not_escapes_of_isDocumented (.inr (.inl rfl))

/-- An error of a documented class with one integer in its message escapes when that is too long. -/
theorem escapes_of_numbers {e : ValueError} {n : Int} (hnumbers : e.numbers = [n])
    (hclass : e.isWritable = true → e.errorClass.IsDocumented) :
    Escapes c (.error e : Except ValueError α) ↔ c = .badValue ∧ (Datum.int n).IsLong := by
  have hwritable : e.isWritable = Number.isWritable n := by
    rw [ValueError.isWritable, hnumbers, List.all_cons, List.all_nil, Bool.and_true]
  rw [isLong_int_iff, ← hwritable]
  by_cases h : e.isWritable = true
  · exact iff_of_false (not_escapes_of_isDocumented (hclass h)) fun hlong => hlong.2 h
  · -- what is raised is about the integer, and not the error that was meant
    have hbad := ValueError.errorClass_of_not_isWritable h
    rw [escapes_of_not_isDocumented (by rw [hbad]; decide), hbad, and_iff_left h]

theorem escapes_unknownType (tag : Int) :
    Escapes c (.error (.unknownType tag) : Except ValueError α) ↔
      c = .badValue ∧ (Datum.int tag).IsLong :=
  escapes_of_numbers rfl fun h => .inl (if_pos h)

theorem escapes_invalidData {fault : DataFault} {n : Int} (h : fault.numbers = [n]) :
    Escapes c (.error (.invalidData fault) : Except ValueError α) ↔
      c = .badValue ∧ (Datum.int n).IsLong :=
  escapes_of_numbers h fun h => .inr (.inr (if_pos h))

end

/-! ## Integers with bounds -/

/-- A datum that is read as an integer between bounds. -/
def Datum.IsWithin (low high : Int) (d : Datum) : Prop := ∃ n : Ranged low high, d = .int n.val

namespace ElementKind

/-- A field of a record, with the bounds that it is checked against. -/
structure Field where
  low : Int
  high : Int
  found : Datum

/-- The first of the fields that is refused is too long. -/
def FieldsTrip (fields : List Field) : Prop :=
  Stumbles (fun f => f.found.IsWithin f.low f.high) (fun f => f.found.IsLong) fields

section

variable {low high : Int} (hlow : -10 ^ 20 ≤ low) (hhigh : high ≤ 10 ^ 20) {c : ErrorClass}
include hlow hhigh

/-- All bounds are far below the integers that are too long. -/
theorem not_isLong_of_isWithin {d : Datum} (h : d.IsWithin low high) : ¬ d.IsLong := by
  obtain ⟨n, rfl⟩ := h
  rintro ⟨m, heq, hlong⟩
  have hlarge : 10 ^ 21 ≤ m.natAbs := (Nat.pow_le_pow_right (by decide) (by decide)).trans hlong
  have hle := n.low_le
  have hge := n.le_high
  rw [Datum.int.inj heq] at hle hge
  omega

theorem escapes_ofInt? {n : Int} {fault : DataFault} (hfault : fault.numbers = [n]) :
    Escapes c (match Ranged.ofInt? low high n with
      | some element => .ok element
      | none => .error (.invalidData fault)) ↔ c = .badValue ∧ (Datum.int n).IsLong := by
  by_cases h : low ≤ n ∧ n ≤ high
  · have hwithin : (Datum.int n).IsWithin low high := ⟨⟨n, h.1, h.2⟩, rfl⟩
    rw [Ranged.ofInt?, dif_pos h]
    exact iff_of_false (not_escapes_ok _) fun hlong =>
      not_isLong_of_isWithin hlow hhigh hwithin hlong.2
  · rw [Ranged.ofInt?, dif_neg h]
    exact escapes_invalidData hfault

theorem escapes_readInt (kind : ControlKind) (d : Datum) :
    Escapes c (readInt kind low high d) ↔ c = .badValue ∧ d.IsLong := by
  by_cases hint : ∃ n, d = .int n
  · obtain ⟨n, rfl⟩ := hint
    exact escapes_ofInt? hlow hhigh rfl
  · rw [readInt]
    · exact iff_of_false (not_escapes_wrongType _) fun h => hint h.2.exists_int
    · exact not_exists.1 hint

theorem escapes_readField (kind : ControlKind) (name : String) (d : Datum) :
    Escapes c (readField kind name low high d) ↔ c = .badValue ∧ d.IsLong := by
  by_cases hint : ∃ n, d = .int n
  · obtain ⟨n, rfl⟩ := hint
    exact escapes_ofInt? hlow hhigh rfl
  · rw [readField]
    · exact iff_of_false (not_escapes_wrongType _) fun h => hint h.2.exists_int
    · exact not_exists.1 hint

omit hlow hhigh in
theorem exists_readField_iff (kind : ControlKind) (name : String) (d : Datum) :
    (∃ n, readField kind name low high d = .ok n) ↔ d.IsWithin low high := by
  constructor
  · rintro ⟨found, h⟩
    unfold readField at h
    split at h
    · split at h
      · next hn =>
        obtain ⟨hbounds, -⟩ := Option.dite_none_right_eq_some.1 hn
        exact ⟨⟨_, hbounds.1, hbounds.2⟩, rfl⟩
      · cases h
    · cases h
  · rintro ⟨n, rfl⟩
    exact ⟨n, by rw [readField, Ranged.ofInt?, dif_pos ⟨n.low_le, n.le_high⟩]⟩

/-- The fields of a record, one by one. -/
theorem escapes_readField_bind {β : Type} (kind : ControlKind) (name : String) (d : Datum)
    {rest : Ranged low high → Except ValueError β} {fields : List Field}
    (hrest : ∀ n, Escapes c (rest n) ↔ c = .badValue ∧ FieldsTrip fields) :
    Escapes c (readField kind name low high d >>= rest) ↔
      c = .badValue ∧ FieldsTrip (⟨low, high, d⟩ :: fields) := by
  rw [FieldsTrip, stumbles_cons, ← exists_readField_iff kind name, escapes_bind,
    escapes_readField hlow hhigh]
  simp only [hrest, exists_and_right, and_or_left]
  exact or_congr_right and_left_comm

end

/-! ## Elements -/

/-- The fields of a record, in the order in which they are checked. -/
def fields : ElementKind → Datum → List Field
  | .rectangle, .rectangle x y width height =>
    [⟨-2 ^ 31, 2 ^ 31 - 1, x⟩, ⟨-2 ^ 31, 2 ^ 31 - 1, y⟩, ⟨0, 2 ^ 32 - 1, width⟩,
      ⟨0, 2 ^ 32 - 1, height⟩]
  | .size, .size width height => [⟨0, 2 ^ 32 - 1, width⟩, ⟨0, 2 ^ 32 - 1, height⟩]
  | .point, .point x y => [⟨-2 ^ 31, 2 ^ 31 - 1, x⟩, ⟨-2 ^ 31, 2 ^ 31 - 1, y⟩]
  | _, _ => []

/-- The data that are refused as elements in a way that escapes, by the class of what is raised. -/
def Trips (kind : ElementKind) (c : ErrorClass) (d : Datum) : Prop :=
  match kind with
  | .bool => False
  | .byte | .int32 | .int64 => c = .badValue ∧ d.IsLong
  | .float => c = .overflow ∧ ∃ n, d = .int n ∧ 2 ^ 1024 - 2 ^ 970 ≤ n.natAbs
  | .rectangle | .size | .point => c = .badValue ∧ FieldsTrip (kind.fields d)

variable {c : ErrorClass}

theorem escapes_readFloat (d : Datum) : Escapes c (readFloat d) ↔ ElementKind.float.Trips c d := by
  unfold readFloat
  split
  · refine iff_of_false (not_escapes_ok _) ?_
    rintro ⟨-, n, h, -⟩
    cases h
  · next n =>
    have hbeyond := Binary.ofInt?_double_eq_none_iff n
    cases hfound : Binary.ofInt? .double n with
    | some x =>
      rw [hfound] at hbeyond
      refine iff_of_false (not_escapes_ok _) ?_
      rintro ⟨-, m, heq, hlarge⟩
      cases heq
      cases hbeyond.2 hlarge
    | none =>
      refine (escapes_of_not_isDocumented (by decide)).trans (and_iff_left ?_).symm
      exact ⟨n, rfl, hbeyond.1 hfound⟩
  · next hint =>
    refine iff_of_false (not_escapes_wrongType _) ?_
    rintro ⟨-, n, h, -⟩
    exact hint n h

theorem escapes_ofDatum (kind : ElementKind) (d : Datum) :
    Escapes c (kind.ofDatum d) ↔ kind.Trips c d := by
  have hend {α : Type} {found : Except ValueError α} (h : ¬ Escapes c found) :
      Escapes c found ↔ c = .badValue ∧ FieldsTrip [] :=
    iff_of_false h fun htrip => not_stumbles_nil htrip.2
  cases kind with
  | bool =>
    cases d with
    | bool b => exact iff_of_false (not_escapes_ok _) id
    | _ => exact iff_of_false (not_escapes_wrongType _) id
  | byte => exact escapes_readInt (by decide) (by decide) .byte d
  | int32 => exact escapes_readInt (by decide) (by decide) .int32 d
  | int64 => exact escapes_readInt (by decide) (by decide) .int64 d
  | float => exact escapes_readFloat d
  | rectangle =>
    cases d with
    | rectangle x y width height =>
      -- one field after another, until the record is made up
      repeat refine escapes_readField_bind (by decide) (by decide) _ _ _ fun _ => ?_
      exact hend (not_escapes_ok _)
    | _ => exact hend (not_escapes_wrongType _)
  | size =>
    cases d with
    | size width height =>
      repeat refine escapes_readField_bind (by decide) (by decide) _ _ _ fun _ => ?_
      exact hend (not_escapes_ok _)
    | _ => exact hend (not_escapes_wrongType _)
  | point =>
    cases d with
    | point x y =>
      repeat refine escapes_readField_bind (by decide) (by decide) _ _ _ fun _ => ?_
      exact hend (not_escapes_ok _)
    | _ => exact hend (not_escapes_wrongType _)

/-- The first of the data that is refused as an element trips. -/
def StumblesAmong (kind : ElementKind) (c : ErrorClass) (items : List Datum) : Prop :=
  Stumbles (fun d => ∃ e, kind.ofDatum d = .ok e) (kind.Trips c) items

end ElementKind

/-! ## Values -/

/-- The items that data are walked through for. Texts and bytes are not taken for their items. -/
def Datum.elements? : Datum → Option (List Datum)
  | .text _ | .bytes _ => none
  | d => d.items?

namespace ControlValue

variable {c : ErrorClass}

theorem escapes_ofElements (kind : ElementKind) (items : List Datum) :
    Escapes c (ofElements kind items) ↔ kind.StumblesAmong c items := by
  rw [ofElements, escapes_bind, escapes_mapM, ElementKind.StumblesAmong]
  simp only [ElementKind.escapes_ofDatum]
  refine or_iff_left ?_
  rintro ⟨elements, -, h⟩
  exact not_escapes_ok _ h

theorem escapes_ofItems (kind : ControlKind) (items : List Datum) :
    Escapes c (ofItems kind items) ↔
      ∃ element : ElementKind, kind.element? = some element ∧ element.StumblesAmong c items := by
  rw [ofItems]
  cases kind.element? with
  | some element =>
    refine (escapes_ofElements element items).trans ⟨fun h => ⟨element, rfl, h⟩, ?_⟩
    rintro ⟨_, ⟨⟩, h⟩
    exact h
  | none =>
    have hnone : ¬ Escapes c (if items.isEmpty then Except.ok ControlValue.none
        else .error (.invalidData .noneHoldsElements)) := by
      split
      · exact not_escapes_ok _
      · exact not_escapes_of_isDocumented (by decide)
    refine iff_of_false hnone ?_
    rintro ⟨element, h, -⟩
    cases h

theorem not_stumbles_of_none {kind : ControlKind} {data : Datum}
    (h : kind.element? = none ∨ data.elements? = none) :
    ¬ ∃ (element : ElementKind) (items : List Datum), kind.element? = some element ∧
      data.elements? = some items ∧ element.StumblesAmong c items := by
  rintro ⟨element, items, hkind, hdata, -⟩
  rcases h with h | h
  · cases h.symm.trans hkind
  · cases h.symm.trans hdata

theorem escapes_build (kind : ControlKind) (data : Datum) :
    Escapes c (build kind data) ↔
      ∃ (element : ElementKind) (items : List Datum), kind.element? = some element ∧
        data.elements? = some items ∧ element.StumblesAmong c items := by
  unfold build
  split
  · exact iff_of_false (not_escapes_ok _) (not_stumbles_of_none (.inl rfl))
  · exact iff_of_false (not_escapes_wrongType _) (not_stumbles_of_none (.inl rfl))
  · exact iff_of_false (not_escapes_wrongType _) (not_stumbles_of_none (.inr rfl))
  · exact iff_of_false (not_escapes_wrongType _) (not_stumbles_of_none (.inr rfl))
  · next htext hbytes _ =>
    have helements : data.elements? = data.items? := by
      rw [Datum.elements?]
      · exact htext
      · exact hbytes
    split
    · next items hitems =>
      rw [escapes_ofItems, helements, hitems]
      simp only [Option.some.injEq, exists_and_left, exists_eq_left']
    · next hitems =>
      exact iff_of_false (not_escapes_wrongType _)
        (not_stumbles_of_none (.inr (helements.trans hitems)))

/-- The tags of kinds are short. -/
theorem not_isLong_of_ofTag? {tag : Int} {kind : ControlKind}
    (h : ControlKind.ofTag? tag = some kind) : ¬ (Datum.int tag).IsLong := by
  have htag : ¬ ControlKind.ofTag? tag = none := Option.ne_none_iff_exists'.2 ⟨kind, h⟩
  obtain ⟨hlow, hhigh⟩ := not_not.1 (mt ControlKind.ofTag?_eq_none_iff.2 htag)
  have hwithin : (Datum.int tag).IsWithin 0 9 := ⟨⟨tag, hlow, hhigh⟩, rfl⟩
  exact ElementKind.not_isLong_of_isWithin (by decide) (by decide) hwithin

theorem element?_eq_some_iff {kind : ControlKind} {element : ElementKind} :
    kind.element? = some element ↔ kind = element.kind := by
  constructor
  · exact fun h => (ControlKind.kind_of_element?_eq_some h).symm
  · rintro rfl
    exact element.element?_kind

theorem escapes_construct (request : KindRequest) (data : Datum) :
    Escapes c (construct request data) ↔
      (c = .badValue ∧ ∃ tag, request = .byTag tag ∧ (Datum.int tag).IsLong) ∨
      ∃ (kind : ElementKind) (items : List Datum), request.resolve? = some kind.kind ∧
        data.elements? = some items ∧ kind.StumblesAmong c items := by
  cases hresolve : request.resolve? with
  | some kind =>
    have hconstruct : construct request data = build kind data := by
      simp only [construct, hresolve]
    have hshort : ¬ ∃ tag, request = .byTag tag ∧ (Datum.int tag).IsLong := by
      rintro ⟨tag, rfl, hlong⟩
      exact not_isLong_of_ofTag? hresolve hlong
    rw [hconstruct, escapes_build]
    simp only [hshort, and_false, false_or, element?_eq_some_iff, Option.some.injEq]
  | none =>
    simp only [reduceCtorEq, false_and, exists_false, or_false]
    cases request with
    | known kind => cases hresolve
    | byTag tag =>
      have hconstruct : construct (.byTag tag) data = .error (.unknownType tag) := by
        simp only [construct, hresolve]
      rw [hconstruct, escapes_unknownType]
      simp only [KindRequest.byTag.injEq, exists_eq_left']

theorem escapes_of (request : KindRequest) (data : Datum) :
    Escapes c (of request data) ↔
      (c = .badValue ∧ request.resolve? = none) ∨
      ∃ kind : ElementKind, request.resolve? = some kind.kind ∧
        kind.StumblesAmong c data.flatten := by
  unfold of
  cases request.resolve? with
  | none =>
    simp only [reduceCtorEq, false_and, exists_false, or_false, and_true]
    exact escapes_of_not_isDocumented (by decide)
  | some kind =>
    simp only [reduceCtorEq, and_false, false_or, Option.some.injEq, ← element?_eq_some_iff]
    split
    · next h => cases h
    · next h =>
      cases h
      simp only [escapes_build, ControlKind.element?, reduceCtorEq, false_and, exists_false]
    · next h =>
      cases h
      simp only [not_escapes_ok, ControlKind.element?, reduceCtorEq, false_and, exists_false]
    · next h =>
      cases h
      rw [escapes_build]
      simp only [Datum.elements?, Datum.items?, Option.some.injEq, exists_and_left,
        exists_eq_left']

/-- Building a value succeeds or raises an error of a documented class but for three sorts of input.
The tag is unknown: that escapes from flattened data, and from a sequence if the tag is too long to
be written. Or the first item that is no element is an integer beyond all floating-point numbers,
or it is one that is too long to be written, by itself or as the first field that is no integer
between its bounds. -/
theorem building_escapes_iff (c : ErrorClass) (request : KindRequest) (data : Datum) :
    (Escapes c (construct request data) ↔
      (c = .badValue ∧ ∃ tag, request = .byTag tag ∧ (Datum.int tag).IsLong) ∨
      ∃ (kind : ElementKind) (items : List Datum), request.resolve? = some kind.kind ∧
        data.elements? = some items ∧ kind.StumblesAmong c items) ∧
    (Escapes c (of request data) ↔
      (c = .badValue ∧ request.resolve? = none) ∨
      ∃ kind : ElementKind, request.resolve? = some kind.kind ∧
        kind.StumblesAmong c data.flatten) :=
  ⟨escapes_construct request data, escapes_of request data⟩

/-- A number of 310 digits is no number of double precision, one of 4301 digits is no byte, and the
tag of no kind is only refused as such by the constructor. -/
theorem building_escapes_numbers :
    Escapes .overflow (of (.known .float) (.int (10 ^ 309))) ∧
    Escapes .badValue (of (.known .byte) (.int (10 ^ digitLimit))) ∧
    of (.byTag 99) (.bool true) = .error .noSuchKind ∧
    Escapes .badValue (of (.byTag 99) (.bool true)) ∧
    construct (.byTag 99) (.tuple [.bool true]) = .error (.unknownType 99) := by
  have hlarge : 2 ^ 1024 - 2 ^ 970 ≤ (10 ^ 309 : Int).natAbs := by decide +kernel
  have hlong : (Datum.int (10 ^ digitLimit)).IsLong :=
    (isLong_int_iff _).2 (Bool.eq_false_iff.1 isWritable_pow_digitLimit)
  refine ⟨?_, ?_, rfl, ⟨by decide, _, rfl, rfl⟩, rfl⟩
  · refine (escapes_of _ _).2 (.inr ⟨.float, rfl, [], _, [], rfl, List.forall_mem_nil _, ?_⟩)
    exact ⟨rfl, _, rfl, hlarge⟩
  · refine (escapes_of _ _).2 (.inr ⟨.byte, rfl, [], _, [], rfl, List.forall_mem_nil _, ?_⟩)
    exact ⟨rfl, hlong⟩

end ControlValue

end ControlSchema
