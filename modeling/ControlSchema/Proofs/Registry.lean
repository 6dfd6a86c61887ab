import ControlSchema.Proofs.ControlValue.Extraction
import ControlSchema.Proofs.Interpreter
import ControlSchema.Readers.Standard

/-!
# What a registry says of a collection

A registry describes the items of a collection, whatever their numbers and
values are. Two facts carry this. A value fits a definition or is refused with
an error that describing expects, and a value that fits comes back from its
entry unchanged.

One item in a collection can stop it all the same. A value with too few or too
many elements is refused in words that have both numbers in them, the one asked
for and the one found. Where one of these is too long to be written, another
error takes the place of the refusal, and describing does not expect that one.

What describing relies on is stated once, as what it means for a registry to
serve some definitions. An interpreter's registry serves its enabled
definitions; that of an imported module answers alike, so it serves them too.

Texts and frames are made apart from each other, each with a description and a
lookup of its own for every item. They agree because the name in a description
is the one that looking up gives: the text is then that of the frame, row by row.
-/

namespace ControlSchema

/-! ## Values that fit -/

/-- The value has the tag and the number of elements that the definition asks
for, and its number is one of the closed set, if there is one. -/
structure Definition.Fits (d : Definition) (value : ControlValue) : Prop where
  descriptor : value.Matches d.descriptor
  declared : ∀ enumerators ∈ d.enumeration, ∃ e ∈ enumerators, value.items = [.int e.value]

theorem ControlValue.items_of_toScalar {value : ControlValue} {kind : ControlKind}
    (hkind : KindRequest.known kind ≠ .known .string) {raw : Datum}
    (h : value.toScalar kind = .ok raw) : value.items = [raw] := by
  have hchecked : value.checkKind kind = .ok () := by
    rw [toScalar.eq_def] at h
    obtain ⟨_, hchecked, -⟩ := Attempt.bind_eq_ok h
    exact hchecked
  rw [toScalar.eq_def] at h
  simp only [hchecked, bind, Except.bind] at h
  cases value with
  | string text =>
    rw [checkKind] at hchecked
    split at hchecked
    · next heq => exact absurd heq hkind
    · cases hchecked
  | none => cases h
  | array element elements =>
    obtain ⟨items, hitems, h⟩ := Attempt.bind_eq_ok h
    rw [exactly] at hitems
    split at hitems
    · next hlength =>
      cases hitems
      obtain ⟨item, hitem⟩ := List.length_eq_one_iff.1 (Int.ofNat.inj hlength)
      rw [hitem] at h ⊢
      cases h
      rfl
    · cases hitems

namespace Definition

variable {d : Definition} {value : ControlValue}

/-- A payload is allowed when its number is declared. -/
theorem allows_iff (haccepted : d.Accepted) {payload : Datum}
    (h : value.extract d.descriptor = .ok payload) : d.allows payload = true ↔
      ∀ enumerators ∈ d.enumeration, ∃ e ∈ enumerators, value.items = [.int e.value] := by
  cases henum : d.enumeration with
  | none =>
    rw [allows, isEnum_of_none henum]
    refine iff_of_true rfl fun _ hmem => ?_
    cases hmem
  | some enumerators =>
    have hsound := check_eq_ok_iff.1 haccepted.check _ henum
    obtain ⟨low, high, hrange, -⟩ := hsound.range
    rw [hsound.extract_eq] at h
    obtain ⟨n, rfl⟩ := ControlValue.int_of_toScalar hrange h
    rw [allows, isEnum_of_enumeration henum, enumerators_of_enumeration henum,
      ControlValue.items_of_toScalar hsound.ne_string h]
    simp only [Bool.not_true, Bool.false_or, List.any_eq_true, Datum.same_int, beq_iff_eq,
      Option.mem_some_iff, forall_eq', List.cons.injEq, Datum.int.injEq, and_true]
    exact exists_congr fun e => and_congr_right fun _ => eq_comm

variable (haccepted : d.Accepted) (hpos : d.shape.IsPositive) (id : Int)
include haccepted hpos

/-- A value that fits becomes an entry, and the entry stands for the value,
unless a number in it is undefined. -/
theorem interpret_of_fits (h : d.Fits value) :
    ∃ entry, d.interpret id value = .ok entry ∧ entry.id = id ∧
      (value.Defined → entry.value = .ok value) := by
  obtain ⟨payload, hpayload, hpack⟩ := ControlValue.extract_of_matches hpos h.descriptor
  refine ⟨⟨d, id, payload⟩, ?_, rfl, hpack⟩
  rw [interpret_of_extract hpayload, if_pos ((allows_iff haccepted hpayload).2 h.declared)]

theorem interpret_of_not_fits (h : ¬ d.Fits value) :
    ∃ e, d.interpret id value = .error e ∧ e.isConversion = true ∧
      (e.isWritable = true ↔ ¬ value.Baffles d.descriptor) := by
  by_cases hmatches : value.Matches d.descriptor
  · obtain ⟨payload, hpayload, -⟩ := ControlValue.extract_of_matches hpos hmatches
    have hrefused : ¬ d.allows payload = true := fun hallowed =>
      h ⟨hmatches, (allows_iff haccepted hpayload).1 hallowed⟩
    refine ⟨.unknownVariant value, ?_, rfl, iff_of_true rfl hmatches.not_baffles⟩
    rw [interpret_of_extract hpayload, if_neg hrefused]
  · obtain ⟨e, he, hrefusal⟩ := ControlValue.extract_of_not_matches hpos hmatches
    exact ⟨e, interpret_of_error he id, hrefusal⟩

end Definition

/-! ## Items and their descriptions -/

namespace Described

variable {η : Type} [Dynamic η]

def id : Described η → Int
  | .typed entry => Dynamic.id entry
  | .raw entry => entry.id

def value : Described η → Except ValueError ControlValue
  | .typed entry => Dynamic.value entry
  | .raw entry => .ok entry.value

end Described

/-- What an item of a collection becomes: number and value are kept, the entry
is raw when no definition of the number fits, and it has a name when there is
one. -/
structure Describes {η : Type} [Dynamic η] (ds : List Definition) (number : Definition → Int)
    (item : Int × ControlValue) (entry : Described η) : Prop where
  id : entry.id = item.1
  value : entry.value = .ok item.2
  raw_iff : Registry.isTyped entry = false ↔
    (∀ d ∈ ds, number d ≠ item.1) ∨ ∃ d ∈ ds, number d = item.1 ∧ ¬ d.Fits item.2
  name : ∀ raw, entry = .raw raw → ∀ name, raw.name = some name ↔
    ∃ d ∈ ds, number d = item.1 ∧ d.name = name

/-- The value of the item baffles the definition of its number. -/
def Baffling (ds : List Definition) (number : Definition → Int) (item : Int × ControlValue) :
    Prop :=
  ∃ d ∈ ds, number d = item.1 ∧ item.2.Baffles d.descriptor

/-- The error is raised in place of a refusal whose message cannot be written. -/
def RegistryError.IsUnwritable (e : RegistryError) : Prop :=
  ∃ refusal, e = .unexpected (.conversion refusal) ∧ refusal.errorClass = .badValue

/-- The identifiers are the names of the definitions, under their numbers. -/
structure Identifiers.Knows (ids : Identifiers) (ds : List Definition)
    (number : Definition → Int) : Prop where
  canLookUp : ids.canLookUp = true
  name : ∀ d ∈ ds, ids.nameOf? (number d) = some d.name
  unknown : ∀ id, (∀ d ∈ ds, number d ≠ id) → ids.nameOf? id = none

namespace Registry

variable {η θ : Type} [Dynamic η] [Dynamic θ]

/-- The registry knows the numbers of the definitions and no others, has an
entry for each value that fits, and refuses other values in an expected way, if
the refusal can be put into words. -/
structure Serves (r : Registry η) (ds : List Definition) (number : Definition → Int) : Prop extends
    r.identifiers.Knows ds number where
  typed : ∀ d ∈ ds, ∀ value : ControlValue, d.Fits value →
    ∃ entry, r.dispatch (number d) value = .ok entry ∧ Dynamic.id entry = number d ∧
      (value.Defined → Dynamic.value entry = .ok value)
  refused : ∀ d ∈ ds, ∀ value : ControlValue, ¬ d.Fits value →
    ∃ e, r.dispatch (number d) value = .error (.conversion e) ∧ e.isConversion = true ∧
      (e.isWritable = true ↔ ¬ value.Baffles d.descriptor)

/-- A registry that answers alike serves the same definitions. -/
theorem Serves.of_alike {r : Registry η} {r' : Registry θ} {ds : List Definition}
    {number : Definition → Int} (h : r'.Serves ds number) (hids : r.identifiers = r'.identifiers)
    (halike : ∀ id value, AlikeResults (r.dispatch id value) (r'.dispatch id value)) :
    r.Serves ds number := by
  refine ⟨hids ▸ h.toKnows, fun d hd value hfits => ?_, fun d hd value hfits => ?_⟩
  · obtain ⟨entry', hentry', hid, hvalue⟩ := h.typed d hd value hfits
    have hresults := halike (number d) value
    rw [hentry'] at hresults
    cases hentry : r.dispatch (number d) value with
    | error e =>
      rw [hentry] at hresults
      exact hresults.elim
    | ok entry =>
      rw [hentry] at hresults
      exact ⟨entry, rfl, hresults.id.trans hid, fun hv => hresults.value.trans (hvalue hv)⟩
  · obtain ⟨e, he, hrefusal⟩ := h.refused d hd value hfits
    have hresults := halike (number d) value
    rw [he] at hresults
    cases hentry : r.dispatch (number d) value with
    | error e' =>
      rw [hentry] at hresults
      obtain rfl : e' = .conversion e := hresults
      exact ⟨e, rfl, hrefusal⟩
    | ok entry =>
      rw [hentry] at hresults
      exact hresults.elim

section

variable {r : Registry η} {ds : List Definition} {number : Definition → Int}
  (h : r.Serves ds number) (hinjective : ∀ d ∈ ds, ∀ e ∈ ds, number d = number e → d = e)
include h hinjective

/-- An item that does not baffle is described. -/
theorem Serves.exists_describe {item : Int × ControlValue} (hplain : ¬ Baffling ds number item) :
    ∃ entry, r.describe item.1 item.2 = .ok entry ∧
      (item.2.Defined → Describes ds number item entry) := by
  obtain ⟨id, value⟩ := item
  by_cases hknown : ∃ d ∈ ds, number d = id
  · obtain ⟨d, hd, rfl⟩ := hknown
    have hunique : ∀ e ∈ ds, number e = number d → e = d := fun e he => hinjective e he d hd
    by_cases hfits : d.Fits value
    · obtain ⟨entry, hentry, hid, hvalue⟩ := h.typed d hd value hfits
      refine ⟨.typed entry, ?_, fun hv => ⟨hid, hvalue hv, ?_, nofun⟩⟩
      · simp only [Registry.describe, Registry.lookup, h.canLookUp, h.name d hd, hentry]
        rfl
      · refine iff_of_false nofun (not_or.2 ⟨fun hnone => hnone d hd rfl, ?_⟩)
        rintro ⟨e, he, heq, hmisfit⟩
        rw [hunique e he heq] at hmisfit
        exact hmisfit hfits
    · obtain ⟨e, he, hconversion, hwritable⟩ := h.refused d hd value hfits
      have hexpected : (DispatchError.conversion e).isExpected = true :=
        Bool.and_eq_true_iff.2 ⟨hwritable.2 fun hbaffles => hplain ⟨d, hd, rfl, hbaffles⟩,
          hconversion⟩
      refine ⟨.raw ⟨number d, value, some d.name, e.message?⟩, ?_, fun _ => ⟨rfl, rfl, ?_, ?_⟩⟩
      · simp only [Registry.describe, Registry.lookup, h.canLookUp, h.name d hd, he, hexpected]
        rfl
      · exact iff_of_true rfl (Or.inr ⟨d, hd, rfl, hfits⟩)
      · rintro _ ⟨⟩ name
        refine ⟨fun hname => ⟨d, hd, rfl, Option.some.inj hname⟩, ?_⟩
        rintro ⟨f, hf, heq, rfl⟩
        rw [hunique f hf heq]
  · push Not at hknown
    refine ⟨.raw ⟨id, value, none, none⟩, ?_,
      fun _ => ⟨rfl, rfl, iff_of_true rfl (Or.inl hknown), ?_⟩⟩
    · simp only [Registry.describe, Registry.lookup, h.canLookUp, h.unknown id hknown]
      rfl
    · rintro _ ⟨⟩ name
      refine iff_of_false nofun ?_
      rintro ⟨d, hd, heq, -⟩
      exact hknown d hd heq

omit hinjective in
/-- One that baffles ends in an error that describing does not expect. -/
theorem Serves.describe_of_baffling {item : Int × ControlValue} (hodd : Baffling ds number item) :
    ∃ e, r.describe item.1 item.2 = .error e ∧ e.IsUnwritable := by
  obtain ⟨id, value⟩ := item
  obtain ⟨d, hd, rfl, hbaffles⟩ := hodd
  obtain ⟨e, he, -, hwritable⟩ :=
    h.refused d hd value fun hfits => hfits.descriptor.not_baffles hbaffles
  have hlong : ¬ e.isWritable = true := fun hall => hwritable.1 hall hbaffles
  have hunexpected : (DispatchError.conversion e).isExpected = false :=
    Bool.and_eq_false_iff.2 (Or.inl (Bool.eq_false_iff.2 hlong))
  refine ⟨.unexpected (.conversion e), ?_, e, rfl, ValueError.errorClass_of_not_isWritable hlong⟩
  simp only [Registry.describe, Registry.lookup, h.canLookUp, h.name d hd, he, hunexpected]
  rfl

/-- Where no item baffles, none stops the description of the rest. -/
theorem Serves.exists_describeAll {items : List (Int × ControlValue)}
    (hplain : ∀ item ∈ items, ¬ Baffling ds number item) :
    ∃ entries, r.describeAll items = .ok entries ∧
      ((∀ item ∈ items, item.2.Defined) → List.Forall₂ (Describes ds number) items entries) := by
  induction items with
  | nil => exact ⟨[], rfl, fun _ => .nil⟩
  | cons item items ih =>
    obtain ⟨hfirst, hrest⟩ := List.forall_mem_cons.1 hplain
    obtain ⟨entry, hentry, hdescribes⟩ := h.exists_describe hinjective hfirst
    obtain ⟨entries, hentries, hall⟩ := ih hrest
    refine ⟨entry :: entries, ?_, fun hv => .cons (hdescribes (hv item List.mem_cons_self))
      (hall fun other hother => hv other (List.mem_cons_of_mem item hother))⟩
    have hcons : r.describeAll (item :: items) = (do
        let entry ← r.describe item.1 item.2
        let entries ← r.describeAll items
        return entry :: entries) := List.mapM_cons
    rw [hcons, hentry, hentries]
    rfl

/-- Describing fails in no other way. -/
theorem Serves.isUnwritable_of_describe {item : Int × ControlValue} {e : RegistryError}
    (he : r.describe item.1 item.2 = .error e) : e.IsUnwritable := by
  by_cases hodd : Baffling ds number item
  · obtain ⟨e', he', hlong⟩ := h.describe_of_baffling hodd
    cases he.symm.trans he'
    exact hlong
  · obtain ⟨entry, hentry, -⟩ := h.exists_describe hinjective hodd
    cases he.symm.trans hentry

/-- One item that baffles is enough to stop the description of a collection. -/
theorem Serves.describeAll_of_baffling {items : List (Int × ControlValue)}
    (hodd : ∃ item ∈ items, Baffling ds number item) :
    ∃ e, r.describeAll items = .error e ∧ e.IsUnwritable := by
  obtain ⟨item, hitem, hodd⟩ := hodd
  obtain ⟨e, he, -⟩ := h.describe_of_baffling hodd
  exact Attempt.exists_mapM_eq_error (fun _ _ => h.isUnwritable_of_describe hinjective)
    ⟨item, hitem, e, he⟩

end

end Registry

/-! ## Rows -/

namespace ItemRow

/-- The row as it stands among others between braces. -/
def shown (row : ItemRow) : String := row.name.getD (Number.intText row.id) ++ ": " ++ row.value

end ItemRow

/-- The row has the number and the tag of its item, the name of the definition with that number, and
for the rest what describing the item gives. -/
structure Registry.Records {η : Type} [Dynamic η] (r : Registry η) (ds : List Definition)
    (number : Definition → Int) (item : Int × ControlValue) (row : ItemRow) : Prop where
  id : row.id = item.1
  name (name : String) : row.name = some name ↔ ∃ d ∈ ds, number d = item.1 ∧ d.name = name
  type : row.type = item.2.kind.label
  typed : row.typed = false ↔ ∃ raw, r.describe item.1 item.2 = .ok (.raw raw)
  value : ∃ entry, r.describe item.1 item.2 = .ok entry ∧ row.value = shownEntry entry

/-- The items of a collection are described one by one, unless one of them baffles. -/
structure Registry.Surveys {η : Type} [Dynamic η] (r : Registry η) (ds : List Definition)
    (number : Definition → Int) (items : List (Int × ControlValue)) : Prop where
  describes (h : ∀ item ∈ items, ¬ Baffling ds number item) :
    ∃ entries, r.describeAll items = .ok entries ∧
      List.Forall₂ (Describes ds number) items entries
  fails (h : ∃ item ∈ items, Baffling ds number item) :
    ∃ e, r.describeAll items = .error e ∧ e.IsUnwritable

namespace Registry

section

variable {η : Type} {r : Registry η}

section

variable (hcan : r.identifiers.canLookUp = true)
include hcan

end

variable [Dynamic η]

section

variable (hcan : r.identifiers.canLookUp = true)
include hcan

end

end

end Registry

/-! ## Both ways to a registry -/

section

variable {s : Snapshot} {category : Category} {runtime : LinkedRuntime} {enabled : String → Bool}

theorem Identifiers.nameOf?_named {ds : List Definition} {number : Definition → Int}
    (hinjective : ∀ d ∈ ds, ∀ e ∈ ds, number d = number e → d = e) {d : Definition} (hd : d ∈ ds) :
    nameOf? ⟨category, ds.map fun d => (d.name, number d)⟩ (number d) = some d.name := by
  rw [nameOf?]
  cases hfind : (ds.map fun d => (d.name, number d)).find? fun m => m.2 == number d with
  | none =>
    have hmem : (d.name, number d) ∈ ds.map fun d => (d.name, number d) :=
      List.mem_map.2 ⟨d, hd, rfl⟩
    exact absurd (beq_self_eq_true (number d)) (List.find?_eq_none.1 hfind _ hmem)
  | some member =>
    obtain ⟨e, he, rfl⟩ := List.mem_map.1 (List.mem_of_find?_eq_some hfind)
    have hnumber := List.find?_some hfind
    rw [hinjective e he d hd (eq_of_beq hnumber)]
    rfl

theorem Identifiers.nameOf?_named_eq_none {ds : List Definition} {number : Definition → Int}
    {id : Int} (h : ∀ d ∈ ds, number d ≠ id) :
    nameOf? ⟨category, ds.map fun d => (d.name, number d)⟩ id = none := by
  rw [nameOf?, Option.map_eq_none_iff, List.find?_eq_none]
  intro member hmember heq
  obtain ⟨d, hd, rfl⟩ := List.mem_map.1 hmember
  exact h d hd (eq_of_beq heq)

theorem Identifiers.canLookUp_named {ds : List Definition} {number : Definition → Int} :
    canLookUp ⟨category, ds.map fun d => (d.name, number d)⟩ = true ↔
      ∀ d ∈ ds, d.name ≠ hidingName := by
  rw [canLookUp, Bool.not_eq_true', ← Bool.not_eq_true, Bindings.has_named]
  push Not
  rfl

theorem Identifiers.knows_named {ds : List Definition} {number : Definition → Int}
    (hinjective : ∀ d ∈ ds, ∀ e ∈ ds, number d = number e → d = e)
    (hshown : ∀ d ∈ ds, d.name ≠ hidingName) :
    Knows ⟨category, ds.map fun d => (d.name, number d)⟩ ds number where
  canLookUp := canLookUp_named.2 hshown
  name _ := nameOf?_named hinjective
  unknown _ := nameOf?_named_eq_none

/-- An interpreter's registry serves the definitions that are kept under
numbers of their own. -/
theorem Interpreter.serves {ds : List Definition} {number : Definition → Int}
    (haccepted : ∀ d ∈ ds, d.Accepted) (hpos : ∀ d ∈ ds, d.shape.IsPositive)
    (hinjective : ∀ d ∈ ds, ∀ e ∈ ds, number d = number e → d = e)
    (hshown : ∀ d ∈ ds, d.name ≠ Identifiers.hidingName) :
    (registry ⟨⟨category, ds.map fun d => (d.name, number d)⟩,
      Table.ofPairs (ds.map fun d => (number d, d))⟩).Serves ds number := by
  have hmake {d : Definition} (hd : d ∈ ds) (value : ControlValue) :
      makeEntry ⟨⟨category, ds.map fun d => (d.name, number d)⟩,
        Table.ofPairs (ds.map fun d => (number d, d))⟩ (number d) value
          = (d.interpret (number d) value).mapError .conversion :=
    makeEntry_of_get? (Table.get?_ofPairs_map (fun d => d) hinjective hd) value
  refine ⟨Identifiers.knows_named hinjective hshown, fun d hd value hfits => ?_,
    fun d hd value hfits => ?_⟩
  · obtain ⟨entry, hentry, hid, hvalue⟩ :=
      Definition.interpret_of_fits (haccepted d hd) (hpos d hd) (number d) hfits
    refine ⟨entry, (hmake hd value).trans ?_, hid, hvalue⟩
    rw [hentry]
    rfl
  · obtain ⟨e, he, hrefusal⟩ :=
      Definition.interpret_of_not_fits (haccepted d hd) (hpos d hd) (number d) hfits
    refine ⟨e, (hmake hd value).trans ?_, hrefusal⟩
    rw [he]
    rfl

/-- The registry of an imported module serves the same definitions. -/
theorem Bindings.serves_imported (hs : s.Accepted)
    (hinjective : ∀ d ∈ Interpreter.enabledDefinitions s category enabled,
      ∀ e ∈ Interpreter.enabledDefinitions s category enabled,
        runtime.idOf category d = runtime.idOf category e → d = e)
    (hpos : ∀ d ∈ Interpreter.enabledDefinitions s category enabled, d.shape.IsPositive)
    (hshown : ∀ d ∈ Interpreter.enabledDefinitions s category enabled,
      d.name ≠ Identifiers.hidingName) :
    Registry.Serves ⟨⟨category, (Interpreter.enabledDefinitions s category enabled).map
      fun d => (d.name, runtime.idOf category d)⟩,
        (imported ⟨runtime, enabled⟩ s category).makeEntry⟩
      (Interpreter.enabledDefinitions s category enabled) (runtime.idOf category) := by
  have hserves := @Interpreter.serves category _ (runtime.idOf category)
    (fun d hd => hs.definitions category d (mem_enabledDefinitions.1 hd).1) hpos hinjective hshown
  refine hserves.of_alike rfl ?_
  exact @alike_makeEntry s category ⟨runtime, enabled⟩ (hs.definitions category) hinjective _

theorem Registry.Serves.surveys {η : Type} [Dynamic η] {r : Registry η} {ds : List Definition}
    {number : Definition → Int} (h : r.Serves ds number)
    (hinjective : ∀ d ∈ ds, ∀ e ∈ ds, number d = number e → d = e)
    {items : List (Int × ControlValue)} (hitems : ∀ item ∈ items, item.2.Defined) :
    r.Surveys ds number items where
  describes hplain := by
    obtain ⟨entries, hentries, hall⟩ := h.exists_describeAll hinjective hplain
    exact ⟨entries, hentries, hall hitems⟩
  fails hodd := h.describeAll_of_baffling hinjective hodd

/-- Interpreted and imported registries describe all of a collection, item by item, if and only if
none of its items baffles. -/
theorem Registry.surveys_of_accepted (hs : s.Accepted)
    (hentries : ∀ d ∈ s.definitions category, d.OfSchema)
    (hdefines : ∀ d ∈ Interpreter.enabledDefinitions s category enabled,
      runtime.defines category d = true)
    (hdistinct : runtime.Distinguishes category
      (Interpreter.enabledDefinitions s category enabled))
    (hallowed : ∀ d ∈ Interpreter.enabledDefinitions s category enabled,
      d.name ≠ Identifiers.forbiddenName)
    (hshown : ∀ d ∈ Interpreter.enabledDefinitions s category enabled,
      d.name ≠ Identifiers.hidingName)
    {items : List (Int × ControlValue)} (hitems : ∀ item ∈ items, item.2.Defined) :
    (∃ i, Interpreter.ofSnapshot s category runtime enabled = .ok i ∧
      i.registry.Surveys (Interpreter.enabledDefinitions s category enabled)
        (runtime.idOf category) items) ∧
    (s.version.IsWritten → ∀ text, Bindings.generate s category = .ok text →
      ∃ b r, Bindings.importText ⟨runtime, enabled⟩ text = .ok b ∧ b.registry? = some r ∧
        r.Surveys (Interpreter.enabledDefinitions s category enabled) (runtime.idOf category)
          items) := by
  have hmem {d : Definition} (hd : d ∈ Interpreter.enabledDefinitions s category enabled) :
      d ∈ s.definitions category := (Bindings.mem_enabledDefinitions.1 hd).1
  have hfind : (Interpreter.enabledDefinitions s category enabled).find?
      (fun d => !runtime.defines category d) = none := LinkedRuntime.find?_eq_none_iff.2 hdefines
  have hinjective := hdistinct.eq_of_idOf hdefines
  have hpos : ∀ d ∈ Interpreter.enabledDefinitions s category enabled, d.shape.IsPositive :=
    fun d hd => (hentries d (hmem hd)).isPositive
  have hserves := @Interpreter.serves category _ (runtime.idOf category)
    (fun d hd => hs.definitions category d (hmem hd)) hpos hinjective hshown
  have himported := Bindings.serves_imported hs hinjective hpos hshown
  exact ⟨⟨_, Interpreter.ofSnapshot_of_allowed hallowed hfind, hserves.surveys hinjective hitems⟩,
    fun hversion text hgenerate => ⟨_, _,
      Bindings.importText_of_generate hs hversion hgenerate hallowed hfind, rfl,
      himported.surveys hinjective hitems⟩⟩

end

/-! ## A collection with odd items -/

theorem Bindings.ofSchema_sample :
    ∀ d ∈ Bindings.sample.definitions .controls, d.OfSchema := by
  have hread {name entry vendor : Datum} {d : Definition}
      (h : (@Definition.ofEntry .standard name entry vendor).toOption = some d) : d.OfSchema :=
    ⟨Readers.standard, name, entry, vendor, Attempt.eq_ok_of_toOption h⟩
  refine List.forall_mem_cons.2 ⟨@hread (.text "AeEnable") (.dict [
    (.text "type", .text "bool"), (.text "description", .text "Enables exposure.")]) .null _
    (by decide +kernel), ?_⟩
  refine List.forall_mem_cons.2 ⟨@hread (.text "SyncMode") (.dict [
    (.text "type", .text "int32_t"), (.text "enum", .list [
      .dict [(.text "name", .text "SyncModeOff"), (.text "value", .int 0),
        (.text "description", .text "No sync.")],
      .dict [(.text "name", .text "SyncModeServer"), (.text "value", .int 1)]])]) (.text "rpi") _
    (by decide +kernel), nofun⟩

/-- A value that fits, a number that is not declared, one element too few, and
a number that nobody knows. -/
def Registry.sampleItems : List (Int × ControlValue) := [
  (1, .array .bool [true]), (20001, .array .int32 [⟨7, by decide, by decide⟩]),
  (1, .array .bool []), (99, .string "?")]

theorem Registry.not_baffling_sample :
    ∀ item ∈ sampleItems,
      ¬ Baffling Bindings.sample.controls (LinkedRuntime.sample.idOf .controls) item := by
  have hshapes : ∀ d ∈ Bindings.sample.controls, ∀ n ∈ d.descriptor.shape.elementCount?,
      (Datum.int n).isWritable = true := by decide
  have hvalues : ∀ item ∈ sampleItems, (Datum.int item.2.elementCount).isWritable = true := by
    decide
  rintro item hitem ⟨d, hd, -, hbaffles⟩
  exact ControlValue.not_baffles_of_isWritable (hshapes d hd) (hvalues item hitem) hbaffles

theorem Registry.surveys_of_accepted_sample :
    (∀ item ∈ sampleItems, item.2.Defined) ∧
    (∃ i, Interpreter.ofSnapshot Bindings.sample .controls .sample (fun _ => true) = .ok i ∧
      ∃ entries, i.registry.describeAll sampleItems = .ok entries ∧
        List.Forall₂ (Describes Bindings.sample.controls (LinkedRuntime.sample.idOf .controls))
          sampleItems entries) ∧
    ∃ b r, Bindings.importText ⟨.sample, fun _ => true⟩ (Layout.text Bindings.sample .controls)
        = .ok b ∧ b.registry? = some r ∧
      ∃ entries, r.describeAll sampleItems = .ok entries ∧
        List.Forall₂ (Describes Bindings.sample.controls (LinkedRuntime.sample.idOf .controls))
          sampleItems entries := by
  have hdefined : ∀ item ∈ sampleItems, item.2.Defined := by
    refine List.forall_mem_cons.2 ⟨fun _ _ => trivial, List.forall_mem_cons.2 ⟨fun _ _ => trivial,
      List.forall_mem_cons.2 ⟨nofun, List.forall_mem_cons.2 ⟨trivial, nofun⟩⟩⟩⟩
  obtain ⟨⟨i, hi, hinterpreted⟩, hmodule⟩ := @surveys_of_accepted Bindings.sample .controls .sample
    (fun _ => true) Bindings.accepted_sample Bindings.ofSchema_sample (by decide)
    LinkedRuntime.distinguishes_sample (by decide) (by decide) _ hdefined
  obtain ⟨b, r, himport, hregistry, himported⟩ :=
    hmodule Bindings.isWritten_sample _ Bindings.generate_sample
  exact ⟨hdefined, ⟨i, hi, hinterpreted.describes not_baffling_sample⟩, b, r, himport, hregistry,
    himported.describes not_baffling_sample⟩

/-- A switch for each place of a grid with more places than are ever counted in words. -/
def Bindings.vast : Snapshot where
  version := ⟨0, 1, 0, []⟩
  controls := [⟨"AeEnable", "libcamera", .bool, "", .fixed [10 ^ 2150, 10 ^ 2150], none⟩]
  properties := []

theorem Bindings.ofSchema_vast : ∀ d ∈ vast.definitions .controls, d.OfSchema := by
  refine List.forall_mem_singleton.2 ⟨.standard, .text "AeEnable", .dict [
    (.text "type", .text "bool"),
    (.text "size", .list [.int (10 ^ 2150 : Nat), .int (10 ^ 2150 : Nat)])], .null, ?_⟩
  exact Attempt.eq_ok_of_toOption (by decide +kernel)

theorem Bindings.accepted_vast : vast.Accepted :=
  Snapshot.accepted_of_controls (fun d hd => (ofSchema_vast d hd).accepted)
    (List.nodup_singleton _)

/-- One switch is not enough for the grid, and how many would be cannot be said. -/
theorem Registry.baffling_vast :
    Baffling Bindings.vast.controls (LinkedRuntime.sample.idOf .controls)
      (1, .array .bool [true]) := by
  refine ⟨_, List.mem_cons_self, by decide +kernel, rfl, nofun, _, rfl, ?_, Or.inl ⟨_, rfl, ?_⟩⟩
  · decide +kernel
  · decide +kernel

theorem Bindings.eq_of_mem_vast : ∀ d ∈ vast.controls, ∀ e ∈ vast.controls,
    LinkedRuntime.sample.idOf .controls d = LinkedRuntime.sample.idOf .controls e → d = e :=
  List.forall_mem_singleton.2 (List.forall_mem_singleton.2 fun _ => rfl)

theorem Interpreter.serves_vast :
    ∃ i, ofSnapshot Bindings.vast .controls .sample (fun _ => true) = .ok i ∧
      i.registry.Serves Bindings.vast.controls (LinkedRuntime.sample.idOf .controls) := by
  refine ⟨_, ofSnapshot_of_allowed (List.forall_mem_singleton.2 ?_) ?_, serves
    (Bindings.accepted_vast.definitions .controls)
    (fun d hd => (Bindings.ofSchema_vast d hd).isPositive) Bindings.eq_of_mem_vast
    (List.forall_mem_singleton.2 ?_)⟩
  · exact (by decide : "AeEnable" ≠ Identifiers.forbiddenName)
  · exact LinkedRuntime.find?_eq_none_iff.2 (List.forall_mem_singleton.2 (by decide +kernel))
  · exact (by decide : "AeEnable" ≠ Identifiers.hidingName)

/-- So the one switch is not described. -/
theorem Registry.describeAll_vast :
    Bindings.vast.Accepted ∧ (∀ d ∈ Bindings.vast.definitions .controls, d.OfSchema) ∧
    ∃ i, Interpreter.ofSnapshot Bindings.vast .controls .sample (fun _ => true) = .ok i ∧
      ∃ e, i.registry.describeAll [(1, .array .bool [true])] = .error e := by
  obtain ⟨i, hi, hserves⟩ := Interpreter.serves_vast
  obtain ⟨e, he, -⟩ := hserves.describeAll_of_baffling Bindings.eq_of_mem_vast
    ⟨_, List.mem_cons_self, baffling_vast⟩
  exact ⟨Bindings.accepted_vast, Bindings.ofSchema_vast, i, hi, e, he⟩

end ControlSchema
