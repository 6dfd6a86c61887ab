import ControlSchema.Proofs.Cell.RoundTrip
import ControlSchema.Proofs.Registry
import Mathlib.Data.List.Zip

/-!
# Closed sets

An enumeration stands for a closed set of numbers, and what that takes is spread over several rules.
The values are single integers, each of them can be built, and each enumerator has a member with a
name of its own that can stand in source. All ways to a definition end with these rules, so a
definition that came about obeys them, and at run time its class takes the values of the set and no
others.

What a class takes is read off its members alone. That members may share a number does not matter,
since it is their numbers that are given back.
-/

namespace ControlSchema

/-! ## Values of one integer -/

namespace ControlValue

theorem construct_single {element : ElementKind} {e : element.Element} (he : element.Defined e)
    {n : Int} (hn : element.toDatum e = .int n) :
    construct element.kind (.tuple [.int n]) = .ok (.array element [e]) := by
  rw [← hn]
  exact construct_elements (List.forall_mem_singleton.2 he)

/-- A single element of an integer kind is an integer, and the value can be built of it again. -/
theorem exists_int {value : ControlValue} (hinteger : value.kind.isInteger = true)
    (hcount : value.elementCount = 1) : ∃ n, value.items = [.int n] ∧
      value.toScalar value.kind = .ok (.int n) ∧
      construct value.kind (.tuple [.int n]) = .ok value ∧ value.same value = true := by
  cases value with
  | none => cases hinteger
  | string text => cases hinteger
  | array element elements =>
    obtain ⟨e, rfl⟩ := List.length_eq_one_iff.1 hcount
    have hdefined : element.Defined e := by
      cases element with
      | float => cases hinteger
      | _ => trivial
    have hsame := @same_self (.array element [e]) (List.forall_mem_singleton.2 hdefined)
    cases element with
    | byte | int32 | int64 => exact ⟨e.val, rfl, rfl, construct_single hdefined rfl, hsame⟩
    | _ => cases hinteger

/-- Every integer in the range of a kind can be built. -/
theorem exists_construct {kind : ControlKind} {low high n : Int}
    (hrange : kind.intRange? = some (low, high)) (hlow : low ≤ n) (hhigh : n ≤ high) :
    ∃ value, construct kind (.tuple [.int n]) = .ok value := by
  cases kind with
  | byte =>
    cases hrange
    exact ⟨_, @construct_single .byte ⟨n, hlow, hhigh⟩ trivial n rfl⟩
  | int32 =>
    cases hrange
    exact ⟨_, @construct_single .int32 ⟨n, hlow, hhigh⟩ trivial n rfl⟩
  | int64 =>
    cases hrange
    exact ⟨_, @construct_single .int64 ⟨n, hlow, hhigh⟩ trivial n rfl⟩
  | _ => cases hrange

end ControlValue

/-! ## Classes with members -/

namespace EntryClass

/-- Of the values with one element of a kind, those whose number is in the set become members, which
give back the value, and all others are unknown. -/
def IsClosed (c : EntryClass) (kind : ControlKind) (numbers : List Int) : Prop :=
  ∀ value : ControlValue, value.kind = kind → value.elementCount = 1 → ∃ n, value.items = [.int n] ∧
    (n ∈ numbers → ∃ name back, c.ofValue value = .ok (.member c name n) ∧
      (Entry.member c name n).toValue = .ok back ∧ back.same value = true) ∧
    (n ∉ numbers → c.ofValue value = .error (.unknownVariant value))

variable {c : EntryClass} {members : Table String Int}

/-- The member of an integer is the first one with it. -/
theorem memberOf?_int (hform : c.form = .enumeration members) (n : Int) :
    c.memberOf? (.int n) = members.find? fun member => member.2 == n := by
  rw [memberOf?, EntryClass.members, hform]
  exact congrArg (members.find? ·) (funext fun member => Datum.same_int member.2 n)

theorem exists_memberOf? (hform : c.form = .enumeration members) {n : Int}
    (hn : n ∈ members.map Prod.snd) : ∃ name, c.memberOf? (.int n) = some (name, n) := by
  obtain ⟨member, hmem, rfl⟩ := List.mem_map.1 hn
  have hsome : (members.find? fun other => other.2 == member.2).isSome = true :=
    List.find?_isSome.2 ⟨member, hmem, beq_self_eq_true member.2⟩
  obtain ⟨found, hfound⟩ := Option.isSome_iff_exists.1 hsome
  have hnumber := List.find?_some hfound
  rw [beq_iff_eq] at hnumber
  refine ⟨found.1, ?_⟩
  rw [memberOf?_int hform, hfound, ← hnumber]

theorem memberOf?_eq_none (hform : c.form = .enumeration members) {n : Int}
    (hn : n ∉ members.map Prod.snd) : c.memberOf? (.int n) = none := by
  rw [memberOf?_int hform, List.find?_eq_none]
  exact fun member hmem hnumber => hn (List.mem_map.2 ⟨member, hmem, eq_of_beq hnumber⟩)

/-- A class with members is closed over their numbers. -/
theorem isClosed_of_form (hform : c.form = .enumeration members)
    (hinteger : c.descriptor.kind.isInteger = true) :
    c.IsClosed c.descriptor.kind (members.map Prod.snd) := by
  intro value hkind hcount
  obtain ⟨n, hitems, hscalar, hconstruct, hsame⟩ :=
    ControlValue.exists_int (hkind ▸ hinteger) hcount
  rw [hkind] at hscalar hconstruct
  refine ⟨n, hitems, fun hn => ?_, fun hn => ?_⟩
  · obtain ⟨name, hmember⟩ := exists_memberOf? hform hn
    refine ⟨name, value, ?_, hconstruct, hsame⟩
    rw [ofValue_of_toScalar hform hscalar, hmember]
  · rw [ofValue_of_toScalar hform hscalar, memberOf?_eq_none hform hn]

end EntryClass

/-! ## Definitions -/

namespace Definition

/-- How a definition comes about, whatever the readers: from an entry of a schema, from fields, or
from parts of which the enumerators have been read. -/
inductive Constructed (d : Definition) : Prop
  | entry [Readers] {name entry vendor : Datum} (h : ofEntry name entry vendor = .ok d)
  | fields [Readers] {entries : List (Datum × Datum)} (h : ofFields entries = .ok d)
  | parts [Readers] {name vendor : Datum} {kind : ControlKind} {description : String}
      {shape : Shape} {enumeration : Option (List Enumerator)}
      (hread : ∀ es ∈ enumeration, ∀ e ∈ es, ∃ datum, Enumerator.ofDatum datum = .ok e)
      (h : ofParts name vendor kind description shape enumeration = .ok d)

theorem Constructed.accepted {d : Definition} (h : d.Constructed) : d.Accepted := by
  cases h with
  | entry h => exact accepted_of_ofEntry h
  | fields h => exact accepted_of_ofFields h
  | parts hread h =>
    refine accepted_of_ofParts h fun es hes e he => ?_
    obtain ⟨datum, hdatum⟩ := hread es hes e he
    exact isSchemaName_of_ofDatum hdatum

/-- The rules of an enumeration whose members have the given names. -/
structure Encloses (d : Definition) (enumerators : List Enumerator) (names : List String) :
    Prop where
  integer : d.kind.isInteger = true
  scalar : d.shape = .scalar
  values : ∀ e ∈ enumerators, ∃ value,
    ControlValue.construct d.kind (.tuple [.int e.value]) = .ok value
  named : d.variantNames = .ok names
  length : names.length = enumerators.length
  nodup : names.Nodup
  names : ∀ name ∈ names, Naming.IsMemberName name

theorem Accepted.encloses {d : Definition} (h : d.Accepted) {enumerators : List Enumerator}
    (henum : d.enumeration = some enumerators) : ∃ names, d.Encloses enumerators names := by
  have hsound := check_eq_ok_iff.1 h.check _ henum
  obtain ⟨low, high, hrange, hvalues⟩ := hsound.range
  obtain ⟨names, hnames, hnodup⟩ := hsound.names
  have henumerators := enumerators_of_enumeration henum
  refine ⟨names, ?_, hsound.shape_eq, fun e he => ?_, hnames, ?_, hnodup, fun name hname => ?_⟩
  · rw [ControlKind.isInteger, hrange]
    rfl
  · exact ControlValue.exists_construct hrange (hvalues e he).1 (hvalues e he).2
  · rw [length_variantNames hnames, henumerators]
  · obtain ⟨e, he, hvariant⟩ := Attempt.mem_of_mapM hnames name hname
    exact Naming.isMemberName_of_variantName (h.enumerators e he) hvariant

end Definition

/-! ## Generated classes -/

namespace Bindings

variable {s : Snapshot} {category : Category} {context : ImportContext} {text : String}
  {b : Bindings}

/-- An import of generated text that ends well leaves what the program of the snapshot leaves. -/
theorem eq_imported_of_importText (hs : s.Accepted) (hversion : s.version.IsWritten)
    (hgenerate : generate s category = .ok text)
    (himport : importText context text = .ok b) : b = imported context s category := by
  obtain ⟨hnamed, -, hread⟩ := program_of_generate hversion (hs.definitions category) hgenerate
  have hrun : run context (Layout.program s category) empty = .ok b := by
    rwa [importText_of_read? hread] at himport
  cases hfind : (Interpreter.enabledDefinitions s category context.enabled).find?
      (fun d => !context.runtime.defines category d) with
  | some d =>
    rw [run_program_of_missing hfind] at hrun
    cases hrun
  | none =>
    by_cases hforbidden : ∃ d ∈ Interpreter.enabledDefinitions s category context.enabled,
        d.name = Identifiers.forbiddenName
    · rw [run_program_of_forbidden hnamed.nodup hforbidden hfind] at hrun
      cases hrun
    · have hallowed := importText_of_generate hs hversion hgenerate
        (fun d hd hname => hforbidden ⟨d, hd, hname⟩) hfind
      rw [himport] at hallowed
      exact Except.ok.inj hallowed

/-- An import binds the class of each enabled definition to its name. -/
theorem get?_classes_of_importText (hs : s.Accepted) (hversion : s.version.IsWritten)
    (hgenerate : generate s category = .ok text)
    (himport : importText context text = .ok b) {d : Definition}
    (hd : d ∈ Interpreter.enabledDefinitions s category context.enabled) :
    b.classes.get? d.name = some (classOf context.runtime category d) := by
  rw [eq_imported_of_importText hs hversion hgenerate himport]
  exact get?_named ((hs.names category).sublist (List.filter_sublist.map _)) _ hd

/-- The members of a class are the values of the enumerators under the names of their variants. -/
theorem form_classOf {d : Definition} {enumerators : List Enumerator}
    (henum : d.enumeration = some enumerators) {names : List String}
    (hnames : d.variantNames = .ok names) (runtime : LinkedRuntime) (category : Category) :
    (classOf runtime category d).form = .enumeration (names.zip (enumerators.map (·.value))) := by
  show entryForm d = _
  rw [entryForm_of_enumeration henum, Definition.variants_eq_zip hnames,
    Definition.enumerators_of_enumeration henum, List.zip_map_right,
    ← List.zip_swap enumerators names, List.map_map]
  rfl

end Bindings

/-- Every enumeration that comes about obeys the rules, whatever its enumerators are, and each class
that is generated for it and imported has their values as members and is closed over them. -/
theorem Definition.isClosed_of_constructed {d : Definition} (h : d.Constructed)
    {enumerators : List Enumerator} (henum : d.enumeration = some enumerators) :
    ∃ names, d.Encloses enumerators names ∧
      ∀ {s : Snapshot} {category : Category} {context : ImportContext} {text : String}
        {b : Bindings}, s.Accepted → s.version.IsWritten →
        d ∈ Interpreter.enabledDefinitions s category context.enabled →
        Bindings.generate s category = .ok text → Bindings.importText context text = .ok b →
        ∃ c, b.classes.get? d.name = some c ∧
          c.members = names.zip (enumerators.map (·.value)) ∧
          c.IsClosed d.kind (enumerators.map (·.value)) := by
  obtain ⟨names, hnames⟩ := h.accepted.encloses henum
  refine ⟨names, hnames, fun hs hversion hd hgenerate himport =>
    ⟨_, Bindings.get?_classes_of_importText hs hversion hgenerate himport hd, ?_, ?_⟩⟩
  · rw [EntryClass.members, Bindings.form_classOf henum hnames.named]
  · have hvalues : (names.zip (enumerators.map (·.value))).map Prod.snd
        = enumerators.map (·.value) := List.map_snd_zip (by rw [List.length_map, hnames.length])
    rw [← hvalues]
    exact EntryClass.isClosed_of_form (Bindings.form_classOf henum hnames.named _ _) hnames.integer

/-- The class of the two modes of the sample. -/
theorem Definition.isClosed_of_constructed_sample :
    ∃ b c, Bindings.importText ⟨.sample, fun _ => true⟩ (Layout.text Bindings.sample .controls)
        = .ok b ∧
      b.classes.get? "SyncMode" = some c ∧ c.members = [("Off", 0), ("Server", 1)] ∧
      c.IsClosed .int32 [0, 1] := by
  obtain ⟨readers, name, entry, vendor, hentry⟩ :=
    Bindings.ofSchema_sample _ (List.mem_cons_of_mem _ List.mem_cons_self)
  obtain ⟨names, hnames, hclasses⟩ := isClosed_of_constructed (.entry hentry) rfl
  have himport := @Bindings.importText_of_generate _ Bindings.accepted_sample
    Bindings.isWritten_sample .controls _ Bindings.generate_sample ⟨.sample, fun _ => true⟩
    (by decide) (by decide)
  obtain ⟨c, hclass, hmembers, hclosed⟩ :=
    hclasses Bindings.accepted_sample Bindings.isWritten_sample (by decide)
      Bindings.generate_sample himport
  cases hnames.named
  exact ⟨_, c, himport, hclass, hmembers, hclosed⟩

end ControlSchema
