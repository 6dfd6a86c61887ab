import ControlSchema.Proofs.Bindings.Gating
import ControlSchema.Proofs.Bindings.Import

/-!
# Interpreted and generated entries

Both ways to typed entries read a value by the descriptor of its definition, so
they fail alike and take the same data out of it. They part only for
enumerations: the members of a class are searched for the number itself, while
an interpreter keeps the number and looks for a name when the entry is shown.
The checks of a definition make the two agree. Enumerations are single integers,
and each enumerator has a member.
-/

namespace ControlSchema

/-! ## Entries that look alike -/

/-- Nothing that can be asked of an entry whose type is forgotten tells the two
apart. -/
structure Alike {η θ : Type} [Dynamic η] [Dynamic θ] (a : η) (b : θ) : Prop where
  name : Dynamic.name a = Dynamic.name b
  id : Dynamic.id a = Dynamic.id b
  shown : Dynamic.shown a = Dynamic.shown b
  value : Dynamic.value a = Dynamic.value b

/-- The same error, or entries that look alike. -/
def AlikeResults {ε η θ : Type} [Dynamic η] [Dynamic θ] : Except ε η → Except ε θ → Prop
  | .ok a, .ok b => Alike a b
  | .error e, .error f => e = f
  | _, _ => False

theorem AlikeResults.mapError {ε ε' η θ : Type} [Dynamic η] [Dynamic θ] {x : Except ε η}
    {y : Except ε θ} (h : AlikeResults x y) (f : ε → ε') :
    AlikeResults (x.mapError f) (y.mapError f) := by
  cases x with
  | error e =>
    cases y with
    | error e' => exact congrArg f h
    | ok b => exact h
  | ok a =>
    cases y with
    | error e' => exact h
    | ok b => exact h

/-! ## Members of enumerations -/

namespace Definition

theorem length_variantNames {d : Definition} {names : List String}
    (h : d.variantNames = .ok names) : names.length = d.enumerators.length :=
  (Attempt.forall₂_of_mapM h).length_eq.symm

/-- Where every enumerator has a name, the variants are the enumerators with their names. -/
theorem variants_eq_zip {d : Definition} {names : List String}
    (h : d.variantNames = .ok names) : d.variants = d.enumerators.zip names := by
  rw [variantNames] at h
  rw [variants]
  generalize d.enumerators = es at h
  induction es generalizing names with
  | nil => rfl
  | cons e es ih =>
    rw [List.mapM_cons] at h
    obtain ⟨name, hname, h⟩ := Attempt.bind_eq_ok h
    obtain ⟨rest, hrest, h⟩ := Attempt.bind_eq_ok h
    cases h
    simp only [List.filterMap_cons, hname, List.zip_cons_cons, ih hrest]

theorem map_fst_variants {d : Definition} {names : List String}
    (h : d.variantNames = .ok names) : d.variants.map Prod.fst = d.enumerators := by
  rw [variants_eq_zip h]
  exact List.map_fst_zip (length_variantNames h).ge

theorem variants_eq_nil {d : Definition} (h : d.isEnum = false) : d.variants = [] := by
  rw [isEnum, Option.isSome_eq_false_iff, Option.isNone_iff_eq_none] at h
  rw [variants, enumerators, h]
  rfl

/-- A payload is allowed when some variant has its number. -/
theorem allows_eq {d : Definition} {names : List String} (henum : d.isEnum = true)
    (hnames : d.variantNames = .ok names) (payload : Datum) : d.allows payload
      = (d.variants.find? fun v => Datum.same (.int v.1.value) payload).isSome := by
  rw [allows, henum, ← map_fst_variants hnames, List.any_map, List.isSome_find?]
  rfl

section

variable {d : Definition} {enumerators : List Enumerator} (h : d.IsSound enumerators)
include h

theorem IsSound.shape_eq : d.shape = .scalar := by
  have hscalar := h.scalar
  cases hshape : d.shape with
  | scalar => rfl
  | _ =>
    rw [hshape] at hscalar
    cases hscalar

theorem IsSound.ne_string : KindRequest.known d.kind ≠ .known .string := by
  obtain ⟨low, high, hrange, -⟩ := h.range
  intro heq
  rw [KindRequest.known.inj heq] at hrange
  cases hrange

/-- An enumeration is read from a single element of an integer kind. -/
theorem IsSound.extract_eq (value : ControlValue) :
    value.extract d.descriptor = value.toScalar d.kind := by
  have hpair : d.descriptor = ⟨d.kind, .scalar⟩ := by rw [descriptor, h.shape_eq]
  rw [hpair]
  exact if_neg h.ne_string

theorem IsSound.pack_eq (payload : Datum) :
    ControlValue.pack d.descriptor payload
      = ControlValue.construct d.kind (.tuple [payload]) := by
  have hpair : d.descriptor = ⟨d.kind, .scalar⟩ := by rw [descriptor, h.shape_eq]
  rw [hpair]
  exact if_neg h.ne_string

end

end Definition

/-- The single element of a value of an integer kind is an integer. -/
theorem ControlValue.int_of_toScalar {value : ControlValue} {kind : ControlKind}
    {range : Int × Int} (hrange : kind.intRange? = some range) {raw : Datum}
    (h : value.toScalar kind = .ok raw) : ∃ n, raw = .int n := by
  rw [toScalar.eq_def] at h
  obtain ⟨_, hkind, h⟩ := Attempt.bind_eq_ok h
  rw [checkKind.eq_def] at hkind
  split at hkind
  · rename_i heq
    rw [KindRequest.known.inj heq] at hrange
    cases value with
    | none => cases hrange
    | string text => cases hrange
    | array element elements =>
      obtain ⟨items, hitems, h⟩ := Attempt.bind_eq_ok h
      rw [exactly] at hitems
      split at hitems
      · rename_i hlength
        cases hitems
        cases h
        cases elements with
        | nil => cases hlength
        | cons first rest =>
          cases element with
          | byte | int32 | int64 => exact ⟨_, rfl⟩
          | _ => cases hrange
      · cases hitems
  · cases hkind

theorem Datum.same_int (m n : Int) : Datum.same (.int m) (.int n) = (m == n) := by
  simp only [Datum.same, Datum.sameScalar, Datum.asInt?]

/-! ## Reading a value -/

theorem Definition.interpret_of_extract {d : Definition} {value : ControlValue} {payload : Datum}
    (h : value.extract d.descriptor = .ok payload) (id : Int) :
    d.interpret id value
      = if d.allows payload then .ok ⟨d, id, payload⟩ else .error (.unknownVariant value) := by
  rw [interpret, h]
  rfl

theorem Definition.interpret_of_error {d : Definition} {value : ControlValue} {e : ValueError}
    (h : value.extract d.descriptor = .error e) (id : Int) : d.interpret id value = .error e := by
  rw [interpret, h]
  rfl

namespace EntryClass

variable {c : EntryClass} {value : ControlValue}

theorem ofValue_wrapper (hform : c.form = .wrapper) :
    c.ofValue value = (value.extract c.descriptor).map (.wrapped c) := by
  rw [ofValue, hform]
  rfl

theorem ofValue_of_toScalar {members : Table String Int} (hform : c.form = .enumeration members)
    {raw : Datum} (h : value.toScalar c.descriptor.kind = .ok raw) :
    c.ofValue value = match c.memberOf? raw with
      | some (name, number) => .ok (.member c name number)
      | none => .error (.unknownVariant value) := by
  rw [ofValue, hform]
  simp only
  rw [h]
  rfl

theorem ofValue_of_error {members : Table String Int} (hform : c.form = .enumeration members)
    {e : ValueError} (h : value.toScalar c.descriptor.kind = .error e) :
    c.ofValue value = .error e := by
  rw [ofValue, hform]
  simp only
  rw [h]
  rfl

end EntryClass

/-! ## One value under one definition -/

section

variable {d : Definition} {enumerators : List Enumerator} (henum : d.enumeration = some enumerators)
include henum

theorem Bindings.entryForm_of_enumeration : Bindings.entryForm d
    = .enumeration (d.variants.map fun variant => (variant.2, variant.1.value)) :=
  if_pos (Definition.isEnum_of_enumeration henum)

/-- The member of a number is the first variant with the number. -/
theorem Bindings.memberOf?_classOf (runtime : LinkedRuntime) (category : Category) (raw : Datum) :
    (Bindings.classOf runtime category d).memberOf? raw
      = (d.variants.find? fun v => Datum.same (.int v.1.value) raw).map
        fun v => (v.2, v.1.value) := by
  have hmembers : (Bindings.classOf runtime category d).members
      = d.variants.map fun variant => (variant.2, variant.1.value) := by
    rw [EntryClass.members, Bindings.classOf, entryForm_of_enumeration henum]
  rw [EntryClass.memberOf?, hmembers, List.find?_map]
  rfl

/-- A member and the interpreted entry of its number look alike. -/
theorem alike_of_enumeration (hsound : d.IsSound enumerators) (runtime : LinkedRuntime)
    (category : Category) (value : ControlValue) :
    AlikeResults ((Bindings.classOf runtime category d).ofValue value)
      (d.interpret (runtime.idOf category d) value) := by
  obtain ⟨names, hnames, -⟩ := hsound.names
  obtain ⟨low, high, hrange, -⟩ := hsound.range
  have hform : (Bindings.classOf runtime category d).form
      = .enumeration (d.variants.map fun variant => (variant.2, variant.1.value)) :=
    Bindings.entryForm_of_enumeration henum
  have hkind : (Bindings.classOf runtime category d).descriptor.kind = d.kind := rfl
  have hextract := hsound.extract_eq value
  cases hraw : value.toScalar d.kind with
  | error e =>
    rw [EntryClass.ofValue_of_error hform (by rwa [hkind]),
      Definition.interpret_of_error (by rwa [hextract])]
    rfl
  | ok raw =>
    obtain ⟨n, rfl⟩ := ControlValue.int_of_toScalar hrange hraw
    rw [EntryClass.ofValue_of_toScalar hform (by rwa [hkind]),
      Definition.interpret_of_extract (by rwa [hextract]),
      Bindings.memberOf?_classOf henum runtime category (.int n),
      Definition.allows_eq (Definition.isEnum_of_enumeration henum) hnames (.int n)]
    cases hfind : d.variants.find? fun v => Datum.same (.int v.1.value) (.int n) with
    | none => rfl
    | some variant =>
      have hnumber : variant.1.value = n := by
        have hsame := List.find?_some hfind
        rw [Datum.same_int] at hsame
        exact eq_of_beq hsame
      have hvariant : InterpretedEntry.variant? ⟨d, runtime.idOf category d, .int n⟩
          = some variant.2 := by
        rw [InterpretedEntry.variant?, hfind]
        rfl
      refine ⟨rfl, rfl, ?_, ?_⟩
      · show d.name ++ "." ++ variant.2
          = InterpretedEntry.shown ⟨d, runtime.idOf category d, .int n⟩
        rw [InterpretedEntry.shown, hvariant]
      · show ControlValue.construct d.kind (.tuple [.int variant.1.value])
          = ControlValue.pack d.descriptor (.int n)
        rw [hsound.pack_eq, hnumber]

end

/-- Both ways to an entry fail alike or lead to entries that look alike. -/
theorem alike_of_accepted {d : Definition} (h : d.Accepted) (runtime : LinkedRuntime)
    (category : Category) (value : ControlValue) :
    AlikeResults ((Bindings.classOf runtime category d).ofValue value)
      (d.interpret (runtime.idOf category d) value) := by
  cases henum : d.enumeration with
  | some enumerators =>
    exact alike_of_enumeration henum (Definition.check_eq_ok_iff.1 h.check _ henum) runtime
      category value
  | none =>
    have hisEnum := Definition.isEnum_of_none henum
    have hform : (Bindings.classOf runtime category d).form = .wrapper := by
      rw [Bindings.classOf, Bindings.entryForm, hisEnum]
      rfl
    have hallows (payload : Datum) : d.allows payload = true := by
      rw [Definition.allows, hisEnum]
      rfl
    have hdescriptor : (Bindings.classOf runtime category d).descriptor = d.descriptor := rfl
    rw [EntryClass.ofValue_wrapper hform, hdescriptor]
    cases hpayload : value.extract d.descriptor with
    | error e =>
      rw [Definition.interpret_of_error hpayload]
      rfl
    | ok payload =>
      have hvariant : InterpretedEntry.variant? ⟨d, runtime.idOf category d, payload⟩ = none := by
        rw [InterpretedEntry.variant?, Definition.variants_eq_nil hisEnum]
        rfl
      rw [Definition.interpret_of_extract hpayload, hallows, if_pos rfl]
      refine ⟨rfl, rfl, ?_, rfl⟩
      show d.name ++ "(" ++ payload.shown ++ ")"
        = InterpretedEntry.shown ⟨d, runtime.idOf category d, payload⟩
      rw [InterpretedEntry.shown, hvariant]

/-! ## Whole categories -/

namespace Interpreter

variable {s : Snapshot} {category : Category} {runtime : LinkedRuntime} {enabled : String → Bool}

/-- The first constant that is missing ends the construction. -/
theorem ofSnapshot_of_missing {d : Definition}
    (h : (enabledDefinitions s category enabled).find? (fun d => !runtime.defines category d)
      = some d) :
    ofSnapshot s category runtime enabled = .error (.missing ⟨category, d.linkageName⟩) := by
  rw [ofSnapshot, LinkedRuntime.mapM_constant (fun id d => (id, d)) InterpreterError.missing
    ?_ ?_, h]
  · rfl
  · intro d id hd
    rw [hd]
  · intro d e hd
    rw [hd]

/-- Without a missing constant every enabled definition is kept under its
number. -/
theorem ofSnapshot_of_allowed
    (hallowed : ∀ d ∈ enabledDefinitions s category enabled, d.name ≠ Identifiers.forbiddenName)
    (h : (enabledDefinitions s category enabled).find? (fun d => !runtime.defines category d)
      = none) :
    ofSnapshot s category runtime enabled = .ok ⟨⟨category, (enabledDefinitions s category
      enabled).map fun d => (d.name, runtime.idOf category d)⟩, Table.ofPairs
        ((enabledDefinitions s category enabled).map fun d => (runtime.idOf category d, d))⟩ := by
  have hids := @Bindings.ofMembers?_named category (enabledDefinitions s category enabled)
    hallowed (runtime.idOf category)
  rw [ofSnapshot, LinkedRuntime.mapM_constant (fun id d => (id, d)) InterpreterError.missing
    ?_ ?_, h]
  · simp only [bind, Except.bind, List.map_map, Function.comp_def, hids]
    rfl
  · intro d id hd
    rw [hd]
  · intro d e hd
    rw [hd]

theorem ofSnapshot_of_defines
    (hallowed : ∀ d ∈ s.definitions category, d.name ≠ Identifiers.forbiddenName)
    (h : (enabledDefinitions s category enabled).find? (fun d => !runtime.defines category d)
      = none) :
    ofSnapshot s category runtime enabled = .ok ⟨⟨category, (enabledDefinitions s category
      enabled).map fun d => (d.name, runtime.idOf category d)⟩, Table.ofPairs
        ((enabledDefinitions s category enabled).map fun d => (runtime.idOf category d, d))⟩ :=
  ofSnapshot_of_allowed (fun d hd => hallowed d (Bindings.mem_enabledDefinitions.1 hd).1) h

end Interpreter

/-! ## Looking up numbers -/

theorem Bindings.makeEntry_of_get? {b : Bindings} {id : Int} {c : EntryClass}
    (h : b.dispatch.get? id = some c) (value : ControlValue) :
    b.makeEntry id value = (c.ofValue value).mapError .conversion := by
  rw [makeEntry, h]
  simp only
  cases c.ofValue value <;> rfl

theorem Bindings.makeEntry_of_none {b : Bindings} {id : Int} (h : b.dispatch.get? id = none)
    (value : ControlValue) : b.makeEntry id value = .error (.notFound ⟨id⟩) := by
  rw [makeEntry, h]

theorem Interpreter.makeEntry_of_get? {i : Interpreter} {id : Int} {d : Definition}
    (h : i.definitions.get? id = some d) (value : ControlValue) :
    i.makeEntry id value = (d.interpret id value).mapError .conversion := by
  rw [makeEntry, definition?, h]
  simp only
  cases d.interpret id value <;> rfl

theorem Interpreter.makeEntry_of_none {i : Interpreter} {id : Int}
    (h : i.definitions.get? id = none) (value : ControlValue) :
    i.makeEntry id value = .error (.notFound ⟨id⟩) := by
  rw [makeEntry, definition?, h]

/-- The runtime gives different numbers to different definitions. -/
def LinkedRuntime.Distinguishes (r : LinkedRuntime) (category : Category)
    (ds : List Definition) : Prop :=
  ∀ d ∈ ds, ∀ e ∈ ds, ∀ id, r.constant category d.linkageName = .ok id →
    r.constant category e.linkageName = .ok id → d = e

/-- Definitions that are told apart have numbers of their own. -/
theorem LinkedRuntime.Distinguishes.eq_of_idOf {r : LinkedRuntime} {category : Category}
    {ds : List Definition} (h : r.Distinguishes category ds)
    (hdefines : ∀ d ∈ ds, r.defines category d = true) :
    ∀ d ∈ ds, ∀ e ∈ ds, r.idOf category d = r.idOf category e → d = e := by
  intro d hd e he heq
  refine h d hd e he _ (LinkedRuntime.constant_of_defines (hdefines d hd)) ?_
  rw [heq]
  exact LinkedRuntime.constant_of_defines (hdefines e he)

/-- None of the definitions lacks a constant when the search for one that does fails. -/
theorem LinkedRuntime.find?_eq_none_iff {r : LinkedRuntime} {category : Category}
    {ds : List Definition} : ds.find? (fun d => !r.defines category d) = none ↔
      ∀ d ∈ ds, r.defines category d = true := by
  rw [List.find?_eq_none]
  refine forall₂_congr fun d _ => ?_
  rw [Bool.not_eq_true, Bool.not_eq_false']

section

variable {s : Snapshot} {category : Category} {context : ImportContext}

/-- Where numbers differ, both tables lead to the same definition. -/
theorem alike_makeEntry (haccepted : ∀ d ∈ s.definitions category, d.Accepted)
    (hinjective : ∀ d ∈ Interpreter.enabledDefinitions s category context.enabled,
      ∀ e ∈ Interpreter.enabledDefinitions s category context.enabled,
        context.runtime.idOf category d = context.runtime.idOf category e → d = e)
    (identifiers : Identifiers) (id : Int) (value : ControlValue) :
    AlikeResults ((Bindings.imported context s category).makeEntry id value)
      (Interpreter.makeEntry ⟨identifiers, Table.ofPairs
        ((Interpreter.enabledDefinitions s category context.enabled).map fun d =>
          (context.runtime.idOf category d, d))⟩ id value) := by
  have hmem {d : Definition} : d ∈ Bindings.dispatched context.enabled (s.definitions category) ↔
      d ∈ Interpreter.enabledDefinitions s category context.enabled :=
    Bindings.mem_dispatched.trans Bindings.mem_enabledDefinitions.symm
  by_cases hknown : ∃ d ∈ Interpreter.enabledDefinitions s category context.enabled,
      context.runtime.idOf category d = id
  · obtain ⟨d, hd, rfl⟩ := hknown
    have hclass := Table.get?_ofPairs_map (Bindings.classOf context.runtime category)
      (fun d hd e he => hinjective d (hmem.1 hd) e (hmem.1 he)) (hmem.2 hd)
    have hdefinition := Table.get?_ofPairs_map (fun d => d) hinjective hd
    have halike := alike_of_accepted (haccepted d (Bindings.mem_enabledDefinitions.1 hd).1)
      context.runtime category value
    rw [Bindings.makeEntry_of_get? hclass, Interpreter.makeEntry_of_get? hdefinition]
    exact halike.mapError DispatchError.conversion
  · have hclass := Table.get?_ofPairs_map_eq_none (Bindings.classOf context.runtime category)
      fun d hd heq => hknown ⟨d, hmem.1 hd, heq⟩
    have hdefinition := Table.get?_ofPairs_map_eq_none (fun d => d)
      fun d hd heq => hknown ⟨d, hd, heq⟩
    rw [Bindings.makeEntry_of_none hclass, Interpreter.makeEntry_of_none hdefinition]
    rfl

end

/-- The text of a snapshot is imported without a fault when no constant is missing and no name is
forbidden. -/
theorem Bindings.importText_of_generate {s : Snapshot} (hs : s.Accepted)
    (hversion : s.version.IsWritten) {category : Category} {text : String}
    (hgenerate : generate s category = .ok text) {context : ImportContext}
    (hallowed : ∀ d ∈ Interpreter.enabledDefinitions s category context.enabled,
      d.name ≠ Identifiers.forbiddenName)
    (hfind : (Interpreter.enabledDefinitions s category context.enabled).find?
      (fun d => !context.runtime.defines category d) = none) :
    importText context text = .ok (imported context s category) := by
  obtain ⟨hnamed, -, hread⟩ := program_of_generate hversion (hs.definitions category) hgenerate
  rw [importText_of_read? hread]
  exact run_program_of_allowed hnamed.nodup hallowed hfind

/-- An imported module and an interpreter over the same runtime and features
stop at the same missing constant, or both lead every number and value to the
same error or to entries that look alike. -/
theorem Interpreter.ofSnapshot_agrees_importText {s : Snapshot} (hs : s.Accepted)
    (hversion : s.version.IsWritten) {category : Category}
    (hallowed : ∀ d ∈ s.definitions category, d.name ≠ Identifiers.forbiddenName) {text : String}
    (hgenerate : Bindings.generate s category = .ok text) (runtime : LinkedRuntime)
    (enabled : String → Bool)
    (hdistinct : runtime.Distinguishes category (enabledDefinitions s category enabled)) :
    (∀ d, (enabledDefinitions s category enabled).find?
        (fun d => !runtime.defines category d) = some d →
      Bindings.importText ⟨runtime, enabled⟩ text = .error (.missing ⟨category, d.linkageName⟩) ∧
      ofSnapshot s category runtime enabled = .error (.missing ⟨category, d.linkageName⟩)) ∧
    ((enabledDefinitions s category enabled).find?
        (fun d => !runtime.defines category d) = none →
      ∃ b i, Bindings.importText ⟨runtime, enabled⟩ text = .ok b ∧
        ofSnapshot s category runtime enabled = .ok i ∧
        ∀ id value, AlikeResults (b.makeEntry id value) (i.makeEntry id value)) := by
  obtain ⟨hnamed, -, hread⟩ :=
    Bindings.program_of_generate hversion (hs.definitions category) hgenerate
  have himport : Bindings.importText ⟨runtime, enabled⟩ text
      = Bindings.run ⟨runtime, enabled⟩ (Layout.program s category) Bindings.empty :=
    Bindings.importText_of_read? hread
  refine ⟨fun d hfind => ⟨?_, ofSnapshot_of_missing hfind⟩, fun hfind =>
    ⟨Bindings.imported ⟨runtime, enabled⟩ s category, _, ?_,
      ofSnapshot_of_defines hallowed hfind, fun id value => ?_⟩⟩
  · rw [himport, Bindings.run_program_of_missing hfind]
  · rw [himport, Bindings.run_program_of_defines hnamed.nodup hallowed hfind]
  · exact alike_makeEntry (hs.definitions category)
      (hdistinct.eq_of_idOf (LinkedRuntime.find?_eq_none_iff.1 hfind)) _ id value

/-- A runtime with the numbers of both controls of the sample. -/
def LinkedRuntime.sample : LinkedRuntime :=
  ⟨none, [("AE_ENABLE", 1), ("SYNC_MODE", 20001)], []⟩

theorem LinkedRuntime.distinguishes_sample :
    LinkedRuntime.sample.Distinguishes .controls (Bindings.sample.definitions .controls) := by
  have hconstants : ∀ d ∈ Bindings.sample.definitions .controls,
      ∀ e ∈ Bindings.sample.definitions .controls,
        LinkedRuntime.sample.constant .controls d.linkageName
          = LinkedRuntime.sample.constant .controls e.linkageName → d = e := by
    decide
  exact fun d hd e he id hdid heid => hconstants d hd e he (hdid.trans heid.symm)

theorem Interpreter.ofSnapshot_agrees_importText_sample :
    ∃ b i, Bindings.importText ⟨.sample, fun _ => true⟩ (Layout.text Bindings.sample .controls)
        = .ok b ∧
      ofSnapshot Bindings.sample .controls .sample (fun _ => true) = .ok i ∧
      ∀ id value, AlikeResults (b.makeEntry id value) (i.makeEntry id value) := by
  exact (ofSnapshot_agrees_importText Bindings.accepted_sample Bindings.isWritten_sample
    (by decide) Bindings.generate_sample .sample (fun _ => true)
    LinkedRuntime.distinguishes_sample).2 (by decide)

/-! ## Versions that are no titles -/

namespace Bindings

open Source Source.Token

/-- The version ends the docstring of the module and has a statement behind it. -/
def raising : Snapshot where
  version := ⟨1, 0, 0, ["\"\"\"\nraise ValueError\n\"\"\""]⟩
  controls := [⟨"AeEnable", "libcamera", .bool, "", .scalar, none⟩]
  properties := []

theorem accepted_raising : raising.Accepted :=
  Snapshot.accepted_of_controls
    (List.forall_mem_singleton.2 (Definition.accepted_of_core (by decide))) (by decide)

/-- What the source of the snapshot begins with instead of its docstring. -/
def raisingFront : List Statement := [
  .expression (.text "Generated controls catalogue for libcamera 1.0.0-"),
  .raising (some (.name "ValueError")) none,
  .expression (.text ".\n\nDo not edit: regenerate with ``camctl generate``.\n")]

/-- The rows of that title. -/
def raisingRows : List String := [
  "\"\"\"Generated controls catalogue for libcamera 1.0.0-\"\"\"", "raise ValueError",
  "\"\"\".", "",
  "Do not edit: regenerate with ``camctl generate``.", "\"\"\""]

theorem says_raisingRows : Says 0 raisingRows (some raisingFront) := by
  have hfirst := @Layout.says_framed 0
    ["\"\"\"Generated controls catalogue for libcamera 1.0.0-\"\"\""]
    "Generated controls catalogue for libcamera 1.0.0-".toList (by decide)
    (isFrameable_of_all (by decide))
  have hraise := @Layout.says_fixed 0 "raise ValueError" [.word "raise", .word "ValueError"] _
    (by decide) (by decide) rfl rfl
  have hlast := @Layout.says_framed 0
    ["\"\"\".", "", "Do not edit: regenerate with ``camctl generate``.", "\"\"\""]
    ".\n\nDo not edit: regenerate with ``camctl generate``.\n".toList (by decide)
    (isFrameable_of_all (by decide))
  have hall := hfirst.append_some (hraise.append_some hlast)
  simp only [String.ofList_toList] at hall
  exact hall

theorem read?_raising : read? (Layout.text raising .controls)
    = some (raisingFront ++ (Layout.program raising .controls).tail) := by
  have hnull : '\x00' ∉ (Layout.text raising .controls).toList :=
    Layout.null_not_mem_text (by decide +kernel)
  have hds : ∀ d ∈ raising.definitions .controls, d.Writable := 
    List.forall_mem_singleton.2 ⟨Definition.accepted_of_core (by decide),
      (by decide : Naming.isPlainName "AeEnable".toList = true), by decide⟩
  have hpage : (Layout.text raising .controls).toList
      = page (raisingRows ++ (Layout.fullRows raising .controls).drop 4) := by
    have hversion : raising.version.text = "1.0.0-\"\"\"\nraise ValueError\n\"\"\"" := by
      decide +kernel
    rw [Layout.toList_text, ← List.take_append_drop 4 (Layout.fullRows raising .controls),
      page_append, page_append]
    refine congrArg (· ++ _) ?_
    show page ["\"\"\"Generated " ++ Category.controls.word ++ " catalogue for libcamera "
      ++ raising.version.text ++ ".", "", "Do not edit: regenerate with ``camctl generate``.",
      "\"\"\""] = _
    rw [hversion]
    simp [page, raisingRows, Category.word]
  have hsays := says_raisingRows.append_some (Layout.says_behind_title hds)
  exact read?_of_says hpage hnull hsays

/-- The source is generated. With the statement in front of its imports it is no module, and yet
there is an interpreter. -/
theorem importText_raising : raising.Accepted ∧
    generate raising .controls = .ok (Layout.text raising .controls) ∧
    importText ⟨.sample, fun _ => true⟩ (Layout.text raising .controls) = .error .unreadable ∧
    (Interpreter.ofSnapshot raising .controls .sample fun _ => true).isOk = true := by
  refine ⟨accepted_raising, ?_, ?_, by decide +kernel⟩
  · have hguards : (GatingMap.ofStatements .controls
        (raisingFront ++ (Layout.program raising .controls).tail)).mismatched.isEmpty = true := by
      decide +kernel
    rcases generate_cases raising .controls with ⟨e, hnames, -⟩ | ⟨-, hlong, -⟩ | ⟨-, -, hnone, -⟩ |
      ⟨statements, -, -, hread, hgenerate⟩
    · cases hnames
    · cases hlong
    · rw [read?_raising] at hnone
      cases hnone
    · obtain rfl := Option.some.inj (read?_raising.symm.trans hread)
      rw [hgenerate, if_pos hguards]
  · rw [importText, read?_raising]
    rfl

end Bindings

end ControlSchema
