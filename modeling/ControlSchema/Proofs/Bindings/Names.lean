import ControlSchema.Proofs.Bindings.Acceptance
import ControlSchema.Proofs.Registry
import ControlSchema.Readers.Standard

/-!
# Names that generation lets through

Generation refuses names that its own text needs. Whether it refuses enough
shows when the module is imported and its registry is asked. Two names of
controls are missed: one that the catalogue cannot have as a member, which ends
the import, and one whose member hides the operation of looking up, after which
no item is described at all.

Nothing else is missed. Where no enabled control has one of the two names, each
value that fits its definition is described by an entry of the class that was
generated for it, whatever the other names are. That a value fits is enough
here: whether its numbers are defined matters only on the way back.
-/

namespace ControlSchema

/-! ## Entries of a class -/

/-- A class makes entries of its own. -/
theorem EntryClass.entryClass_of_ofValue {c : EntryClass} {value : ControlValue} {entry : Entry}
    (h : c.ofValue value = .ok entry) : entry.entryClass = c := by
  cases hform : c.form with
  | wrapper =>
    rw [ofValue_wrapper hform] at h
    cases hpayload : value.extract c.descriptor with
    | error e =>
      rw [hpayload] at h
      cases h
    | ok payload =>
      rw [hpayload] at h
      cases h
      rfl
  | enumeration members =>
    cases hraw : value.toScalar c.descriptor.kind with
    | error e =>
      rw [ofValue_of_error hform hraw] at h
      cases h
    | ok raw =>
      rw [ofValue_of_toScalar hform hraw] at h
      split at h
      · cases h
        rfl
      · cases h

namespace Bindings

/-- The class of a definition has an entry for each value that fits. -/
theorem ofValue_classOf_of_fits {d : Definition} (haccepted : d.Accepted)
    (hpos : d.shape.IsPositive) (runtime : LinkedRuntime) (category : Category)
    {value : ControlValue} (h : d.Fits value) :
    ∃ entry, (classOf runtime category d).ofValue value = .ok entry ∧
      entry.entryClass = classOf runtime category d := by
  obtain ⟨interpreted, hinterpret, -⟩ :=
    Definition.interpret_of_fits haccepted hpos (runtime.idOf category d) h
  have halike := alike_of_accepted haccepted runtime category value
  rw [hinterpret] at halike
  cases hentry : (classOf runtime category d).ofValue value with
  | error e =>
    rw [hentry] at halike
    exact halike.elim
  | ok entry => exact ⟨entry, rfl, EntryClass.entryClass_of_ofValue hentry⟩

/-! ## The registry of an imported module -/

section

variable {s : Snapshot} {category : Category} {runtime : LinkedRuntime} {enabled : String → Bool}

/-- The registry over what the program of a snapshot leaves. -/
def importedRegistry (runtime : LinkedRuntime) (enabled : String → Bool) (s : Snapshot)
    (category : Category) : Registry Entry where
  identifiers := ⟨category, (Interpreter.enabledDefinitions s category enabled).map
    fun d => (d.name, runtime.idOf category d)⟩
  dispatch := (imported ⟨runtime, enabled⟩ s category).makeEntry

theorem registry?_imported : Bindings.registry? (imported ⟨runtime, enabled⟩ s category)
    = some (importedRegistry runtime enabled s category) := rfl

/-- A member with the name of the operation hides it for all numbers. -/
theorem describe_of_hidden (hhidden : ∃ d ∈ Interpreter.enabledDefinitions s category enabled,
    d.name = Identifiers.hidingName) (id : Int) (value : ControlValue) :
    (importedRegistry runtime enabled s category).describe id value = .error .noLookup := by
  have hlookup :
      ¬ (importedRegistry runtime enabled s category).identifiers.canLookUp = true := by
    intro hshown
    obtain ⟨d, hd, hname⟩ := hhidden
    exact Identifiers.canLookUp_named.1 hshown d hd hname
  rw [Registry.describe, Registry.lookup, if_neg hlookup]
  rfl

section

variable (hinjective : ∀ d ∈ Interpreter.enabledDefinitions s category enabled,
  ∀ e ∈ Interpreter.enabledDefinitions s category enabled,
    runtime.idOf category d = runtime.idOf category e → d = e)
include hinjective

/-- The table leads from the number of a definition to its class. -/
theorem get?_dispatch_imported {d : Definition}
    (hd : d ∈ Interpreter.enabledDefinitions s category enabled) :
    (imported ⟨runtime, enabled⟩ s category).dispatch.get? (runtime.idOf category d)
      = some (classOf runtime category d) := by
  have hmem {e : Definition} : e ∈ dispatched enabled (s.definitions category) ↔
      e ∈ Interpreter.enabledDefinitions s category enabled :=
    mem_dispatched.trans mem_enabledDefinitions.symm
  exact Table.get?_ofPairs_map (classOf runtime category)
    (fun e he f hf => hinjective e (hmem.1 he) f (hmem.1 hf)) (hmem.2 hd)

theorem describe_of_shown (hs : s.Accepted) (hentries : ∀ d ∈ s.definitions category, d.OfSchema)
    (hshown : ∀ d ∈ Interpreter.enabledDefinitions s category enabled,
      d.name ≠ Identifiers.hidingName)
    {d : Definition} (hd : d ∈ Interpreter.enabledDefinitions s category enabled)
    {value : ControlValue} (hfits : d.Fits value) :
    ∃ entry, (importedRegistry runtime enabled s category).describe (runtime.idOf category d) value
        = .ok (.typed entry) ∧ entry.entryClass = classOf runtime category d := by
  obtain ⟨hmem, -⟩ := mem_enabledDefinitions.1 hd
  obtain ⟨entry, hentry, hclass⟩ := ofValue_classOf_of_fits (hs.definitions category d hmem)
    (hentries d hmem).isPositive runtime category hfits
  have hname : (importedRegistry runtime enabled s category).lookup (runtime.idOf category d)
      = .ok (some d.name) := by
    rw [Registry.lookup]
    refine (if_pos (Identifiers.canLookUp_named.2 hshown)).trans ?_
    exact congrArg Except.ok (Identifiers.nameOf?_named hinjective hd)
  have hmake : (importedRegistry runtime enabled s category).dispatch (runtime.idOf category d)
      value = .ok entry := by
    refine (makeEntry_of_get? (get?_dispatch_imported hinjective hd) value).trans ?_
    rw [hentry]
    rfl
  refine ⟨entry, ?_, hclass⟩
  rw [Registry.describe, hname]
  simp only [bind, Except.bind, hmake]
  rfl

end

/-! ## Every accepted snapshot -/

/-- A module that was generated is imported unless an enabled control has the name that no member
can have. Its registry then describes each value that fits its definition by an entry of the class
of the definition, unless an enabled control has the name that hides the operation: then it
describes nothing. -/
theorem describe_of_fits (hs : s.Accepted) (hversion : s.version.IsWritten)
    (hentries : ∀ d ∈ s.definitions category, d.OfSchema) {text : String}
    (hgenerate : generate s category = .ok text)
    (hdefines : ∀ d ∈ Interpreter.enabledDefinitions s category enabled,
      runtime.defines category d = true)
    (hdistinct : runtime.Distinguishes category
      (Interpreter.enabledDefinitions s category enabled)) :
    ((∃ d ∈ Interpreter.enabledDefinitions s category enabled,
        d.name = Identifiers.forbiddenName) →
      importText ⟨runtime, enabled⟩ text = .error .forbiddenName) ∧
    ((∀ d ∈ Interpreter.enabledDefinitions s category enabled,
        d.name ≠ Identifiers.forbiddenName) →
      ∃ b r, importText ⟨runtime, enabled⟩ text = .ok b ∧ b.registry? = some r ∧
        ((∀ d ∈ Interpreter.enabledDefinitions s category enabled,
            d.name ≠ Identifiers.hidingName) →
          ∀ d ∈ Interpreter.enabledDefinitions s category enabled, ∀ value, d.Fits value →
            ∃ entry, r.describe (runtime.idOf category d) value = .ok (.typed entry) ∧
              entry.entryClass = classOf runtime category d) ∧
        ((∃ d ∈ Interpreter.enabledDefinitions s category enabled,
            d.name = Identifiers.hidingName) →
          ∀ id value, r.describe id value = .error .noLookup)) := by
  obtain ⟨hnamed, -, hread⟩ := program_of_generate hversion (hs.definitions category) hgenerate
  have himport : importText ⟨runtime, enabled⟩ text
      = run ⟨runtime, enabled⟩ (Layout.program s category) empty := importText_of_read? hread
  have hfind := LinkedRuntime.find?_eq_none_iff.2 hdefines
  have hinjective := hdistinct.eq_of_idOf hdefines
  refine ⟨fun hforbidden => ?_, fun hallowed =>
    ⟨imported ⟨runtime, enabled⟩ s category, _, ?_, registry?_imported, ?_, ?_⟩⟩
  · rw [himport, run_program_of_forbidden hnamed.nodup hforbidden hfind]
  · rw [himport, run_program_of_allowed hnamed.nodup hallowed hfind]
  · exact fun hshown d hd value hfits =>
      describe_of_shown hinjective hs hentries hshown hd hfits
  · exact describe_of_hidden

end

/-- A switch that fits the control of the sample becomes an entry of its class. -/
theorem describe_of_fits_sample : ∃ b r,
    importText ⟨.sample, fun _ => true⟩ (Layout.text sample .controls) = .ok b ∧
    b.registry? = some r ∧ ∃ entry, r.describe 1 (.array .bool [true]) = .ok (.typed entry) ∧
      entry.entryClass.name = "AeEnable" := by
  obtain ⟨b, r, himport, hregistry, htyped, -⟩ :=
    (@describe_of_fits sample .controls .sample (fun _ => true) accepted_sample
      isWritten_sample ofSchema_sample _ generate_sample (by decide)
      LinkedRuntime.distinguishes_sample).2 (by decide)
  refine ⟨b, r, himport, hregistry, ?_⟩
  obtain ⟨entry, hentry, hclass⟩ := htyped (by decide) _ List.mem_cons_self (.array .bool [true])
    ⟨⟨rfl, fun _ n hn => Option.some.inj hn⟩, nofun⟩
  exact ⟨entry, hentry, congrArg EntryClass.name hclass⟩

/-! ## The two names -/

/-- A snapshot with one switch of the core vendor. -/
def single (name : String) : Snapshot where
  version := ⟨0, 1, 0, []⟩
  controls := [⟨name, "libcamera", .bool, "", .scalar, none⟩]
  properties := []

/-- A single switch is accepted, and its module is generated. -/
structure Passes (name : String) : Prop where
  accepted : (single name).Accepted
  version : (single name).version.IsWritten
  ofSchema : ∀ d ∈ (single name).definitions .controls, d.OfSchema
  generate : generate (single name) .controls = .ok (Layout.text (single name) .controls)

/-- What is asked of the name of a single switch. -/
theorem passes_of_name {name : String} (hname : Naming.isPlainName name.toList = true)
    (hreserved : isReservedName name = false) : Passes name := by
  have hschema : Naming.isSchemaName name = true := Bool.or_eq_true_iff.2 (Or.inl hname)
  have haccepted : (single name).Accepted :=
    Snapshot.accepted_of_controls
      (List.forall_mem_singleton.2 (Definition.accepted_of_core hschema)) (List.nodup_singleton _)
  have hversion : (single name).version.IsWritten := Version.isWritten_of_pre_eq_nil rfl
  have hentry : @Definition.ofEntry .standard (.text name)
      (.dict [(.text "type", .text "bool")]) .null
      = .ok ⟨name, "libcamera", .bool, "", .scalar, none⟩ := by
    have hread : Definition.readName (.text name) = .ok name := by
      have htext : (Datum.text name).plainIfPresent = name := by
        refine if_pos ?_
        show (!name.isEmpty) = true
        rw [Bool.not_eq_true', ← Bool.not_eq_true, String.isEmpty_iff]
        rintro rfl
        cases hname
      have hcheck (what : String) : Naming.checkName what (.text name) = .ok name := if_pos hschema
      have hwritable : (Datum.text name).isWritable = true := rfl
      rw [Definition.readName, readWritten, if_pos hwritable, htext, hcheck]
    show (Definition.ofParts (.text name) (.text "libcamera") .bool "" .scalar none).mapError
      EntryError.invalid = _
    rw [Definition.ofParts, hread]
    rfl
  have hchecked : checkNames [] ((single name).definitions .controls) = .ok () := by
    show checkNames [] (single name).controls = .ok ()
    rw [single, checkNames, hreserved]
    rfl
  have hshort : isWritable (single name) .controls = true :=
    Bool.and_eq_true_iff.2 ⟨(by decide : Version.isWritable ⟨0, 1, 0, []⟩ = true), rfl⟩
  have hwritable : ∀ d ∈ (single name).definitions .controls, d.Writable :=
    List.forall_mem_singleton.2 ⟨Definition.accepted_of_core hschema, hname,
      (Bool.or_eq_false_iff.1 hreserved).1⟩
  refine ⟨haccepted, hversion, List.forall_mem_singleton.2 ⟨_, _, _, _, hentry⟩,
    (generate_eq_ok_iff haccepted hversion).2
      ⟨hchecked, hshort, ⟨fun d hd => (hwritable d hd).plain, ?_, ?_⟩, rfl⟩⟩
  · have hdoc : Source.Docstring.isClosed "" = true := by decide +kernel
    exact List.forall_mem_singleton.2 (Bool.and_eq_true_iff.2 ⟨hdoc, rfl⟩)
  · exact Layout.nullFree_text (Layout.nullFree_version hversion) hwritable
      (List.forall_mem_singleton.2 ⟨(by decide : NullFree ""), List.forall_mem_nil _⟩)

theorem Passes.importText_eq {name : String} (h : Passes name) (context : ImportContext) :
    importText context (Layout.text (single name) .controls)
      = run context (Layout.program (single name) .controls) empty := by
  obtain ⟨-, -, hread⟩ := program_of_generate h.version
    (h.accepted.definitions .controls) h.generate
  exact importText_of_read? hread

/-- A runtime with one constant, and every feature. -/
def oneConstant (constant : String) : ImportContext := ⟨⟨none, [(constant, 1)], []⟩, fun _ => true⟩

/-- Neither name is refused, and neither does: the one ends the import, the other leaves a registry
that describes nothing. -/
theorem describe_mro_lookup :
    (Passes "mro" ∧ importText (oneConstant "MRO") (Layout.text (single "mro") .controls)
      = .error .forbiddenName) ∧
    Passes "lookup" ∧ ∃ b r,
      importText (oneConstant "LOOKUP") (Layout.text (single "lookup") .controls) = .ok b ∧
      b.registry? = some r ∧ r.describe 1 (.array .bool [true]) = .error .noLookup := by
  have hmro : Passes "mro" := passes_of_name (by decide) (by decide)
  have hlookup : Passes "lookup" := passes_of_name (by decide) (by decide)
  have himport : importText (oneConstant "LOOKUP") (Layout.text (single "lookup") .controls)
      = .ok (imported (oneConstant "LOOKUP") (single "lookup") .controls) := by
    rw [hlookup.importText_eq]
    exact run_program_of_allowed (List.nodup_singleton _) (by decide) (by decide)
  refine ⟨⟨hmro, ?_⟩, hlookup, _, _, himport, registry?_imported, ?_⟩
  · rw [hmro.importText_eq]
    exact run_program_of_forbidden (List.nodup_singleton _) (by decide) (by decide)
  · exact describe_of_hidden (by decide) 1 _

end Bindings

end ControlSchema
