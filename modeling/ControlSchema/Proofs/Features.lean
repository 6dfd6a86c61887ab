import ControlSchema.Proofs.Interpreter

/-!
# Enabling more features

A feature that is enabled in addition opens numbers that were unknown and changes nothing else. Both
ways to typed entries come down to one fact: a number leads to the definition that has it, if that
definition is enabled, and what is made of a value depends on the definition and on no feature.

The order of the tables does not matter for this, although it differs between the two ways and
changes with the features: no two definitions share a number, so nothing is ever written twice.
-/

namespace ControlSchema

variable {E : Type}

/-! ## Dispatch over definitions -/

/-- Every number leads to the definition that has it, and other numbers are unknown. -/
structure Dispatches (ds : List Definition) (number : Definition → Int)
    (answer : Definition → ControlValue → Except ValueError E)
    (make : Int → ControlValue → Except DispatchError E) : Prop where
  known {d : Definition} (hd : d ∈ ds) (value : ControlValue) :
    make (number d) value = (answer d value).mapError .conversion
  unknown {id : Int} (h : ∀ d ∈ ds, number d ≠ id) (value : ControlValue) :
    make id value = .error (.notFound ⟨id⟩)

/-- Whether a number and a value end in a number that nobody knows. -/
def IsUnknown (result : Except DispatchError E) : Prop := ∃ e, result = .error (.notFound e)

theorem not_isUnknown_mapError (x : Except ValueError E) :
    ¬ IsUnknown (x.mapError DispatchError.conversion) := by
  rintro ⟨e, he⟩
  cases x <;> cases he

theorem Dispatches.isUnknown_iff {ds : List Definition} {number : Definition → Int}
    {answer : Definition → ControlValue → Except ValueError E}
    {make : Int → ControlValue → Except DispatchError E} (h : Dispatches ds number answer make)
    (id : Int) (value : ControlValue) :
    IsUnknown (make id value) ↔ ∀ d ∈ ds, number d ≠ id := by
  refine ⟨?_, fun hid => ⟨_, h.unknown hid value⟩⟩
  rintro hunknown d hd rfl
  rw [h.known hd] at hunknown
  exact not_isUnknown_mapError _ hunknown

/-- An error of the class is raised. -/
def Raises (result : Except DispatchError E) (c : ErrorClass) : Prop :=
  ∃ e, result = .error e ∧ e.errorClass = c

theorem Raises.unique {result : Except DispatchError E} {c c' : ErrorClass} (h : Raises result c)
    (h' : Raises result c') : c = c' := by
  obtain ⟨e, rfl, rfl⟩ := h
  obtain ⟨e', heq, rfl⟩ := h'
  cases heq
  rfl

/-- Nothing is found for the number, which is raised as such unless the number is too long to be
told. -/
def Misses (id : Int) (result : Except DispatchError E) : Prop :=
  result = .error (.notFound ⟨id⟩) ∧ Raises result (ErrorClass.notFound.raised [id])

theorem Dispatches.misses {ds : List Definition} {number : Definition → Int}
    {answer : Definition → ControlValue → Except ValueError E}
    {make : Int → ControlValue → Except DispatchError E} (h : Dispatches ds number answer make)
    {id : Int} (hid : ∀ d ∈ ds, number d ≠ id) (value : ControlValue) : Misses id (make id value) :=
  ⟨h.unknown hid value, _, h.unknown hid value, rfl⟩

/-! ## Wider sets of features -/

/-- More features are enabled for the second way to entries than for the first. What the first makes
the second makes as well, down to the errors; it is only where the first knows no number that they
may part, and they do so at the numbers of definitions whose feature is new. -/
structure Widens (ds : List Definition) (number : Definition → Int)
    (enabled enabled' : String → Bool) (make make' : Int → ControlValue → Except DispatchError E) :
    Prop where
  kept (id : Int) (value : ControlValue) (h : ¬ IsUnknown (make id value)) :
    make' id value = make id value
  told (id : Int) (value : ControlValue) (h : IsUnknown (make id value)) : Misses id (make id value)
  gained (id : Int) (value : ControlValue) (h : make' id value ≠ make id value) :
    IsUnknown (make id value) ∧ ∃ d ∈ ds, number d = id ∧ ∃ feature,
      d.feature = some feature ∧ enabled feature = false ∧ enabled' feature = true
  opened {d : Definition} (hd : d ∈ ds) {feature : String} (hfeature : d.feature = some feature)
    (hold : enabled feature = false) (hnew : enabled' feature = true) (value : ControlValue) :
    IsUnknown (make (number d) value) ∧ ¬ IsUnknown (make' (number d) value)

namespace Definition

variable {d : Definition} {enabled enabled' : String → Bool}

theorem isEnabled_of_subset (hsubset : ∀ feature, enabled feature = true → enabled' feature = true)
    (h : d.isEnabled enabled = true) : d.isEnabled enabled' = true := by
  rw [isEnabled] at h ⊢
  cases hfeature : d.feature with
  | none => rfl
  | some feature =>
    rw [hfeature] at h
    exact hsubset feature h

theorem isEnabled_of_feature {feature : String} (h : d.feature = some feature) :
    d.isEnabled enabled = enabled feature := by
  rw [isEnabled, h]
  rfl

/-- A definition that becomes enabled belongs to a feature that does. -/
theorem exists_feature (h : d.isEnabled enabled = false) (h' : d.isEnabled enabled' = true) :
    ∃ feature, d.feature = some feature ∧ enabled feature = false ∧ enabled' feature = true := by
  cases hfeature : d.feature with
  | none =>
    rw [isEnabled, hfeature] at h
    cases h
  | some feature =>
    rw [isEnabled_of_feature hfeature] at h h'
    exact ⟨feature, rfl, h, h'⟩

end Definition

section

variable {ds : List Definition} {number : Definition → Int}
  {answer : Definition → ControlValue → Except ValueError E}
  {make make' : Int → ControlValue → Except DispatchError E} {enabled enabled' : String → Bool}

theorem Dispatches.widens
    (hdistinct : ∀ d ∈ ds, ∀ e ∈ ds, number d = number e → d = e)
    (h : Dispatches (ds.filter fun d => d.isEnabled enabled) number answer make)
    (h' : Dispatches (ds.filter fun d => d.isEnabled enabled') number answer make')
    (hsubset : ∀ feature, enabled feature = true → enabled' feature = true) :
    Widens ds number enabled enabled' make make' := by
  have hkept (id : Int) (value : ControlValue) (hknown : ¬ IsUnknown (make id value)) :
      make' id value = make id value := by
    rw [h.isUnknown_iff] at hknown
    push Not at hknown
    obtain ⟨d, hd, rfl⟩ := hknown
    obtain ⟨hmem, henabled⟩ := List.mem_filter.1 hd
    have hd' : d ∈ ds.filter fun d => d.isEnabled enabled' :=
      List.mem_filter.2 ⟨hmem, Definition.isEnabled_of_subset hsubset henabled⟩
    rw [h.known hd, h'.known hd']
  refine ⟨hkept, fun id value hunknown =>
    h.misses ((h.isUnknown_iff id value).1 hunknown) value, fun id value hne => ?_,
    fun {d} hd {feature} hfeature hold hnew value => ?_⟩
  · have hunknown : IsUnknown (make id value) := by
      by_contra hknown
      exact hne (hkept id value hknown)
    have hnone := (h.isUnknown_iff id value).1 hunknown
    have hsome : ¬ IsUnknown (make' id value) := fun hunknown' => hne (by
      rw [h.unknown hnone, h'.unknown ((h'.isUnknown_iff id value).1 hunknown')])
    rw [h'.isUnknown_iff] at hsome
    push Not at hsome
    obtain ⟨d, hd, rfl⟩ := hsome
    obtain ⟨hmem, henabled'⟩ := List.mem_filter.1 hd
    have henabled : d.isEnabled enabled = false := by
      rw [Bool.eq_false_iff]
      exact fun henabled => hnone d (List.mem_filter.2 ⟨hmem, henabled⟩) rfl
    exact ⟨hunknown, d, hmem, rfl, Definition.exists_feature henabled henabled'⟩
  · rw [h.isUnknown_iff, h'.isUnknown_iff]
    refine ⟨fun e he heq => ?_, fun hall => hall d (List.mem_filter.2 ⟨hd, ?_⟩) rfl⟩
    · -- Another definition under the number would be this one, which is not enabled.
      obtain ⟨hmem, henabled⟩ := List.mem_filter.1 he
      rw [hdistinct e hmem d hd heq, Definition.isEnabled_of_feature hfeature, hold] at henabled
      cases henabled
    · rwa [Definition.isEnabled_of_feature hfeature]

end

/-! ## Both ways to entries -/

section

variable {s : Snapshot} {category : Category} {runtime : LinkedRuntime} {enabled : String → Bool}

section

variable (hdistinct : ∀ d ∈ Interpreter.enabledDefinitions s category enabled,
  ∀ e ∈ Interpreter.enabledDefinitions s category enabled,
    runtime.idOf category d = runtime.idOf category e → d = e)
include hdistinct

theorem Interpreter.dispatches_enabled (identifiers : Identifiers) :
    Dispatches (enabledDefinitions s category enabled) (runtime.idOf category)
      (fun d value => d.interpret (runtime.idOf category d) value)
      (Interpreter.makeEntry ⟨identifiers, Table.ofPairs
        ((enabledDefinitions s category enabled).map fun d => (runtime.idOf category d, d))⟩) where
  known {_} hd value :=
    Interpreter.makeEntry_of_get? (Table.get?_ofPairs_map (fun d => d) hdistinct hd) value
  unknown h value :=
    Interpreter.makeEntry_of_none (Table.get?_ofPairs_map_eq_none (fun d => d) h) value

theorem Bindings.dispatches_enabled :
    Dispatches (Interpreter.enabledDefinitions s category enabled) (runtime.idOf category)
      (fun d value => (classOf runtime category d).ofValue value)
      (imported ⟨runtime, enabled⟩ s category).makeEntry where
  known {d} hd value := by
    have hmem {e : Definition} (he : e ∈ dispatched enabled (s.definitions category)) :
        e ∈ Interpreter.enabledDefinitions s category enabled :=
      mem_enabledDefinitions.2 (mem_dispatched.1 he)
    have hd' : d ∈ dispatched enabled (s.definitions category) :=
      mem_dispatched.2 (mem_enabledDefinitions.1 hd)
    refine makeEntry_of_get? (Table.get?_ofPairs_map (classOf runtime category) ?_ hd') value
    exact fun d hd e he => hdistinct d (hmem hd) e (hmem he)
  unknown h value := by
    refine makeEntry_of_none (Table.get?_ofPairs_map_eq_none (classOf runtime category) ?_) value
    exact fun d hd => h d (mem_enabledDefinitions.2 (mem_dispatched.1 hd))

end

variable (hdistinct : ∀ d ∈ s.definitions category, ∀ e ∈ s.definitions category,
    runtime.idOf category d = runtime.idOf category e → d = e)
include hdistinct

theorem Interpreter.dispatches (identifiers : Identifiers) :
    Dispatches (enabledDefinitions s category enabled) (runtime.idOf category)
      (fun d value => d.interpret (runtime.idOf category d) value)
      (Interpreter.makeEntry ⟨identifiers, Table.ofPairs
        ((enabledDefinitions s category enabled).map fun d => (runtime.idOf category d, d))⟩) :=
  dispatches_enabled (fun d hd e he =>
    hdistinct d (List.mem_filter.1 hd).1 e (List.mem_filter.1 he).1) identifiers

theorem Bindings.dispatches :
    Dispatches (Interpreter.enabledDefinitions s category enabled) (runtime.idOf category)
      (fun d value => (classOf runtime category d).ofValue value)
      (imported ⟨runtime, enabled⟩ s category).makeEntry :=
  dispatches_enabled fun d hd e he =>
    hdistinct d (List.mem_filter.1 hd).1 e (List.mem_filter.1 he).1

end

/-- Interpreters over one runtime, with fewer and with more features. -/
theorem Interpreter.widens_ofSnapshot {s : Snapshot} {category : Category}
    (hallowed : ∀ d ∈ s.definitions category, d.name ≠ Identifiers.forbiddenName)
    {runtime : LinkedRuntime}
    (hdefines : ∀ d ∈ s.definitions category, runtime.defines category d = true)
    (hinjective : ∀ d ∈ s.definitions category, ∀ e ∈ s.definitions category,
      runtime.idOf category d = runtime.idOf category e → d = e)
    {enabled enabled' : String → Bool}
    (hsubset : ∀ feature, enabled feature = true → enabled' feature = true) :
    ∃ i i', ofSnapshot s category runtime enabled = .ok i ∧
      ofSnapshot s category runtime enabled' = .ok i' ∧
      Widens (s.definitions category) (runtime.idOf category) enabled enabled'
        i.makeEntry i'.makeEntry := by
  have hfind (enabled : String → Bool) : (enabledDefinitions s category enabled).find?
      (fun d => !runtime.defines category d) = none :=
    LinkedRuntime.find?_eq_none_iff.2 fun d hd =>
      hdefines d (Bindings.mem_enabledDefinitions.1 hd).1
  exact ⟨_, _, ofSnapshot_of_defines hallowed (hfind enabled),
    ofSnapshot_of_defines hallowed (hfind enabled'),
    (Interpreter.dispatches hinjective _).widens hinjective
      (Interpreter.dispatches hinjective _) hsubset⟩

/-- With more features enabled, an interpreter and an imported module make of every number and value
what they made before, except that the numbers of newly enabled definitions become known. -/
theorem widens_of_subset {s : Snapshot} {category : Category}
    (hallowed : ∀ d ∈ s.definitions category, d.name ≠ Identifiers.forbiddenName)
    {runtime : LinkedRuntime}
    (hdefines : ∀ d ∈ s.definitions category, runtime.defines category d = true)
    (hdistinct : runtime.Distinguishes category (s.definitions category))
    {enabled enabled' : String → Bool}
    (hsubset : ∀ feature, enabled feature = true → enabled' feature = true) :
    (∃ i i', Interpreter.ofSnapshot s category runtime enabled = .ok i ∧
      Interpreter.ofSnapshot s category runtime enabled' = .ok i' ∧
      Widens (s.definitions category) (runtime.idOf category) enabled enabled'
        i.makeEntry i'.makeEntry) ∧
    ∀ text, s.Accepted → s.version.IsWritten → Bindings.generate s category = .ok text →
      ∃ b b', Bindings.importText ⟨runtime, enabled⟩ text = .ok b ∧
        Bindings.importText ⟨runtime, enabled'⟩ text = .ok b' ∧
        Widens (s.definitions category) (runtime.idOf category) enabled enabled'
          b.makeEntry b'.makeEntry := by
  have hinjective := hdistinct.eq_of_idOf hdefines
  have hfind (enabled : String → Bool) : (Interpreter.enabledDefinitions s category enabled).find?
      (fun d => !runtime.defines category d) = none :=
    LinkedRuntime.find?_eq_none_iff.2 fun d hd =>
      hdefines d (Bindings.mem_enabledDefinitions.1 hd).1
  refine ⟨Interpreter.widens_ofSnapshot hallowed hdefines hinjective hsubset,
    fun text hs hversion hgenerate => ?_⟩
  have himport (enabled : String → Bool) : Bindings.importText ⟨runtime, enabled⟩ text
      = .ok (Bindings.imported ⟨runtime, enabled⟩ s category) :=
    Bindings.importText_of_generate hs hversion hgenerate
      (fun d hd => hallowed d (Bindings.mem_enabledDefinitions.1 hd).1) (hfind enabled)
  exact ⟨_, _, himport enabled, himport enabled',
    (Bindings.dispatches hinjective).widens hinjective (Bindings.dispatches hinjective) hsubset⟩

/-- Enabling the vendor of the enumeration opens its number and no other. -/
theorem widens_of_subset_sample :
    ∃ b b', Bindings.importText ⟨.sample, fun _ => false⟩ (Layout.text Bindings.sample .controls)
        = .ok b ∧
      Bindings.importText ⟨.sample, (· == "vendor_rpi")⟩ (Layout.text Bindings.sample .controls)
        = .ok b' ∧
      (∀ value, IsUnknown (b.makeEntry 20001 value) ∧ ¬ IsUnknown (b'.makeEntry 20001 value)) ∧
      ∀ id value, id ≠ 20001 → b'.makeEntry id value = b.makeEntry id value := by
  obtain ⟨-, hmodule⟩ := @widens_of_subset Bindings.sample .controls (by decide)
    .sample (by decide) LinkedRuntime.distinguishes_sample (fun _ => false) (· == "vendor_rpi")
    (fun _ h => absurd h (by decide))
  obtain ⟨b, b', hb, hb', hwidens⟩ := hmodule _ Bindings.accepted_sample
    Bindings.isWritten_sample Bindings.generate_sample
  refine ⟨b, b', hb, hb', fun value => ?_, fun id value hid => ?_⟩
  · obtain ⟨d, hd, hid, hfeature⟩ : ∃ d ∈ Bindings.sample.definitions .controls,
        LinkedRuntime.sample.idOf .controls d = 20001 ∧ d.feature = some "vendor_rpi" :=
      ⟨_, List.mem_cons_of_mem _ List.mem_cons_self, rfl, rfl⟩
    rw [← hid]
    exact hwidens.opened hd hfeature rfl rfl value
  · by_contra hne
    obtain ⟨-, d, hd, rfl, feature, hfeature, -⟩ := hwidens.gained id value hne
    rcases List.mem_cons.1 hd with rfl | hd
    · cases hfeature
    · cases List.mem_singleton.1 hd
      exact hid rfl

/-- A runtime that gives the enumeration of the sample a number too long to be written. -/
def LinkedRuntime.vast : LinkedRuntime :=
  ⟨none, [("AE_ENABLE", 1), ("SYNC_MODE", 10 ^ Number.digitLimit)], []⟩

/-- While the vendor of the enumeration is not enabled, what is raised at its number is not that
nothing is found, and yet it is another outcome when the vendor is enabled. -/
theorem Interpreter.raises_vast : ∃ i i',
    ofSnapshot Bindings.sample .controls .vast (fun _ => false) = .ok i ∧
    ofSnapshot Bindings.sample .controls .vast (· == "vendor_rpi") = .ok i' ∧
    ∀ value, ¬ Raises (i.makeEntry (10 ^ Number.digitLimit) value) .notFound ∧
      i'.makeEntry (10 ^ Number.digitLimit) value ≠ i.makeEntry (10 ^ Number.digitLimit) value := by
  obtain ⟨first, second, hcontrols, hone, hvast, hfeature⟩ : ∃ first second,
      Bindings.sample.definitions .controls = [first, second] ∧
        LinkedRuntime.vast.idOf .controls first = 1 ∧
        LinkedRuntime.vast.idOf .controls second = 10 ^ Number.digitLimit ∧
        second.feature = some "vendor_rpi" := ⟨_, _, rfl, rfl, rfl, rfl⟩
  have hne : (1 : Int) ≠ 10 ^ Number.digitLimit := by
    intro heq
    have hlong := Number.isWritable_pow_digitLimit
    rw [← heq] at hlong
    cases hlong
  have hinjective : ∀ d ∈ Bindings.sample.definitions .controls,
      ∀ e ∈ Bindings.sample.definitions .controls,
        LinkedRuntime.vast.idOf .controls d = LinkedRuntime.vast.idOf .controls e → d = e := by
    rw [hcontrols]
    intro d hd e he heq
    rw [List.mem_pair] at hd he
    obtain rfl | rfl := hd <;> obtain rfl | rfl := he
    · rfl
    · exact absurd (hone.symm.trans (heq.trans hvast)) hne
    · exact absurd (hone.symm.trans (heq.symm.trans hvast)) hne
    · rfl
  obtain ⟨i, i', hi, hi', hwidens⟩ := @widens_ofSnapshot Bindings.sample .controls (by decide) .vast
    (by decide +kernel) hinjective (fun _ => false) (· == "vendor_rpi") (fun _ h => nomatch h)
  refine ⟨i, i', hi, hi', fun value => ?_⟩
  obtain ⟨hunknown, hknown⟩ := hwidens.opened (hcontrols ▸ List.mem_cons_of_mem _
    (List.mem_singleton_self second)) hfeature rfl rfl value
  rw [hvast] at hunknown hknown
  refine ⟨fun hraises => ?_, fun heq => hknown (heq ▸ hunknown)⟩
  have hclass := hraises.unique (hwidens.told _ value hunknown).2
  rw [ErrorClass.raised, List.all_cons, Number.isWritable_pow_digitLimit, Bool.false_and] at hclass
  cases hclass

end ControlSchema
