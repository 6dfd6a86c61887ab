import ControlSchema.Bindings.Generation
import ControlSchema.Proofs.Bindings.Reading

/-!
# Accepted names and generated text

Generation gives out the text of the layout or an error, and an error about
guards can only come from the statements that the text is read as. These are
the program of the snapshot, so what is said about a generated module can be
said about its program.
-/

namespace ControlSchema.Bindings

variable {s : Snapshot} {category : Category}

/-! ## Names -/

/-- What the check of names establishes. -/
structure Named (ds : List Definition) : Prop where
  nodup : (ds.map (·.name)).Nodup
  names : ∀ d ∈ ds, isReservedName d.name = false
  variants : ∀ d ∈ ds, ∀ variant ∈ d.variants, reservedVariants.contains variant.2 = false

theorem named_of_checkNames {seen : List String} {ds : List Definition}
    (h : checkNames seen ds = .ok ()) : Named ds ∧ ∀ d ∈ ds, d.name ∉ seen := by
  induction ds generalizing seen with
  | nil =>
    refine ⟨⟨List.nodup_nil, ?_, ?_⟩, ?_⟩ <;> exact fun d hd => absurd hd List.not_mem_nil
  | cons d ds ih =>
    rw [checkNames] at h
    split at h
    · cases h
    rename_i hseen
    split at h
    · cases h
    rename_i hreserved
    split at h
    · cases h
    rename_i hfind
    obtain ⟨hnamed, hfresh⟩ := ih h
    rw [List.contains_iff_mem] at hseen
    rw [Bool.not_eq_true] at hreserved
    refine ⟨⟨?_, List.forall_mem_cons.2 ⟨hreserved, hnamed.names⟩,
      List.forall_mem_cons.2 ⟨fun variant hvariant => ?_, hnamed.variants⟩⟩,
      List.forall_mem_cons.2 ⟨hseen, fun e he hmem => hfresh e he (List.mem_cons_of_mem _ hmem)⟩⟩
    · rw [List.map_cons, List.nodup_cons]
      refine ⟨fun hmem => ?_, hnamed.nodup⟩
      obtain ⟨e, he, heq⟩ := List.mem_map.1 hmem
      exact hfresh e he (by rw [heq]; exact List.mem_cons_self)
    · have hnone := List.find?_eq_none.1 hfind variant.2 (List.mem_map.2 ⟨variant, hvariant, rfl⟩)
      rwa [Bool.not_eq_true] at hnone

/-- Names are refused because they are repeated or reserved. -/
theorem error_of_checkNames {seen : List String} {ds : List Definition} {e : GenerationError}
    (h : checkNames seen ds = .error e) : (∃ name, e = .repeatedName name) ∨
      (∃ name, e = .reservedName name) ∨
      ∃ control variant, e = .reservedVariant control variant := by
  induction ds generalizing seen with
  | nil => cases h
  | cons d ds ih =>
    rw [checkNames] at h
    split at h
    · cases h
      exact Or.inl ⟨_, rfl⟩
    split at h
    · cases h
      exact Or.inr (Or.inl ⟨_, rfl⟩)
    split at h
    · cases h
      exact Or.inr (Or.inr ⟨_, _, rfl⟩)
    · exact ih h

/-- Errors about names are not about guards. -/
theorem ne_unevenGuards_of_checkNames {seen : List String} {ds : List Definition}
    {e : GenerationError} (h : checkNames seen ds = .error e) (category : Category)
    (mismatched : GatingMap) : e ≠ .unevenGuards category mismatched := by
  obtain ⟨name, rfl⟩ | ⟨name, rfl⟩ | ⟨control, variant, rfl⟩ := error_of_checkNames h
  all_goals exact nofun

theorem checkNames_ne_repeatedName {seen : List String} {ds : List Definition}
    (hnodup : (ds.map (·.name)).Nodup) (hfresh : ∀ d ∈ ds, d.name ∉ seen) (name : String) :
    checkNames seen ds ≠ .error (.repeatedName name) := by
  induction ds generalizing seen with
  | nil => exact nofun
  | cons d ds ih =>
    rw [List.map_cons, List.nodup_cons] at hnodup
    obtain ⟨hd, hrest⟩ := List.forall_mem_cons.1 hfresh
    have hcontains : ¬ seen.contains d.name = true := by rwa [List.contains_iff_mem]
    rw [checkNames, if_neg hcontains]
    split
    · exact nofun
    split
    · exact nofun
    · refine ih hnodup.2 fun e he hmem => ?_
      rcases List.mem_cons.1 hmem with heq | hmem
      · exact hnodup.1 (List.mem_map.2 ⟨e, he, heq⟩)
      · exact hrest e he hmem

theorem Named.isKeyword {ds : List Definition} (h : Named ds) {d : Definition} (hd : d ∈ ds) :
    Naming.isKeyword d.name = false := by
  have hname := h.names d hd
  rw [isReservedName, Bool.or_eq_false_iff] at hname
  exact hname.1

theorem Named.not_reserved {ds : List Definition} (h : Named ds) {d : Definition} (hd : d ∈ ds)
    {name : String} (hname : name ∈ reservedNames) : d.name ≠ name := by
  have hreserved := h.names d hd
  rw [isReservedName, Bool.or_eq_false_iff] at hreserved
  rintro rfl
  rw [List.contains_iff_mem.2 hname] at hreserved
  cases hreserved.2

theorem Named.ne_idClass {ds : List Definition} (h : Named ds) {d : Definition} (hd : d ∈ ds)
    (category : Category) : d.name ≠ category.idClass :=
  h.not_reserved hd (by cases category <;> decide)

/-! ## Numbers -/

/-- The numbers of a version that was read can be written, so only a dimension is ever too long. -/
theorem isWritable_eq_false_iff (hversion : s.version.isWritable = true) :
    isWritable s category = false ↔
      ∃ d ∈ s.definitions category, ∃ dim ∈ d.shape.dims, (Datum.int dim).IsLong := by
  rw [isWritable, hversion, Bool.true_and, List.all_eq_false]
  refine exists_congr fun d => and_congr_right fun _ => ?_
  rw [Shape.isWritable, List.all_eq_true]
  simp only [isLong_int_iff, not_forall, exists_prop]

/-! ## Generated text -/

/-- The four ways in which generation ends. -/
theorem generate_cases (s : Snapshot) (category : Category) :
    (∃ e, checkNames [] (s.definitions category) = .error e ∧ generate s category = .error e) ∨
    (checkNames [] (s.definitions category) = .ok () ∧ isWritable s category = false ∧
      generate s category = .error .unwritable) ∨
    (checkNames [] (s.definitions category) = .ok () ∧ isWritable s category = true ∧
      Source.read? (Layout.text s category) = none ∧
      generate s category = .error .unreadable) ∨
    ∃ statements, checkNames [] (s.definitions category) = .ok () ∧
      isWritable s category = true ∧
      Source.read? (Layout.text s category) = some statements ∧
      generate s category = if (GatingMap.ofStatements category statements).mismatched.isEmpty
        then .ok (Layout.text s category)
        else .error (.unevenGuards category
          (GatingMap.ofStatements category statements).mismatched) := by
  cases hnames : checkNames [] (s.definitions category) with
  | error e => exact Or.inl ⟨e, rfl, by rw [generate, hnames]; rfl⟩
  | ok _ =>
    refine Or.inr ?_
    rw [generate, hnames]
    cases hwritable : isWritable s category with
    | false => exact Or.inl ⟨rfl, rfl, rfl⟩
    | true =>
      refine Or.inr ?_
      simp only [gatingMap]
      cases hread : Source.read? (Layout.text s category) with
      | none => exact Or.inl ⟨trivial, trivial, rfl, rfl⟩
      | some statements => exact Or.inr ⟨statements, trivial, trivial, rfl, rfl⟩

/-- A generated text is the text of the layout, and is read as the program. -/
theorem program_of_generate (hversion : s.version.IsWritten)
    (hds : ∀ d ∈ s.definitions category, d.Accepted) {text : String}
    (h : generate s category = .ok text) : Named (s.definitions category) ∧
      (∀ d ∈ s.definitions category, d.Writable) ∧
      Source.read? text = some (Layout.program s category) := by
  rcases generate_cases s category with ⟨e, -, hgenerate⟩ | ⟨-, -, hgenerate⟩ |
    ⟨-, -, -, hgenerate⟩ | ⟨statements, hnames, -, hread, hgenerate⟩
  · rw [hgenerate] at h
    cases h
  · rw [hgenerate] at h
    cases h
  · rw [hgenerate] at h
    cases h
  · obtain ⟨hnamed, -⟩ := named_of_checkNames hnames
    obtain ⟨⟨hplain, -, -⟩, hprogram⟩ := (Layout.read?_text_eq_some_iff hversion
      fun d hd => ⟨hds d hd, hnamed.isKeyword hd⟩).1 hread
    rw [hgenerate] at h
    split at h
    · cases h
      exact ⟨hnamed, fun d hd => ⟨hds d hd, hplain d hd, hnamed.isKeyword hd⟩,
        by rw [hread, hprogram]⟩
    · cases h

end ControlSchema.Bindings
