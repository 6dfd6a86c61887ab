import ControlSchema.Bindings.Import
import ControlSchema.Interpreter
import ControlSchema.Proofs.Bindings.Program
import ControlSchema.Proofs.Table

/-!
# What an import leaves

The program of a snapshot is run from the first statement to the last. Numbers
enter it at one place, the catalogue, so it either ends there with the first
constant that is missing or runs to its end. What it leaves then is known for
each enabled definition: a class under its name, and the same class under its
number in the table.

The table is filled feature by feature and not in the order of the schema. That
makes no difference where the numbers differ.
-/

namespace ControlSchema

/-! ## Numbers of definitions -/

namespace LinkedRuntime

/-- Whether the runtime has the constant of a definition. -/
def defines (r : LinkedRuntime) (category : Category) (d : Definition) : Bool :=
  (r.ids category).has d.linkageName

/-- The number of a definition whose constant the runtime has. -/
def idOf (r : LinkedRuntime) (category : Category) (d : Definition) : Int :=
  ((r.ids category).get? d.linkageName).getD 0

variable {r : LinkedRuntime} {category : Category} {d : Definition}

theorem defines_iff : r.defines category d = true ↔
    ∃ id, (r.ids category).get? d.linkageName = some id := Option.isSome_iff_exists

theorem constant_of_defines (h : r.defines category d = true) :
    r.constant category d.linkageName = .ok (r.idOf category d) := by
  obtain ⟨id, hid⟩ := defines_iff.1 h
  rw [constant, idOf, hid]
  rfl

theorem constant_of_not_defines (h : r.defines category d = false) :
    r.constant category d.linkageName = .error ⟨category, d.linkageName⟩ := by
  have hget : (r.ids category).get? d.linkageName = none :=
    Option.isNone_iff_eq_none.1 (Option.isSome_eq_false_iff.1 h)
  rw [constant, hget]

/-- Definitions are numbered one by one, up to the first whose constant is
missing. -/
theorem mapM_constant {ε β : Type} {number : Definition → Except ε β}
    (f : Int → Definition → β) (fault : MissingConstant → ε)
    (hok : ∀ d id, r.constant category d.linkageName = .ok id → number d = .ok (f id d))
    (herror : ∀ d e, r.constant category d.linkageName = .error e → number d = .error (fault e))
    (ds : List Definition) :
    ds.mapM number = match ds.find? fun d => !r.defines category d with
      | some d => .error (fault ⟨category, d.linkageName⟩)
      | none => .ok (ds.map fun d => f (r.idOf category d) d) := by
  induction ds with
  | nil => rfl
  | cons d ds ih =>
    rw [List.mapM_cons, ih, List.find?_cons]
    cases hd : r.defines category d with
    | false =>
      rw [herror d _ (constant_of_not_defines hd)]
      rfl
    | true =>
      rw [hok d _ (constant_of_defines hd)]
      cases ds.find? fun d => !r.defines category d with
      | none => rfl
      | some missing => rfl

end LinkedRuntime

namespace Bindings

open Source

variable {context : ImportContext} {category : Category}

/-! ## The catalogue -/

/-- The member that a definition adds to the catalogue. -/
def memberPair (context : ImportContext) (category : Category) (d : Definition) :
    Except ImportFault (String × Int) :=
  match context.runtime.constant category d.linkageName with
  | .ok id => .ok (d.name, id)
  | .error e => .error (.missing e)

def memberPairs (context : ImportContext) (category : Category) (ds : List Definition) :
    Except ImportFault (List (String × Int)) := ds.mapM (memberPair context category)

theorem members_append (xs ys : List Statement) :
    members context category (xs ++ ys) = (do
      let first ← members context category xs
      let more ← members context category ys
      return first ++ more) := by
  induction xs with
  | nil =>
    rw [List.nil_append, members]
    cases members context category ys <;> rfl
  | cons s xs ih =>
    rw [List.cons_append, members, members, ih]
    cases membersOf context category s with
    | error e => rfl
    | ok first =>
      cases members context category xs with
      | error e => rfl
      | ok more =>
        cases members context category ys with
        | error e => rfl
        | ok rest =>
          show Except.ok (first ++ (more ++ rest)) = Except.ok (first ++ more ++ rest)
          rw [List.append_assoc]

theorem memberPairs_cons (d : Definition) (ds : List Definition) :
    memberPairs context category (d :: ds) = (do
      let first ← memberPair context category d
      let more ← memberPairs context category ds
      return first :: more) := List.mapM_cons

theorem memberPairs_append (xs ys : List Definition) :
    memberPairs context category (xs ++ ys) = (do
      let first ← memberPairs context category xs
      let more ← memberPairs context category ys
      return first ++ more) := List.mapM_append

theorem members_memberStatement (ds : List Definition) :
    members context category (ds.map Layout.memberStatement)
      = memberPairs context category ds := by
  induction ds with
  | nil =>
    rw [List.map_nil, members]
    rfl
  | cons d ds ih =>
    rw [List.map_cons, members, ih, memberPairs_cons, memberPair, Layout.memberStatement,
      membersOf]
    cases context.runtime.constant category d.linkageName with
    | error e => rfl
    | ok id => rfl

/-- A guard lets its members pass when its feature is enabled. -/
theorem members_guardStatements (feature : Option String) (body : List Statement) :
    members context category (Layout.guardStatements feature body)
      = if feature.all context.enabled then members context category body else .ok [] := by
  cases feature with
  | none => rfl
  | some feature =>
    have htest : featureOf? (Layout.guardTest feature) = some feature := rfl
    rw [Layout.guardStatements, members, membersOf, htest, members, Option.all_some]
    simp only
    split
    · cases hbody : members context category body with
      | error e => rfl
      | ok found =>
        show Except.ok (found ++ []) = Except.ok found
        rw [List.append_nil]
    · rfl

theorem members_run {run : Definition × List Definition}
    (h : ∀ e ∈ run.2, e.feature = run.1.feature) :
    members context category (Layout.runStatements run)
      = memberPairs context category
        ((run.1 :: run.2).filter fun d => d.isEnabled context.enabled) := by
  have hsame : ∀ e ∈ run.1 :: run.2,
      e.isEnabled context.enabled = run.1.feature.all context.enabled := by
    refine List.forall_mem_cons.2 ⟨rfl, fun e he => ?_⟩
    rw [Definition.isEnabled, h e he]
  rw [Layout.runStatements, members_guardStatements, members_memberStatement]
  by_cases henabled : run.1.feature.all context.enabled = true
  · rw [if_pos henabled, List.filter_eq_self.2 fun e he => by rw [hsame e he, henabled]]
  · rw [if_neg henabled, List.filter_eq_nil_iff.2 fun e he => by rw [hsame e he]; exact henabled]
    rfl

theorem members_runs (ds : List Definition) :
    members context category ((Layout.runs ds).flatMap Layout.runStatements)
      = memberPairs context category (ds.filter fun d => d.isEnabled context.enabled) := by
  have hruns : ∀ rs : List (Definition × List Definition),
      (∀ run ∈ rs, ∀ e ∈ run.2, e.feature = run.1.feature) →
      members context category (rs.flatMap Layout.runStatements)
        = memberPairs context category ((rs.flatMap fun run => run.1 :: run.2).filter
          fun d => d.isEnabled context.enabled) := by
    intro rs hrs
    induction rs with
    | nil =>
      rw [List.flatMap_nil, members]
      rfl
    | cons run rs ih =>
      rw [List.flatMap_cons, List.flatMap_cons, members_append, List.filter_append,
        memberPairs_append, members_run (hrs run List.mem_cons_self),
        ih fun other hother => hrs other (List.mem_cons_of_mem run hother)]
  rw [hruns _ fun run hrun => Layout.feature_of_mem_runs hrun, Layout.flatten_runs]

/-! ## Running statements one after another -/

theorem run_append (xs ys : List Statement) (b : Bindings) :
    run context (xs ++ ys) b = run context xs b >>= run context ys := by
  induction xs generalizing b with
  | nil =>
    rw [List.nil_append, run]
    rfl
  | cons s xs ih =>
    rw [List.cons_append, run, run]
    cases runOne context s b with
    | error e => rfl
    | ok b' => exact ih b'

theorem run_guardStatements (feature : Option String) (body : List Statement) (b : Bindings) :
    run context (Layout.guardStatements feature body) b
      = if feature.all context.enabled then run context body b else .ok b := by
  cases feature with
  | none => rfl
  | some feature =>
    have htest : featureOf? (Layout.guardTest feature) = some feature := rfl
    rw [Layout.guardStatements, run, Layout.guardTest, runOne, ← Layout.guardTest, htest,
      Option.all_some]
    · simp only
      split
      · cases run context body b with
        | error e => rfl
        | ok b' => rfl
      · rfl
    · exact nofun

theorem run_preamble (version : Version) (category : Category) :
    run context (Layout.preambleStatements version category) empty
      = .ok ⟨some (version.major, version.minor, version.patch), some category, none, [], []⟩ := by
  cases category <;> rfl

theorem run_closing (category : Category) (b : Bindings) :
    run context (Layout.closingStatements category) b = .ok b := rfl

theorem members_catalogue (title : String) (ds : List Definition) : members context category
    (.expression (.text title) :: (Layout.runs ds).flatMap Layout.runStatements)
    = memberPairs context category (ds.filter fun d => d.isEnabled context.enabled) := by
  rw [members, membersOf, members_runs]
  cases memberPairs context category (ds.filter fun d => d.isEnabled context.enabled) <;> rfl

section

variable {b : Bindings} (hcategory : b.category = some category) {ds : List Definition}
include hcategory

theorem run_catalogueStatement : run context [Layout.catalogueStatement category ds] b
    = runCatalogue context category (.expression (.text (Layout.catalogueTitle category))
      :: (Layout.runs ds).flatMap Layout.runStatements) b >>= run context [] := by
  have hclass (bases : List Item) (body : List Statement) :
      runClass context [] category.idClass bases body b = runCatalogue context category body b := by
    rw [runClass.eq_def]
    simp only [hcategory, beq_self_eq_true, if_true]
  rw [run, Layout.catalogueStatement, runOne, hclass]

/-- The catalogue fails when a constant is missing. -/
theorem run_catalogue_of_error {e : ImportFault} (h : memberPairs context category
    (ds.filter fun d => d.isEnabled context.enabled) = .error e) :
    run context [Layout.catalogueStatement category ds] b = .error e := by
  rw [run_catalogueStatement hcategory, runCatalogue, members_catalogue, h]
  rfl

section

variable {found : List (String × Int)}
  (h : memberPairs context category (ds.filter fun d => d.isEnabled context.enabled) = .ok found)
include h

theorem run_catalogue_of_ok {ids : Identifiers}
    (hids : Identifiers.ofMembers? category (Table.ofPairs found) = some ids) :
    run context [Layout.catalogueStatement category ds] b
      = .ok { b with identifiers := some ids } := by
  have hrun : runCatalogue context category (.expression (.text (Layout.catalogueTitle category))
      :: (Layout.runs ds).flatMap Layout.runStatements) b
      = .ok { b with identifiers := some ids } := by
    rw [runCatalogue, members_catalogue, h]
    simp only [bind, Except.bind, hids]
    rfl
  rw [run_catalogueStatement hcategory, hrun]
  rfl

/-- The catalogue fails when a member has a name that none can have. -/
theorem run_catalogue_of_none
    (hids : Identifiers.ofMembers? category (Table.ofPairs found) = none) :
    run context [Layout.catalogueStatement category ds] b = .error .forbiddenName := by
  rw [run_catalogueStatement hcategory, runCatalogue, members_catalogue, h]
  simp only [bind, Except.bind, hids]
  rfl

end

end

/-! ## Classes -/

/-- The form of the entries of a definition. -/
def entryForm (d : Definition) : EntryForm :=
  if d.isEnum then .enumeration (d.variants.map fun variant => (variant.2, variant.1.value))
  else .wrapper

/-- The class of a definition. -/
def classOf (runtime : LinkedRuntime) (category : Category) (d : Definition) : EntryClass where
  name := d.name
  category := category
  id := runtime.idOf category d
  descriptor := d.descriptor
  form := entryForm d
  doc := doc? (Layout.bodyStatements (Layout.classMargin d ++ Layout.indent) d)

/-- The classes of some definitions under their names. -/
def namedClasses (runtime : LinkedRuntime) (category : Category) (ds : List Definition) :
    List (String × EntryClass) := ds.map fun d => (d.name, classOf runtime category d)

/-- The classes of some definitions under their numbers. -/
def numberedClasses (runtime : LinkedRuntime) (category : Category) (ds : List Definition) :
    List (Int × EntryClass) :=
  ds.map fun d => (runtime.idOf category d, classOf runtime category d)

theorem numberedClasses_append (runtime : LinkedRuntime) (category : Category)
    (xs ys : List Definition) :
    numberedClasses runtime category (xs ++ ys)
      = numberedClasses runtime category xs ++ numberedClasses runtime category ys :=
  List.map_append

/-- Bindings that have the numbers of some definitions. -/
structure Knows (b : Bindings) (runtime : LinkedRuntime) (category : Category)
    (ds : List Definition) : Prop where
  bound : b.category = some category
  numbers : ∀ d ∈ ds, b.identifier? (Layout.identifierExpr category d)
    = some (runtime.idOf category d)

theorem dimensions?_map (dims : List Nat) :
    dimensions? (dims.map fun n => .plain (.number n)) = some dims := by
  induction dims with
  | nil => rfl
  | cons n dims ih =>
    rw [dimensions?] at ih
    rw [dimensions?, List.map_cons, List.mapM_cons, ih]
    rfl

theorem shape?_shapeExpr : ∀ shape, shape? (Layout.shapeExpr shape) = some shape
  | .scalar => rfl
  | .variable => rfl
  | .fixed dims => by
    have hdims := dimensions?_map dims
    show (dimensions? (dims.map fun n => .plain (.number n))).map Shape.fixed = _
    rw [hdims]
    rfl

theorem descriptor?_descriptorExpr (d : Descriptor) :
    descriptor? (Layout.descriptorExpr d) = some d := by
  obtain ⟨kind, shape⟩ := d
  have hkind : kind? (.attribute (.attribute (.name "_types") "ControlType") kind.constant)
      = some kind := by
    cases kind <;> rfl
  rw [Layout.descriptorExpr, descriptor?, hkind, shape?_shapeExpr]
  rfl

theorem integer?_valueExpr (n : Int) : (Layout.valueExpr n).integer? = some n := by
  rw [Layout.valueExpr]
  split
  · rw [Expr.integer?]
    congr 1
    omega
  · rw [Expr.integer?]
    congr 1
    omega

/-- A docstring defines no enumerator. -/
theorem enumerators_docStatements (margin description : String) (body : List Statement) :
    enumerators (Layout.docStatements margin description ++ body) = enumerators body := by
  rw [Layout.docStatements]
  split <;> rfl

theorem enumerators_variants (variants : List (Enumerator × String)) :
    enumerators (variants.map Layout.variantStatement)
      = variants.map fun variant => (variant.2, variant.1.value) := by
  induction variants with
  | nil => rfl
  | cons variant variants ih =>
    rw [enumerators] at ih
    simp only [enumerators, List.map_cons, Layout.variantStatement, List.filterMap_cons,
      integer?_valueExpr, Option.map_some, ih]

theorem form?_bodyStatements (margin : String) (d : Definition) :
    form? (Layout.bodyStatements margin d) (Layout.baseName d) = some (entryForm d) := by
  rw [Layout.baseName, entryForm, Layout.bodyStatements]
  split
  · have hmembers := enumerators_docStatements margin d.description
      (d.variants.map Layout.variantStatement)
    rw [enumerators_variants] at hmembers
    rw [← hmembers]
    generalize Layout.docStatements margin d.description
      ++ d.variants.map Layout.variantStatement = body
    cases body with
    | nil => rfl
    | cons s body => rfl
  · rfl

section

variable {b : Bindings} {ds : List Definition}

theorem entryClass?_class (h : b.Knows context.runtime category ds) {d : Definition}
    (hd : d ∈ ds) :
    b.entryClass? [.call (.attribute (.name "_control") "bind")
        [.plain (Layout.identifierExpr category d), .plain (Layout.descriptorExpr d.descriptor)]]
      d.name
      [.plain (.attribute (.name "_control") category.marker),
        .plain (.attribute (.name "_control") (Layout.baseName d))]
      (Layout.bodyStatements (Layout.classMargin d ++ Layout.indent) d)
      = some (classOf context.runtime category d) := by
  have hmarked : marked? category.marker = some category := by
    cases category <;> rfl
  rw [entryClass?, hmarked, h.numbers d hd, descriptor?_descriptorExpr, form?_bodyStatements]
  rfl

/-- The class of an enabled definition is bound to its name. -/
theorem runOne_class (h : b.Knows context.runtime category ds) {d : Definition} (hd : d ∈ ds) :
    runOne context (Layout.classStatement (Layout.classMargin d) category d) b
      = .ok { b with
        classes := b.classes.put d.name (classOf context.runtime category d) } := by
  have hclass := entryClass?_class h hd
  rw [Layout.classStatement, runOne, runClass.eq_def]
  simp only [hclass]

/-- Classes leave the numbers as they are. -/
theorem Knows.of_classes (h : b.Knows context.runtime category ds)
    (classes : Table String EntryClass) :
    Knows { b with classes } context.runtime category ds := ⟨h.bound, h.numbers⟩

theorem Knows.of_dispatch (h : b.Knows context.runtime category ds)
    (dispatch : Table Int EntryClass) :
    Knows { b with dispatch } context.runtime category ds := ⟨h.bound, h.numbers⟩

/-- The classes of all enabled definitions are bound, in the order of the
schema. -/
theorem run_classes {es : List Definition} (h : b.Knows context.runtime category ds)
    (hes : ∀ e ∈ es, e.isEnabled context.enabled = true → e ∈ ds) :
    run context (es.flatMap (Layout.classStatements category)) b
      = .ok { b with
        classes := b.classes.merge (namedClasses context.runtime category
          (es.filter fun e => e.isEnabled context.enabled)) } := by
  induction es generalizing b with
  | nil => rw [List.flatMap_nil, run]; rfl
  | cons e es ih =>
    have hrest : ∀ f ∈ es, f.isEnabled context.enabled = true → f ∈ ds := fun f hf =>
      hes f (List.mem_cons_of_mem e hf)
    rw [List.flatMap_cons, run_append, Layout.classStatements, run_guardStatements,
      List.filter_cons]
    by_cases henabled : e.isEnabled context.enabled = true
    · have hstep := runOne_class h (hes e List.mem_cons_self henabled)
      have hfeature : e.feature.all context.enabled = true := henabled
      rw [if_pos henabled, if_pos hfeature, run, hstep]
      exact ih (h.of_classes _) hrest
    · have hfeature : ¬ e.feature.all context.enabled = true := henabled
      rw [if_neg henabled, if_neg hfeature]
      exact ih h hrest

/-! ## The dispatch table -/

theorem mapM_dispatchEntry? (h : b.Knows context.runtime category ds)
    (hclasses : ∀ d ∈ ds, b.classes.get? d.name = some (classOf context.runtime category d))
    {es : List Definition} (hes : ∀ e ∈ es, e ∈ ds) :
    (es.map (Layout.dispatchItem category)).mapM b.dispatchEntry?
      = some (numberedClasses context.runtime category es) := by
  induction es with
  | nil => rfl
  | cons e es ih =>
    have he := hes e List.mem_cons_self
    rw [List.map_cons, List.mapM_cons, ih fun f hf => hes f (List.mem_cons_of_mem e hf),
      Layout.dispatchItem, dispatchEntry?, h.numbers e he, hclasses e he]
    rfl

theorem runDispatch_display (h : b.Knows context.runtime category ds)
    (hclasses : ∀ d ∈ ds, b.classes.get? d.name = some (classOf context.runtime category d))
    {es : List Definition} (feature : Option String)
    (hes : ∀ e ∈ es, e.feature = feature → e ∈ ds) :
    runDispatch (Layout.display category es feature) b
      = .ok { b with
        dispatch := b.dispatch.merge (numberedClasses context.runtime category
          (es.filter (·.feature == feature))) } := by
  have hfiltered : ∀ e ∈ es.filter (·.feature == feature), e ∈ ds := fun e he =>
    hes e (List.mem_filter.1 he).1 (eq_of_beq (List.mem_filter.1 he).2)
  rw [Layout.display, runDispatch, mapM_dispatchEntry? h hclasses hfiltered]

/-- The definitions of some enabled features, feature by feature. -/
def ofFeatures (enabled : String → Bool) (es : List Definition) (features : List String) :
    List Definition :=
  (features.filter enabled).flatMap fun feature => es.filter (·.feature == some feature)

/-- The enabled definitions in the order of the table. -/
def dispatched (enabled : String → Bool) (es : List Definition) : List Definition :=
  es.filter (·.feature == none) ++ ofFeatures enabled es (Layout.features es)

theorem mem_dispatched {enabled : String → Bool} {es : List Definition} {d : Definition} :
    d ∈ dispatched enabled es ↔ d ∈ es ∧ d.isEnabled enabled = true := by
  rw [dispatched, List.mem_append, List.mem_filter, ofFeatures, List.mem_flatMap, beq_iff_eq,
    Definition.isEnabled]
  refine ⟨?_, fun ⟨hd, henabled⟩ => ?_⟩
  · rintro (⟨hd, hfeature⟩ | ⟨feature, hfeature, hmem⟩)
    · exact ⟨hd, by rw [hfeature]; rfl⟩
    · obtain ⟨hd, heq⟩ := List.mem_filter.1 hmem
      exact ⟨hd, by rw [eq_of_beq heq]; exact (List.mem_filter.1 hfeature).2⟩
  · cases hfeature : d.feature with
    | none => exact Or.inl ⟨hd, rfl⟩
    | some feature =>
      rw [hfeature] at henabled
      have hmem : feature ∈ Layout.features es := by
        rw [Layout.features, List.mem_eraseDups]
        exact List.mem_filterMap.2 ⟨d, hd, hfeature⟩
      exact Or.inr ⟨feature, List.mem_filter.2 ⟨hmem, henabled⟩,
        List.mem_filter.2 ⟨hd, by rw [hfeature]; exact beq_self_eq_true _⟩⟩

theorem run_updates (h : b.Knows context.runtime category ds)
    (hclasses : ∀ d ∈ ds, b.classes.get? d.name = some (classOf context.runtime category d))
    {es : List Definition} (hes : ∀ e ∈ es, e.isEnabled context.enabled = true → e ∈ ds)
    (features : List String) :
    run context (features.map (Layout.updateStatement category es)) b
      = .ok { b with
        dispatch := b.dispatch.merge (numberedClasses context.runtime category
          (ofFeatures context.enabled es features)) } := by
  induction features generalizing b with
  | nil =>
    rw [List.map_nil, run]
    rfl
  | cons feature features ih =>
    have hguard : [Layout.updateStatement category es feature]
        = Layout.guardStatements (some feature)
          [.expression (.call (.attribute (.name "_DYN_TABLE") "update")
            [.plain (Layout.display category es (some feature))])] := rfl
    rw [List.map_cons, ← List.singleton_append, run_append, hguard, run_guardStatements,
      ofFeatures, List.filter_cons, Option.all_some]
    by_cases henabled : context.enabled feature = true
    · have hdisplay := runDispatch_display h hclasses (some feature) fun e he hfeature =>
        hes e he (by rw [Definition.isEnabled, hfeature]; exact henabled)
      rw [if_pos henabled, if_pos henabled, List.flatMap_cons, numberedClasses_append,
        Table.merge_append, run, runOne, hdisplay]
      exact ih (h.of_dispatch _) hclasses
    · rw [if_neg henabled, if_neg henabled]
      exact ih h hclasses

/-- The table is written feature by feature, the core vendor first. -/
theorem run_dispatch (h : b.Knows context.runtime category ds)
    (hclasses : ∀ d ∈ ds, b.classes.get? d.name = some (classOf context.runtime category d))
    {es : List Definition} (hes : ∀ e ∈ es, e.isEnabled context.enabled = true → e ∈ ds) :
    run context (Layout.dispatchStatements category es) b
      = .ok { b with
        dispatch := b.dispatch.merge (numberedClasses context.runtime category
          (dispatched context.enabled es)) } := by
  have hcore := runDispatch_display h hclasses none fun e he hfeature =>
    hes e he (by rw [Definition.isEnabled, hfeature]; rfl)
  have hupdates := run_updates (h.of_dispatch (b.dispatch.merge (numberedClasses context.runtime
    category (es.filter (·.feature == none))))) hclasses hes (Layout.features es)
  rw [Layout.dispatchStatements, run, runOne, hcore, dispatched, numberedClasses_append,
    Table.merge_append]
  exact hupdates

end

/-! ## Whole programs -/

section

variable {s : Snapshot}

theorem mem_enabledDefinitions {enabled : String → Bool} {d : Definition} :
    d ∈ Interpreter.enabledDefinitions s category enabled ↔
      d ∈ s.definitions category ∧ d.isEnabled enabled = true := by
  rw [Interpreter.enabledDefinitions, List.mem_filter]

/-- What the program of a snapshot leaves when no constant is missing. -/
def imported (context : ImportContext) (s : Snapshot) (category : Category) : Bindings where
  version := some (s.version.major, s.version.minor, s.version.patch)
  category := some category
  identifiers := some ⟨category, (Interpreter.enabledDefinitions s category context.enabled).map
    fun d => (d.name, context.runtime.idOf category d)⟩
  classes := namedClasses context.runtime category
    (Interpreter.enabledDefinitions s category context.enabled)
  dispatch := Table.ofPairs (numberedClasses context.runtime category
    (dispatched context.enabled (s.definitions category)))

/-- In the program of a snapshot the future stands behind the docstring only. -/
theorem futureLeads_program (s : Snapshot) (category : Category) :
    futureLeads (Layout.program s category) = true := by
  have hclass : ∀ d : Definition, (Layout.classStatements category d).any isFuture = false := by
    intro d
    rw [Layout.classStatements, Layout.guardStatements.eq_def]
    split <;> rfl
  have hupdates : ((Layout.features (s.definitions category)).map
      (Layout.updateStatement category (s.definitions category))).any isFuture = false := by
    rw [List.any_map, List.any_eq_false]
    exact fun feature _ => Bool.false_ne_true
  have hrest : ((Layout.imports.tail ++ Layout.constants s.version category)
      ++ [Layout.catalogueStatement category (s.definitions category)]
      ++ (s.definitions category).flatMap (Layout.classStatements category)
      ++ Layout.dispatchStatements category (s.definitions category)
      ++ Layout.closingStatements category).any isFuture = false := by
    simp only [List.any_append, List.any_flatMap, Layout.dispatchStatements, List.any_cons,
      hclass, hupdates]
    simp [Layout.imports, Layout.constants, Layout.catalogueStatement, Layout.closingStatements,
      isFuture]
  exact (congrArg not hrest :)

/-- A text that is read as the program of a snapshot is imported by running the program. -/
theorem importText_of_read? {text : String} (h : Source.read? text
    = some (Layout.program s category)) :
    importText context text = run context (Layout.program s category) empty := by
  rw [importText, h]
  exact if_pos (futureLeads_program s category)

/-- The program from its catalogue on. -/
theorem run_program (s : Snapshot) : run context (Layout.program s category) empty
    = run context ([Layout.catalogueStatement category (s.definitions category)]
      ++ ((s.definitions category).flatMap (Layout.classStatements category)
        ++ Layout.dispatchStatements category (s.definitions category)))
      ⟨some (s.version.major, s.version.minor, s.version.patch), some category, none, [], []⟩ := by
  have hclosing (statements : List Statement) (b : Bindings) :
      run context (statements ++ Layout.closingStatements category) b
        = run context statements b := by
    rw [run_append]
    cases run context statements b with
    | error e => rfl
    | ok b' => exact @run_closing context category b'
  rw [Layout.program, hclosing, List.append_assoc, List.append_assoc, run_append, run_preamble]
  rfl

theorem memberPairs_eq (context : ImportContext) (category : Category) (ds : List Definition) :
    memberPairs context category ds
    = match ds.find? fun d => !context.runtime.defines category d with
      | some d => .error (.missing ⟨category, d.linkageName⟩)
      | none => .ok (ds.map fun d => (d.name, context.runtime.idOf category d)) :=
  LinkedRuntime.mapM_constant (fun id d => (d.name, id)) ImportFault.missing
    (fun d id h => by rw [memberPair, h]) (fun d e h => by rw [memberPair, h]) ds

/-- The first constant that is missing ends the import. -/
theorem run_program_of_missing {d : Definition}
    (h : (Interpreter.enabledDefinitions s category context.enabled).find?
      (fun d => !context.runtime.defines category d) = some d) :
    run context (Layout.program s category) empty
      = .error (.missing ⟨category, d.linkageName⟩) := by
  have hpairs := memberPairs_eq context category
    (Interpreter.enabledDefinitions s category context.enabled)
  rw [h] at hpairs
  rw [run_program, run_append, run_catalogue_of_error rfl hpairs]
  rfl

section

variable {es : List Definition} (hnames : (es.map (·.name)).Nodup)
include hnames

theorem ofPairs_named {α : Type} (f : Definition → α) :
    Table.ofPairs (es.map fun d => (d.name, f d)) = es.map fun d => (d.name, f d) := by
  refine Table.ofPairs_of_nodup ?_
  rw [List.map_map]
  exact hnames

theorem get?_named {α : Type} (f : Definition → α) {d : Definition} (hd : d ∈ es) :
    Table.get? (es.map fun d => (d.name, f d)) d.name = some (f d) := by
  refine Table.get?_of_mem ?_ (List.mem_map.2 ⟨d, hd, rfl⟩)
  rw [Table.keys, List.map_map]
  exact hnames

/-- With names and numbers as identifiers, every number is known. -/
theorem knows_named {b : Bindings} (hcategory : b.category = some category)
    {runtime : LinkedRuntime} (hids : b.identifiers
      = some ⟨category, es.map fun d => (d.name, runtime.idOf category d)⟩) :
    b.Knows runtime category es := by
  refine ⟨hcategory, fun d hd => ?_⟩
  have hget := get?_named hnames (runtime.idOf category) hd
  rw [Layout.identifierExpr, identifier?, hids]
  show (if category.idClass == category.idClass then _ else none) = _
  rw [beq_self_eq_true, if_pos rfl]
  exact hget

end

theorem has_named {α : Type} {es : List Definition} {f : Definition → α} {name : String} :
    Table.has (es.map fun d => (d.name, f d)) name = true ↔ ∃ d ∈ es, d.name = name := by
  rw [Table.has_iff, Table.keys, List.map_map, List.mem_map]
  rfl

/-- Names that members can have are identifiers. -/
theorem ofMembers?_named {es : List Definition}
    (hallowed : ∀ d ∈ es, d.name ≠ Identifiers.forbiddenName) (f : Definition → Int) :
    Identifiers.ofMembers? category (es.map fun d => (d.name, f d))
      = some ⟨category, es.map fun d => (d.name, f d)⟩ := by
  refine if_neg fun hforbidden => ?_
  obtain ⟨d, hd, hname⟩ := has_named.1 hforbidden
  exact hallowed d hd hname

theorem ofMembers?_named_eq_none {es : List Definition}
    (hforbidden : ∃ d ∈ es, d.name = Identifiers.forbiddenName) (f : Definition → Int) :
    Identifiers.ofMembers? category (es.map fun d => (d.name, f d)) = none :=
  if_pos (has_named.2 hforbidden)

/-- A name that no member can have ends the import, where no constant is
missing before. -/
theorem run_program_of_forbidden (hnames : ((s.definitions category).map (·.name)).Nodup)
    (hforbidden : ∃ d ∈ Interpreter.enabledDefinitions s category context.enabled,
      d.name = Identifiers.forbiddenName)
    (h : (Interpreter.enabledDefinitions s category context.enabled).find?
      (fun d => !context.runtime.defines category d) = none) :
    run context (Layout.program s category) empty = .error .forbiddenName := by
  have hpairs := memberPairs_eq context category
    (Interpreter.enabledDefinitions s category context.enabled)
  rw [h] at hpairs
  have hnodup : ((Interpreter.enabledDefinitions s category context.enabled).map (·.name)).Nodup :=
    hnames.sublist (List.filter_sublist.map _)
  have hids := @ofMembers?_named_eq_none category _ hforbidden (context.runtime.idOf category)
  rw [← ofPairs_named hnodup] at hids
  rw [run_program, run_append, run_catalogue_of_none rfl hpairs hids]
  rfl

/-- Without a missing constant the import runs to its end. -/
theorem run_program_of_allowed (hnames : ((s.definitions category).map (·.name)).Nodup)
    (hallowed : ∀ d ∈ Interpreter.enabledDefinitions s category context.enabled,
      d.name ≠ Identifiers.forbiddenName)
    (h : (Interpreter.enabledDefinitions s category context.enabled).find?
      (fun d => !context.runtime.defines category d) = none) :
    run context (Layout.program s category) empty = .ok (imported context s category) := by
  have hpairs := memberPairs_eq context category
    (Interpreter.enabledDefinitions s category context.enabled)
  rw [h] at hpairs
  have hes : ∀ e ∈ s.definitions category, e.isEnabled context.enabled = true →
      e ∈ Interpreter.enabledDefinitions s category context.enabled := fun e he henabled =>
    mem_enabledDefinitions.2 ⟨he, henabled⟩
  have hnodup : ((Interpreter.enabledDefinitions s category context.enabled).map (·.name)).Nodup :=
    hnames.sublist (List.filter_sublist.map _)
  have hids := @ofMembers?_named category
    (Interpreter.enabledDefinitions s category context.enabled) hallowed
    (context.runtime.idOf category)
  rw [← ofPairs_named hnodup] at hids
  rw [run_program, run_append, run_catalogue_of_ok rfl hpairs hids, ofPairs_named hnodup]
  have hknows := knows_named (b := ⟨some (s.version.major, s.version.minor, s.version.patch),
    some category, some ⟨category, (Interpreter.enabledDefinitions s category context.enabled).map
      fun d => (d.name, context.runtime.idOf category d)⟩, [], []⟩) hnodup rfl rfl
  have hclasses : Table.merge [] (namedClasses context.runtime category
      (Interpreter.enabledDefinitions s category context.enabled))
      = namedClasses context.runtime category
        (Interpreter.enabledDefinitions s category context.enabled) :=
    ofPairs_named hnodup (classOf context.runtime category)
  have hrun := run_classes hknows hes
  have hrest := run_dispatch (hknows.of_classes (namedClasses context.runtime category
    (Interpreter.enabledDefinitions s category context.enabled)))
    (fun d hd => get?_named hnodup (classOf context.runtime category) hd) hes
  rw [← hclasses] at hrest
  show run context _ _ = _
  rw [run_append, hrun]
  refine hrest.trans ?_
  rw [hclasses]
  rfl

theorem run_program_of_defines (hnames : ((s.definitions category).map (·.name)).Nodup)
    (hallowed : ∀ d ∈ s.definitions category, d.name ≠ Identifiers.forbiddenName)
    (h : (Interpreter.enabledDefinitions s category context.enabled).find?
      (fun d => !context.runtime.defines category d) = none) :
    run context (Layout.program s category) empty = .ok (imported context s category) :=
  run_program_of_allowed hnames (fun d hd => hallowed d (mem_enabledDefinitions.1 hd).1) h

end

end Bindings

end ControlSchema
