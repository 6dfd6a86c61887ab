import ControlSchema.Artifact.Writing
import ControlSchema.Proofs.Bindings.Acceptance
import ControlSchema.Proofs.Header.Pieces
import ControlSchema.Proofs.Release.Reading

/-!
# The files of a snapshot

The names of documents end as no generated file does, and those of the two categories
begin differently, so nothing in a rendered snapshot is written over: the documents
of each category are found again among all files by their names.
-/

namespace ControlSchema

namespace Snapshot

/-- The names of the generated files besides the manifest. -/
def outputNames : List String :=
  [Category.controls.moduleName, Category.properties.moduleName, Header.fileName]

theorem keys_outputs {s : Snapshot} {outputs : Table String String} (h : s.outputs = .ok outputs) :
    outputs.keys = outputNames := by
  obtain ⟨controls, -, h⟩ := Attempt.bind_eq_ok h
  obtain ⟨properties, -, h⟩ := Attempt.bind_eq_ok h
  obtain ⟨header, -, h⟩ := Attempt.bind_eq_ok h
  cases h
  rfl

end Snapshot

namespace Category

variable {category : Category} {name : String}

theorem not_mem_outputNames (h : category.hasDocument name = true) :
    name ∉ Snapshot.outputNames := by
  have hending : ∀ other ∈ Snapshot.outputNames,
      ¬ Document.fileSuffix.toList <:+ other.toList := by decide
  exact fun hmem => ne_of_hasDocument h (hending name hmem) rfl

theorem ne_manifest (h : category.hasDocument name = true) : name ≠ Manifest.fileName :=
  ne_of_hasDocument h (by decide)

end Category

namespace Release

variable {r : Release} {s : Snapshot} {createdAt : String} {files : Table String String}

theorem render_eq_ok (h : r.render s createdAt = .ok files) :
    ∃ outputs, s.outputs = .ok outputs ∧ files = (Table.merge r.allDocuments outputs).put
      Manifest.fileName (r.manifest s outputs createdAt).text := by
  obtain ⟨outputs, houtputs, h⟩ := Attempt.bind_eq_ok h
  cases h
  exact ⟨outputs, houtputs, rfl⟩

theorem mem_keys_allDocuments {name : String} :
    name ∈ r.allDocuments.keys ↔ ∃ category, name ∈ (r.documents category).keys := by
  rw [allDocuments, Table.mem_keys_merge]
  constructor
  · rintro (h | h)
    · exact ⟨.controls, h⟩
    · exact ⟨.properties, h⟩
  · rintro ⟨category, h⟩
    cases category
    · exact Or.inl h
    · exact Or.inr h

theorem mem_keys_render (h : r.render s createdAt = .ok files) {name : String} :
    name ∈ files.keys ↔ (∃ category, name ∈ (r.documents category).keys) ∨
      name ∈ Snapshot.outputNames ∨ name = Manifest.fileName := by
  obtain ⟨outputs, houtputs, rfl⟩ := render_eq_ok h
  rw [Table.mem_keys_put, Table.mem_keys_merge, mem_keys_allDocuments,
    ← Snapshot.keys_outputs houtputs, or_assoc]
  rfl

/-- Every file is written inside of the directory, or not at all. -/
theorem isInner_of_render
    (hnames : ∀ category, ∀ name ∈ (r.documents category).keys, category.hasDocument name = true)
    (h : r.render s createdAt = .ok files) : ∀ name ∈ files.keys, Path.IsInner name := by
  intro name hname
  rcases (mem_keys_render h).1 hname with ⟨category, hdocument⟩ | houtput | rfl
  · exact Category.isInner_of_hasDocument (hnames category name hdocument)
  · simp only [Snapshot.outputNames, List.mem_cons, List.not_mem_nil, or_false] at houtput
    rcases houtput with rfl | rfl | rfl <;> exact Path.IsInner.of_isName (by decide)
  · exact Path.IsInner.of_isName (by decide)

section

variable (hr : r.Collected)
include hr

theorem nodup_keys_allDocuments : r.allDocuments.keys.Nodup :=
  Table.nodup_keys_merge (hr.nodup .controls) _

theorem nodup_keys_render (h : r.render s createdAt = .ok files) : files.keys.Nodup := by
  obtain ⟨outputs, -, rfl⟩ := render_eq_ok h
  exact Table.nodup_keys_put (Table.nodup_keys_merge (nodup_keys_allDocuments hr) _) _ _

/-- A document is found among all documents as it is in its category. -/
theorem get?_allDocuments {category : Category} {name : String}
    (hname : category.hasDocument name = true) :
    r.allDocuments.get? name = (r.documents category).get? name := by
  have hother (other : Category) (hne : category ≠ other) : (r.documents other).get? name = none :=
    Table.get?_eq_none_of_not_mem fun hmem =>
      hne (Category.eq_of_hasDocument hname (hr.names other name hmem))
  have hproperties : Table.get? r.properties.reverse name = r.properties.get? name :=
    Table.get?_reverse (hr.nodup .properties) name
  rw [allDocuments, Table.get?_merge, hproperties]
  cases category with
  | controls =>
    have hnone : r.properties.get? name = none := hother .properties nofun
    rw [hnone]
    rfl
  | properties =>
    have hnone : r.controls.get? name = none := hother .controls nofun
    rw [hnone, Option.or_none]
    rfl

/-- And so it is found among all files. -/
theorem get?_render (h : r.render s createdAt = .ok files) {category : Category} {name : String}
    (hname : category.hasDocument name = true) :
    files.get? name = (r.documents category).get? name := by
  obtain ⟨outputs, houtputs, rfl⟩ := render_eq_ok h
  have hmanifest : ¬ (name == Manifest.fileName) = true := fun heq =>
    Category.ne_manifest hname (beq_iff_eq.1 heq)
  have houtput : name ∉ Table.keys outputs.reverse := by
    have hkeys : Table.keys outputs.reverse = Snapshot.outputNames.reverse := by
      rw [← Snapshot.keys_outputs houtputs, Table.keys, Table.keys, List.map_reverse]
    rw [hkeys, List.mem_reverse]
    exact Category.not_mem_outputNames hname
  rw [Table.get?_put, if_neg hmanifest, Table.get?_merge, Table.get?_eq_none_of_not_mem houtput,
    Option.none_or, get?_allDocuments hr hname]

end

end Release

/-! ## A release that is rendered -/

namespace Bindings

section

attribute [local instance] Readers.standard

theorem parse_switch : (switchRelease "Say").parse = .ok (switchSnapshot "Say") :=
  Attempt.eq_ok_of_toOption (by decide +kernel)

theorem generate_switch (category : Category) :
    generate (switchSnapshot "Say") category
      = .ok (Layout.text (switchSnapshot "Say") category) := by
  obtain ⟨hs, -⟩ := Release.accepted_of_parse parse_switch
  have hversion : (switchSnapshot "Say").version.IsWritten := Version.isWritten_of_pre_eq_nil rfl
  have hnamed : checkNames [] ((switchSnapshot "Say").definitions category) = .ok () := by
    cases category <;> rfl
  have hplain : ∀ d ∈ (switchSnapshot "Say").definitions category, d.IsPlain := by
    cases category
    · exact List.forall_mem_singleton.2 (by decide : Naming.isPlainName "AeEnable".toList = true)
    · exact List.forall_mem_nil _
  have hreadable : ∀ d ∈ (switchSnapshot "Say").definitions category, d.isReadable = true := by
    cases category <;> decide +kernel
  have hnull : ∀ d ∈ (switchSnapshot "Say").definitions category, d.IsNullFree := by
    cases category
    · exact List.forall_mem_singleton.2 ⟨by decide, nofun⟩
    · exact List.forall_mem_nil _
  have hwritable : isWritable (switchSnapshot "Say") category = true := by
    cases category <;> rfl
  refine (generate_eq_ok_iff hs hversion).2 ⟨hnamed, hwritable, ⟨hplain, hreadable, ?_⟩, rfl⟩
  obtain ⟨hchecked, -⟩ := named_of_checkNames hnamed
  exact Layout.nullFree_text (Layout.nullFree_version hversion) (fun d hd =>
    ⟨hs.definitions category d hd, hplain d hd, hchecked.isKeyword hd⟩) hnull

end

variable {text : String}

theorem exists_render_switch (text createdAt : String) :
    ∃ files, (switchRelease text).render (switchSnapshot "Say") createdAt = .ok files := by
  rw [Release.render, Snapshot.outputs, generate_switch, generate_switch,
    Header.generate_eq_ok_iff.2 ⟨by decide +kernel, rfl⟩]
  exact ⟨_, rfl⟩

theorem names_switch : ∀ category, ∀ name ∈ ((switchRelease text).documents category).keys,
    category.hasDocument name = true := by
  intro category
  cases category
  · have hname : Category.controls.hasDocument "control_ids_core.yaml" = true := by decide +kernel
    exact List.forall_mem_singleton.2 hname
  · exact List.forall_mem_nil _

/-- The names of all files of the release's snapshot. -/
theorem isName_of_render_switch {createdAt : String} {files : Table String String}
    (h : (switchRelease text).render (switchSnapshot "Say") createdAt = .ok files) :
    ∀ name ∈ files.keys, IsName name ∧ name.utf8ByteSize ≤ Disk.nameLimit := by
  intro name hname
  have hall : ∀ name ∈ "control_ids_core.yaml" :: Manifest.fileName :: Snapshot.outputNames,
      IsName name ∧ name.utf8ByteSize ≤ Disk.nameLimit := by decide +kernel
  have hmem : name ∈ "control_ids_core.yaml" :: Manifest.fileName :: Snapshot.outputNames := by
    rcases (Release.mem_keys_render h).1 hname with ⟨category, hdocument⟩ | houtput | rfl
    · cases category
      · rw [List.mem_singleton.1 hdocument]
        exact List.mem_cons_self
      · cases hdocument
    · exact List.mem_cons_of_mem _ (List.mem_cons_of_mem _ houtput)
    · exact List.mem_cons_of_mem _ List.mem_cons_self
  exact hall name hmem

end Bindings

end ControlSchema
