import ControlSchema.Proofs.Source.Lexeme
import ControlSchema.Proofs.Storage.Flat
import ControlSchema.Proofs.Text.Order
import ControlSchema.Proofs.Version
import ControlSchema.Release.Repository
import ControlSchema.Release.Reading

/-!
# Releases as they are read

Whatever a source answers, what is read from it is a release of a version that is
named by its own text, with documents under names of their category and in the order
of these names. The texts are without carriage returns if those of the source are,
as they are when files or the output of a program are read as text.
-/

namespace ControlSchema

open Disk Text

/-! ## Line ends -/

namespace Text

theorem unifyBreaks_of_not_mem {s : String} (h : '\r' ∉ s.toList) : unifyBreaks s = s := by
  have hkept := Source.unifyFrom_append h []
  rw [List.append_nil] at hkept
  rw [unifyBreaks, hkept]
  exact (congrArg String.ofList (List.append_nil s.toList)).trans String.ofList_toList

theorem not_mem_unifyFrom (cs : List Char) : '\r' ∉ unifyFrom cs := by
  fun_induction unifyFrom cs with
  | case1 => exact List.not_mem_nil
  | case2 rest ih =>
    rw [List.mem_cons, not_or]
    exact ⟨by decide, ih⟩
  | case3 c rest hpair ih =>
    rw [List.mem_cons, not_or]
    refine ⟨?_, ih⟩
    split
    · decide
    · rename_i hc
      exact fun heq => hc (beq_iff_eq.2 heq.symm)

theorem not_mem_unifyBreaks (s : String) : '\r' ∉ (unifyBreaks s).toList := by
  rw [unifyBreaks, String.toList_ofList]
  exact not_mem_unifyFrom _

theorem unifyBreaks_eq_self_iff {s : String} : unifyBreaks s = s ↔ '\r' ∉ s.toList :=
  ⟨fun h => h ▸ not_mem_unifyBreaks s, unifyBreaks_of_not_mem⟩

end Text

/-! ## Tags -/

/-- The version of a tag is that of some text. -/
theorem Version.exists_parse_of_ofTag? {tag : String} {v : Version} (h : ofTag? tag = some v) :
    ∃ text, parse text = .ok v := by
  rw [ofTag?] at h
  split at h
  · exact ⟨_, Attempt.eq_ok_of_toOption h⟩
  · cases h

/-! ## Names of documents -/

namespace Category

theorem hasDocument_iff {category : Category} {name : String} : category.hasDocument name = true ↔
    category.filePrefix.toList <+: name.toList ∧ Document.fileSuffix.toList <:+ name.toList := by
  rw [hasDocument, Bool.and_eq_true, List.isPrefixOf_iff_prefix, List.isSuffixOf_iff_suffix]

/-- No document is one of both categories. -/
theorem eq_of_hasDocument {category other : Category} {name : String}
    (h : category.hasDocument name = true) (h' : other.hasDocument name = true) :
    category = other := by
  have hcases := List.prefix_or_prefix_of_prefix (hasDocument_iff.1 h).1 (hasDocument_iff.1 h').1
  cases category <;> cases other
  · rfl
  · exact absurd hcases (by decide)
  · exact absurd hcases (by decide)
  · rfl

/-- The names of documents end as no other file of a snapshot does. -/
theorem ne_of_hasDocument {category : Category} {name other : String}
    (h : category.hasDocument name = true)
    (hother : ¬ Document.fileSuffix.toList <:+ other.toList) : name ≠ other := by
  rintro rfl
  exact hother (hasDocument_iff.1 h).2

/-- A document's name goes down at first, even if there are slashes in it. -/
theorem isInner_of_hasDocument {category : Category} {name : String}
    (h : category.hasDocument name = true) : Path.IsInner name := by
  obtain ⟨rest, hrest⟩ := (hasDocument_iff.1 h).1
  have hslash : '/' ∉ category.filePrefix.toList := by cases category <;> decide
  have hhead : name.toList.head? ≠ some '/' := by
    obtain ⟨c, hc, hne⟩ : ∃ c, category.filePrefix.toList.head? = some c ∧ c ≠ '/' := by
      cases category
      · exact ⟨'c', by decide, by decide⟩
      · exact ⟨'p', by decide, by decide⟩
    rw [← hrest, List.head?_append, hc]
    exact fun heq => hne (Option.some.inj heq)
  obtain ⟨piece, pieces, hpieces⟩ := List.exists_cons_of_ne_nil (splitOn_ne_nil '/' rest)
  have hsplit := splitOn_append_of_not_mem hslash hpieces
  rw [hrest] at hsplit
  refine ⟨beq_eq_false_iff_ne.2 hhead, fun first others hfirst => ?_⟩
  have heq : first = String.ofList (category.filePrefix.toList ++ piece) := by
    rw [Path.pieces, hsplit, List.map_cons] at hfirst
    exact (List.cons.inj hfirst).1.symm
  have hnot : '/' ∉ first.toList :=
    @Path.not_mem_of_mem_pieces name first (hfirst ▸ List.mem_cons_self)
  have hlong : 2 < first.toList.length := by
    have hthree : 2 < category.filePrefix.toList.length := by cases category <;> decide
    rw [heq, String.toList_ofList, List.length_append]
    omega
  refine ⟨?_, ?_, ?_, hnot⟩ <;> rintro rfl <;> exact absurd hlong (by decide)

end Category

/-! ## Sources -/

/-- No text of a source has a carriage return in it. -/
def ReleaseSource.Unbroken (source : ReleaseSource Disk.Run) : Prop :=
  ∀ tag name d text d', (source.read tag name).run d = (.ok text, d') → '\r' ∉ text.toList

theorem Storage.readText_eq_ok {path text : String} {d d' : Disk}
    (h : (Storage.readText path : ExceptT ReadError Disk.Run String).run d = (.ok text, d')) :
    '\r' ∉ text.toList := by
  obtain ⟨exact', d₁, -, h⟩ := run_bind_eq_ok h
  cases h
  exact not_mem_unifyBreaks _

/-- The texts of a directory of releases are read with line feeds for line ends. -/
theorem ReleaseSource.unbroken_inDirectory (root : String) :
    (inDirectory root : ReleaseSource Disk.Run).Unbroken := by
  intro tag name d text d' h
  rcases hrun : (Storage.readText (Path.below (tagDirectory root tag) name) :
      ExceptT Storage.ReadError Disk.Run String).run d with ⟨r, d₁⟩
  have hread : ((inDirectory root : ReleaseSource Disk.Run).read tag name).run d
      = (r.mapError _, d₁) := (run_adapt _ _ d).trans (by rw [hrun])
  rw [hread] at h
  cases r with
  | error e => cases h
  | ok found =>
    cases h
    exact Storage.readText_eq_ok hrun

/-- So is what git puts out. -/
theorem ReleaseSource.runGit_eq_ok {git : Git Disk.Run} {arguments : List String}
    {directory : Option String} {text : String} {d d' : Disk}
    (h : (runGit git arguments directory).run d = (.ok text, d')) : '\r' ∉ text.toList := by
  obtain ⟨report | report, d₁, -, h⟩ := run_bind_eq_ok h
  · dsimp only at h
    split at h
    · cases directory <;> cases h
    · cases h
  · obtain ⟨output, d₂, houtput, h⟩ := run_bind_eq_ok h
    obtain ⟨messages, d₃, -, h⟩ := run_bind_eq_ok h
    split at h
    · cases h
      have hlines := Attempt.mapError_eq_ok (congrArg Prod.fst houtput)
      rw [Text.linesOfBytes] at hlines
      cases hbytes : Text.ofBytes report.output with
      | error fault =>
        rw [hbytes] at hlines
        cases hlines
      | ok exact' =>
        rw [hbytes] at hlines
        cases hlines
        exact Text.not_mem_unifyBreaks exact'
    · cases h

theorem ReleaseSource.unbroken_inRepository (git : Git Disk.Run) (directory schemaDir : String) :
    (inRepository git directory schemaDir).Unbroken :=
  fun _ _ _ _ _ h => runGit_eq_ok h

/-! ## Releases -/

namespace Release

/-- What every release has that is read from a source. -/
structure Collected (r : Release) : Prop where
  version : Version.parse r.version.text = .ok r.version
  names : ∀ category, ∀ name ∈ (r.documents category).keys, category.hasDocument name = true
  nodup : ∀ category, (r.documents category).keys.Nodup
  sorted : ∀ category, (r.documents category).keys.Pairwise (· ≤ ·)
  some : r.hasDocuments = true

/-- The texts of a release are without carriage returns. -/
def Unbroken (r : Release) : Prop :=
  ∀ category, ∀ document ∈ r.documents category, '\r' ∉ document.2.toList

/-- Documents with line feeds for line ends. -/
def unified (documents : Table String String) : Table String String :=
  documents.map fun (name, text) => (name, Text.unifyBreaks text)

theorem keys_unified (documents : Table String String) :
    (unified documents).keys = documents.keys := List.map_map

theorem isEmpty_unified (documents : Table String String) :
    (unified documents).isEmpty = documents.isEmpty := List.isEmpty_map

theorem unified_eq_self_iff {documents : Table String String} :
    unified documents = documents ↔ ∀ document ∈ documents, '\r' ∉ document.2.toList := by
  have hsame : unified documents = documents ↔ unified documents = documents.map id := by
    rw [List.map_id]
  rw [hsame, unified, List.map_inj_left]
  exact forall₂_congr fun document _ =>
    Prod.ext_iff.trans ((and_iff_right rfl).trans Text.unifyBreaks_eq_self_iff)

/-- A release of documents with other texts is the same when all documents are. -/
theorem unbroken_iff {r : Release} :
    r.Unbroken ↔ ∀ category, unified (r.documents category) = r.documents category :=
  forall_congr' fun _ => unified_eq_self_iff.symm

/-- Documents that were read are the files of the category, each with its text. -/
theorem readDocuments_eq_ok {read : String → ExceptT ReleaseFault Disk.Run String}
    {category : Category} {files : List String} {documents : Table String String} {d d' : Disk}
    (h : (readDocuments read category files).run d = (.ok documents, d')) :
    ∃ pairs, documents = Table.ofPairs pairs ∧
      pairs.map Prod.fst = files.filter category.hasDocument ∧
      ∀ pair ∈ pairs, ∃ d d', (read pair.1).run d = (.ok pair.2, d') := by
  obtain ⟨pairs, d₁, hpairs, h⟩ := run_bind_eq_ok h
  cases h
  have hread (name : String) (pair : String × String)
      (h : ∃ d d', (do return (name, ← read name) :
        ExceptT ReleaseFault Disk.Run (String × String)).run d = (.ok pair, d')) :
      pair.1 = name ∧ ∃ d d', (read name).run d = (.ok pair.2, d') := by
    obtain ⟨d, d', h⟩ := h
    obtain ⟨text, d₁, htext, h⟩ := run_bind_eq_ok h
    cases h
    exact ⟨rfl, d, _, htext⟩
  have hall := (mapM_eq_ok hpairs).imp hread
  clear h hpairs
  generalize files.filter category.hasDocument = names at hall
  refine ⟨pairs, rfl, ?_, ?_⟩
  · induction hall with
    | nil => rfl
    | cons hfirst _ ih => rw [List.map_cons, hfirst.1, ih]
  · induction hall with
    | nil => exact List.forall_mem_nil _
    | cons hfirst _ ih =>
      exact List.forall_mem_cons.2 ⟨by rw [hfirst.1]; exact hfirst.2, ih⟩

section

variable {source : ReleaseSource Disk.Run} {tag : String} {version : Version} {r : Release}
  {d d' : Disk}

/-- The documents of a tag are among its files, sorted. -/
theorem ofTag_eq_ok (h : (ofTag source tag version).run d = (.ok r, d')) :
    r.version = version ∧ ∀ category, ∃ (files : List String) (d d' : Disk),
      (readDocuments (source.read tag) category (files.mergeSort textAtMost)).run d
        = (.ok (r.documents category), d') := by
  obtain ⟨files, d₁, -, h⟩ := run_bind_eq_ok h
  obtain ⟨controls, d₂, hcontrols, h⟩ := run_bind_eq_ok h
  obtain ⟨properties, d₃, hproperties, h⟩ := run_bind_eq_ok h
  cases h
  refine ⟨rfl, fun category => ?_⟩
  cases category
  · exact ⟨files, d₁, d₂, hcontrols⟩
  · exact ⟨files, d₂, _, hproperties⟩

/-- A tag whose release has documents has files. -/
theorem exists_files_of_ofTag (h : (ofTag source tag version).run d = (.ok r, d'))
    (hsome : r.hasDocuments = true) :
    ∃ files d₁, (source.files tag).run d = (.ok files, d₁) ∧ files ≠ [] := by
  obtain ⟨files, d₁, hfiles, h⟩ := run_bind_eq_ok h
  refine ⟨files, d₁, hfiles, ?_⟩
  rintro rfl
  rw [List.mergeSort_nil] at h
  cases h
  cases hsome

theorem collected_of_ofTag (hversion : Version.ofTag? tag = some version)
    (h : (ofTag source tag version).run d = (.ok r, d')) (hsome : r.hasDocuments = true) :
    r.Collected := by
  obtain ⟨rfl, hdocuments⟩ := ofTag_eq_ok h
  obtain ⟨text, htext⟩ := Version.exists_parse_of_ofTag? hversion
  have hpairs (category : Category) : ∃ pairs : List (String × String), ∃ files : List String,
      r.documents category = Table.ofPairs pairs ∧
      pairs.map Prod.fst = (files.mergeSort textAtMost).filter category.hasDocument := by
    obtain ⟨files, d₁, d₂, hread⟩ := hdocuments category
    obtain ⟨pairs, heq, hkeys, -⟩ := readDocuments_eq_ok hread
    exact ⟨pairs, files, heq, hkeys⟩
  refine ⟨Version.parse_text htext, fun category name hname => ?_, fun category => ?_,
    fun category => ?_, hsome⟩
  · obtain ⟨pairs, files, heq, hkeys⟩ := hpairs category
    rw [heq, Table.mem_keys_ofPairs, hkeys] at hname
    exact (List.mem_filter.1 hname).2
  · obtain ⟨pairs, files, heq, -⟩ := hpairs category
    rw [heq]
    exact Table.nodup_keys_ofPairs pairs
  · obtain ⟨pairs, files, heq, hkeys⟩ := hpairs category
    rw [heq]
    refine Table.pairwise_keys_ofPairs ?_
    rw [hkeys]
    exact (pairwise_mergeSort_texts files).sublist List.filter_sublist

theorem unbroken_of_ofTag (hsource : source.Unbroken)
    (h : (ofTag source tag version).run d = (.ok r, d')) : r.Unbroken := by
  intro category document hdocument
  obtain ⟨files, d₁, d₂, hread⟩ := (ofTag_eq_ok h).2 category
  obtain ⟨pairs, heq, -, htexts⟩ := readDocuments_eq_ok hread
  rw [heq] at hdocument
  have hfound := Table.get?_of_mem (Table.nodup_keys_ofPairs pairs) hdocument
  rw [Table.ofPairs_eq_merge, Table.get?_merge] at hfound
  cases hlast : Table.get? pairs.reverse document.1 with
  | none =>
    rw [hlast] at hfound
    cases hfound
  | some text =>
    rw [hlast] at hfound
    obtain rfl : text = document.2 := Option.some.inj hfound
    obtain ⟨d₃, d₄, hrun⟩ := htexts _ (List.mem_reverse.1 (Table.mem_of_get? hlast))
    exact hsource tag document.1 d₃ document.2 d₄ hrun

/-- What holds of every tag's release holds of all that are collected. -/
theorem forall_of_collect {P : Release → Prop} {found releases : List Release} {tags : List String}
    (hfound : ∀ r ∈ found, P r)
    (hstep : ∀ tag version r d d', Version.ofTag? tag = some version →
      (ofTag source tag version).run d = (.ok r, d') → r.hasDocuments = true → P r)
    (h : (collect source found tags).run d = (.ok releases, d')) : ∀ r ∈ releases, P r := by
  induction tags generalizing found d with
  | nil =>
    cases h
    exact hfound
  | cons tag rest ih =>
    rw [collect] at h
    split at h
    · exact ih hfound h
    · rename_i version hversion
      split at h
      · exact ih hfound h
      · obtain ⟨r, d₁, htag, h⟩ := run_bind_eq_ok h
        refine ih ?_ h
        split
        · rename_i hsome
          intro other hother
          rcases List.mem_append.1 hother with hother | hother
          · exact hfound other hother
          · rw [List.mem_singleton.1 hother]
            exact hstep tag version r d d₁ hversion htag hsome
        · exact hfound

/-- No two of the releases that are collected are of one version. -/
theorem nodup_of_collect {found releases : List Release} {tags : List String}
    (hfound : (found.map (·.version)).Nodup)
    (h : (collect source found tags).run d = (.ok releases, d')) :
    (releases.map (·.version)).Nodup := by
  induction tags generalizing found d with
  | nil =>
    cases h
    exact hfound
  | cons tag rest ih =>
    rw [collect] at h
    split at h
    · exact ih hfound h
    · split at h
      · exact ih hfound h
      · next version hversion hwanted =>
        obtain ⟨r, d₁, htag, h⟩ := run_bind_eq_ok h
        refine ih ?_ h
        split
        · rw [List.map_append, List.nodup_append]
          refine ⟨hfound, List.nodup_singleton _, fun other hother => ?_⟩
          rw [List.map_singleton, (ofTag_eq_ok htag).1]
          rintro _ hmem rfl
          obtain rfl := List.mem_singleton.1 hmem
          obtain ⟨old, hold, heq⟩ := List.mem_map.1 hother
          exact hwanted (Bool.or_eq_true_iff.2 (.inr (List.any_eq_true.2
            ⟨old, hold, beq_iff_eq.2 heq⟩)))
        · exact hfound

/-- What is read is what was collected, in order. -/
theorem exists_collect_of_readAll {tags : Option (List String)} {releases : List Release}
    (h : (readAll source tags).run d = (.ok releases, d')) : ∃ names collected d₁ d₂,
      (collect source [] names).run d₁ = (.ok collected, d₂) ∧
      releases = collected.mergeSort fun a b => a.version.atMost b.version := by
  have hsorted {names : List String} {d : Disk}
      (h : (do return (← collect source [] names).mergeSort fun a b => a.version.atMost b.version :
        ExceptT ReleaseFault Disk.Run (List Release)).run d = (.ok releases, d')) :
      ∃ names collected d₁ d₂, (collect source [] names).run d₁ = (.ok collected, d₂) ∧
        releases = collected.mergeSort fun a b => a.version.atMost b.version := by
    obtain ⟨collected, d₁, hcollect, h⟩ := run_bind_eq_ok h
    cases h
    exact ⟨names, collected, d, _, hcollect, rfl⟩
  cases tags with
  | some names => exact hsorted h
  | none =>
    obtain ⟨names, d₁, -, h⟩ := run_bind_eq_ok h
    exact hsorted h

theorem forall_of_readAll {P : Release → Prop} {tags : Option (List String)}
    {releases : List Release}
    (hstep : ∀ tag version r d d', Version.ofTag? tag = some version →
      (ofTag source tag version).run d = (.ok r, d') → r.hasDocuments = true → P r)
    (h : (readAll source tags).run d = (.ok releases, d')) : ∀ r ∈ releases, P r := by
  obtain ⟨names, collected, d₁, d₂, hcollect, rfl⟩ := exists_collect_of_readAll h
  exact fun r hr => forall_of_collect (List.forall_mem_nil _) hstep hcollect r
    ((List.mergeSort_perm _ _).mem_iff.1 hr)

theorem nodup_of_readAll {tags : Option (List String)} {releases : List Release}
    (h : (readAll source tags).run d = (.ok releases, d')) :
    (releases.map (·.version)).Nodup := by
  obtain ⟨names, collected, d₁, d₂, hcollect, rfl⟩ := exists_collect_of_readAll h
  have hnone : (([] : List Release).map (·.version)).Nodup := List.nodup_nil
  exact ((List.mergeSort_perm _ _).map _).nodup_iff.2 (nodup_of_collect hnone hcollect)

theorem collected_of_readAll {tags : Option (List String)} {releases : List Release}
    (h : (readAll source tags).run d = (.ok releases, d')) : ∀ r ∈ releases, r.Collected :=
  forall_of_readAll (fun _ _ _ _ _ hversion htag hsome => collected_of_ofTag hversion htag hsome) h

theorem unbroken_of_readAll (hsource : source.Unbroken) {tags : Option (List String)}
    {releases : List Release} (h : (readAll source tags).run d = (.ok releases, d')) :
    ∀ r ∈ releases, r.Unbroken :=
  forall_of_readAll (fun _ _ _ _ _ _ htag _ => unbroken_of_ofTag hsource htag) h

end

end Release

end ControlSchema
