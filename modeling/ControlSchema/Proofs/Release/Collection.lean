import ControlSchema.Proofs.Release.Faults
import ControlSchema.Proofs.Release.Reading
import ControlSchema.Proofs.Version.Resolution

/-!
# Which tags become releases

Of all tags those count that name a version other than zero and have a document, and of several such
tags for one version the first. The others leave no trace, whatever the reason for which they were
passed over: a tag without documents does not stand in the way of a later one.

What has been collected is described by the tags that were seen so far, and one more tag either adds
one release or changes nothing. So the description carries over to all tags. Sorting comes last, and
it is there that one version can spoil the rest: with a number that cannot be read it is compared
with no other, so there is no answer as soon as there is another.
-/

namespace ControlSchema

open Disk

/-- The file is a document of some category. -/
def IsDocument (name : String) : Prop := ∃ category : Category, category.hasDocument name = true

/-! ## What a source offers -/

namespace ReleaseSource

/-- Asking changes nothing on the disk, so the source answers the same at any time. -/
structure Steady (source : ReleaseSource Run) (d : Disk) : Prop where
  tags : (source.tags.run d).2 = d
  files (tag : String) : ((source.files tag).run d).2 = d
  read (tag name : String) : ((source.read tag name).run d).2 = d

/-- A directory of releases is read without a change to the disk. -/
theorem steady_inDirectory {root : String} {d : Disk} (h : d.kindOf root = some .directory) :
    (inDirectory root).Steady d where
  tags := (@spares_entriesOf d (fun _ => True) _ h .directory).disk
  files tag := (@spares_files d (fun _ => True) root tag trivial).disk
  read tag name := (@spares_read d (fun _ => True) root tag name).disk

variable (source : ReleaseSource Run) (d : Disk)

def Lists (tag : String) (files : List String) : Prop := ((source.files tag).run d).1 = .ok files

def Holds (tag name text : String) : Prop := ((source.read tag name).run d).1 = .ok text

/-- The tags that are looked at: those that are given, or else all that the source knows. -/
def Considers (given : Option (List String)) (tags : List String) : Prop :=
  match given with
  | some given => given = tags
  | none => (source.tags.run d).1 = .ok tags

/-- The tag names a version other than zero, and it has a document. -/
structure Offers (tag : String) (version : Version) : Prop where
  named : Version.ofTag? tag = some version
  notZero : version.isZero = false
  document : ∃ files, source.Lists d tag files ∧ ∃ name ∈ files, IsDocument name

/-- The tag is the first one that offers the version. -/
def OffersFirst (tags : List String) (tag : String) (version : Version) : Prop :=
  ∃ before after, tags = before ++ tag :: after ∧ source.Offers d tag version ∧
    ∀ other ∈ before, ¬ source.Offers d other version

/-- Nothing fails that is asked for: the files of a tag whose version was not offered before, and
the texts of the documents among them. -/
def Readable (tags : List String) : Prop :=
  ∀ before tag after version, tags = before ++ tag :: after → Version.ofTag? tag = some version →
    version.isZero = false → (∀ other ∈ before, ¬ source.Offers d other version) →
      ∃ files, source.Lists d tag files ∧
        ∀ name ∈ files, IsDocument name → ∃ text, source.Holds d tag name text

variable {source d} {tag name : String} {files : List String} {version : Version}

theorem Steady.files_run (h : source.Steady d) (hlists : source.Lists d tag files) :
    (source.files tag).run d = (.ok files, d) := Prod.ext hlists (h.files tag)

theorem Steady.read_run (h : source.Steady d) {text : String}
    (hholds : source.Holds d tag name text) : (source.read tag name).run d = (.ok text, d) :=
  Prod.ext hholds (h.read tag name)

theorem Lists.unique {others : List String} (h : source.Lists d tag files)
    (h' : source.Lists d tag others) : files = others := Except.ok.inj (h.symm.trans h')

theorem Offers.unique {other : Version} (h : source.Offers d tag version)
    (h' : source.Offers d tag other) : version = other :=
  Option.some.inj (h.named.symm.trans h'.named)

theorem OffersFirst.append {tags : List String} (h : source.OffersFirst d tags tag version)
    (more : List String) : source.OffersFirst d (tags ++ more) tag version := by
  obtain ⟨before, after, rfl, hoffers, hbefore⟩ := h
  exact ⟨before, after ++ more, by rw [List.append_assoc, List.cons_append], hoffers, hbefore⟩

theorem OffersFirst.mem {tags : List String} (h : source.OffersFirst d tags tag version) :
    tag ∈ tags ∧ source.Offers d tag version := by
  obtain ⟨before, after, rfl, hoffers, -⟩ := h
  exact ⟨List.mem_append_right before List.mem_cons_self, hoffers⟩

/-! ## Sources that are at hand -/

/-- The source of which each tag is known with the names of its files. -/
def atHand (tags : Table String (List String)) : ReleaseSource Run where
  tags := pure tags.keys
  files tag := pure ((tags.get? tag).getD [])
  read tag name := pure (tag ++ "/" ++ name)

variable {known : Table String (List String)}

theorem steady_atHand : (atHand known).Steady d := ⟨rfl, fun _ => rfl, fun _ _ => rfl⟩

theorem offers_atHand (h : known.get? tag = some files) (hnamed : Version.ofTag? tag = some version)
    (hzero : version.isZero = false) (hname : name ∈ files) (hdocument : IsDocument name) :
    (atHand known).Offers d tag version where
  named := hnamed
  notZero := hzero
  document := ⟨files, congrArg (fun x => Except.ok (Option.getD x [])) h, name, hname, hdocument⟩

theorem readable_atHand (tags : List String) : (atHand known).Readable d tags :=
  fun _ _ _ _ _ _ _ _ => ⟨_, rfl, fun _ _ _ => ⟨_, rfl⟩⟩

end ReleaseSource

/-! ## One tag -/

namespace Release

open ReleaseSource

variable {source : ReleaseSource Run} {d : Disk}

/-- The documents of the release are those among the files of its tag, each with its text and in one
table only. -/
structure ReadFrom (source : ReleaseSource Run) (d : Disk) (files : List String) (r : Release) :
    Prop where
  lists : source.Lists d r.tag files
  once : ∀ name ∈ files, IsDocument name → ∃! category, name ∈ (r.documents category).keys
  texts : ∀ category, ∀ document ∈ r.documents category, document.1 ∈ files ∧
    category.hasDocument document.1 = true ∧ source.Holds d r.tag document.1 document.2
  nodup : ∀ category, (r.documents category).keys.Nodup

theorem exists_readDocuments (hsteady : source.Steady d) {tag : String} {category : Category}
    {files : List String}
    (h : ∀ name ∈ files, IsDocument name → ∃ text, source.Holds d tag name text) :
    ∃ documents, (readDocuments (source.read tag) category files).run d = (.ok documents, d) ∧
      documents.keys.Nodup ∧
      (∀ name, name ∈ documents.keys ↔ name ∈ files ∧ category.hasDocument name = true) ∧
      ∀ document ∈ documents, source.Holds d tag document.1 document.2 := by
  let names := files.filter category.hasDocument
  let text (name : String) : String := ((source.read tag name).run d).1.toOption.getD ""
  have hholds : ∀ name ∈ names, source.Holds d tag name (text name) := by
    intro name hname
    obtain ⟨hfile, hdocument⟩ := List.mem_filter.1 hname
    obtain ⟨found, hfound⟩ := h name hfile ⟨category, hdocument⟩
    have htext : text name = found := congrArg (fun x => x.toOption.getD "") hfound
    rwa [htext]
  have hrun : (names.mapM fun name => do return (name, ← source.read tag name)).run d
      = (.ok (names.map fun name => (name, text name)), d) := by
    refine mapM_of_forall₂ (List.forall₂_map_right_iff.2 (List.forall₂_same.2 fun name hname => ?_))
    rw [run_bind_of_ok (hsteady.read_run (hholds name hname))]
    rfl
  have hkeys (name : String) : name ∈ (Table.ofPairs (names.map fun name => (name, text name))).keys
      ↔ name ∈ names := by
    rw [Table.mem_keys_ofPairs, List.map_map]
    exact Iff.of_eq (congrArg (name ∈ ·) (List.map_id names))
  refine ⟨Table.ofPairs (names.map fun name => (name, text name)), ?_, Table.nodup_keys_ofPairs _,
    fun name => (hkeys name).trans List.mem_filter, fun document hdocument => ?_⟩
  · rw [readDocuments, run_bind_of_ok hrun]
    rfl
  · have hname := (hkeys document.1).1 (List.mem_map.2 ⟨document, hdocument, rfl⟩)
    have hget := Table.get?_of_mem (Table.nodup_keys_ofPairs _) hdocument
    rw [Table.get?_ofPairs_map text (fun _ _ _ _ heq => heq) hname] at hget
    rw [← Option.some.inj hget]
    exact hholds document.1 hname

theorem exists_ofTag (hsteady : source.Steady d) {tag : String} {files : List String}
    (hlists : source.Lists d tag files)
    (h : ∀ name ∈ files, IsDocument name → ∃ text, source.Holds d tag name text)
    (version : Version) : ∃ r, (ofTag source tag version).run d = (.ok r, d) ∧
      r.version = version ∧ r.tag = tag ∧ r.ReadFrom source d files := by
  have hsorted (name : String) : name ∈ files.mergeSort textAtMost ↔ name ∈ files :=
    (List.mergeSort_perm _ _).mem_iff
  have hread (category : Category) := @exists_readDocuments source d hsteady tag category
    (files.mergeSort textAtMost) fun name hname => h name ((hsorted name).1 hname)
  obtain ⟨controls, hcontrols, hcontrolKeys, hcontrolNames, hcontrolTexts⟩ := hread .controls
  obtain ⟨properties, hproperties, hpropertyKeys, hpropertyNames, hpropertyTexts⟩ :=
    hread .properties
  let r : Release := { version, tag, controls, properties }
  have hnames (category : Category) (name : String) : name ∈ (r.documents category).keys ↔
      name ∈ files ∧ category.hasDocument name = true := by
    rw [← hsorted name]
    cases category
    · exact hcontrolNames name
    · exact hpropertyNames name
  refine ⟨r, ?_, rfl, rfl, hlists, fun name hname hdocument => ?_,
    fun category document hdocument => ?_, fun category => ?_⟩
  · rw [ofTag, run_bind_of_ok (hsteady.files_run hlists), run_bind_of_ok hcontrols,
      run_bind_of_ok hproperties]
    rfl
  · obtain ⟨category, hcategory⟩ := hdocument
    exact ⟨category, (hnames category name).2 ⟨hname, hcategory⟩, fun other hother =>
      Category.eq_of_hasDocument ((hnames other name).1 hother).2 hcategory⟩
  · obtain ⟨hfile, hcategory⟩ :=
      (hnames category document.1).1 (List.mem_map.2 ⟨document, hdocument, rfl⟩)
    refine ⟨hfile, hcategory, ?_⟩
    cases category
    · exact hcontrolTexts document hdocument
    · exact hpropertyTexts document hdocument
  · cases category
    · exact hcontrolKeys
    · exact hpropertyKeys

theorem ReadFrom.hasDocuments_iff {files : List String} {r : Release}
    (h : r.ReadFrom source d files) : r.hasDocuments = true ↔ ∃ name ∈ files, IsDocument name := by
  have hsome : r.hasDocuments = true ↔ ∃ category, r.documents category ≠ [] := by
    rw [hasDocuments, Bool.or_eq_true, Bool.not_eq_true', Bool.not_eq_true',
      List.isEmpty_eq_false_iff, List.isEmpty_eq_false_iff]
    refine ⟨fun hcases => hcases.elim (⟨.controls, ·⟩) (⟨.properties, ·⟩), ?_⟩
    rintro ⟨category, hne⟩
    cases category
    · exact .inl hne
    · exact .inr hne
  rw [hsome]
  constructor
  · rintro ⟨category, hne⟩
    obtain ⟨document, hdocument⟩ := List.exists_mem_of_ne_nil _ hne
    obtain ⟨hfile, hcategory, -⟩ := h.texts category document hdocument
    exact ⟨document.1, hfile, category, hcategory⟩
  · rintro ⟨name, hname, hdocument⟩
    obtain ⟨category, hmem, -⟩ := h.once name hname hdocument
    obtain ⟨document, hdocument, -⟩ := List.mem_map.1 hmem
    exact ⟨category, List.ne_nil_of_mem hdocument⟩

/-! ## All tags -/

/-- The releases are those of the tags: one for each version that is offered, from the first tag
that offers it. -/
structure Gathered (source : ReleaseSource Run) (d : Disk) (tags : List String)
    (releases : List Release) : Prop where
  nodup : (releases.map (·.version)).Nodup
  first : ∀ r ∈ releases, source.OffersFirst d tags r.tag r.version
  complete : ∀ tag ∈ tags, ∀ version, source.Offers d tag version →
    ∃ r ∈ releases, r.version = version
  documents : ∀ r ∈ releases, ∃ files, r.ReadFrom source d files

namespace Gathered

variable {seen : List String} {found : List Release}

theorem nil : Gathered source d [] [] :=
  ⟨List.nodup_nil, List.forall_mem_nil _, List.forall_mem_nil _, List.forall_mem_nil _⟩

/-- A tag that offers nothing new changes nothing. -/
theorem skip (h : Gathered source d seen found) {tag : String}
    (hskip : ∀ version, source.Offers d tag version → ∃ r ∈ found, r.version = version) :
    Gathered source d (seen ++ [tag]) found where
  nodup := h.nodup
  first r hr := (h.first r hr).append [tag]
  complete other hother version hoffers := by
    rcases List.mem_append.1 hother with hother | hother
    · exact h.complete other hother version hoffers
    · cases List.mem_singleton.1 hother
      exact hskip version hoffers
  documents := h.documents

/-- A tag that offers something new adds its release. -/
theorem add (h : Gathered source d seen found) {r : Release} {files : List String}
    (hnew : ∀ other ∈ found, other.version ≠ r.version)
    (hoffers : source.Offers d r.tag r.version) (hread : r.ReadFrom source d files) :
    Gathered source d (seen ++ [r.tag]) (found ++ [r]) where
  nodup := by
    rw [List.map_append, List.nodup_append]
    refine ⟨h.nodup, List.nodup_singleton _, ?_⟩
    intro version hversion other hother heq
    obtain ⟨old, hold, rfl⟩ := List.mem_map.1 hversion
    exact hnew old hold (heq.trans (List.mem_singleton.1 hother))
  first other hother := by
    rcases List.mem_append.1 hother with hother | hother
    · exact (h.first other hother).append [r.tag]
    · cases List.mem_singleton.1 hother
      refine ⟨seen, [], rfl, hoffers, fun tag htag hearlier => ?_⟩
      obtain ⟨old, hold, heq⟩ := h.complete tag htag r.version hearlier
      exact hnew old hold heq
  complete tag htag version hversion := by
    rcases List.mem_append.1 htag with htag | htag
    · obtain ⟨old, hold, heq⟩ := h.complete tag htag version hversion
      exact ⟨old, List.mem_append_left _ hold, heq⟩
    · cases List.mem_singleton.1 htag
      exact ⟨r, List.mem_append_right _ (List.mem_singleton_self r), hoffers.unique hversion⟩
  documents other hother := by
    rcases List.mem_append.1 hother with hother | hother
    · exact h.documents other hother
    · cases List.mem_singleton.1 hother
      exact ⟨files, hread⟩

theorem perm (h : Gathered source d seen found) {releases : List Release}
    (hperm : releases.Perm found) : Gathered source d seen releases where
  nodup := (hperm.map _).nodup_iff.2 h.nodup
  first r hr := h.first r (hperm.mem_iff.1 hr)
  complete tag htag version hversion := by
    obtain ⟨r, hr, heq⟩ := h.complete tag htag version hversion
    exact ⟨r, hperm.mem_iff.2 hr, heq⟩
  documents r hr := h.documents r (hperm.mem_iff.1 hr)

/-- One tag is passed over or adds its release, and the collection goes on with the rest. -/
theorem exists_step (hsteady : source.Steady d) {tag : String} {rest : List String}
    (hreadable : source.Readable d (seen ++ tag :: rest)) (h : Gathered source d seen found) :
    ∃ next, (collect source found (tag :: rest)).run d = (collect source next rest).run d ∧
      Gathered source d (seen ++ [tag]) next := by
  rw [collect]
  cases hversion : Version.ofTag? tag with
  | none =>
    refine ⟨found, rfl, h.skip fun version hoffers => ?_⟩
    cases hversion.symm.trans hoffers.named
  | some version =>
    simp only
    split
    · next hpassed =>
      refine ⟨found, rfl, h.skip fun other hoffers => ?_⟩
      cases hversion.symm.trans hoffers.named
      rw [hoffers.notZero, Bool.false_or, List.any_eq_true] at hpassed
      obtain ⟨r, hr, heq⟩ := hpassed
      exact ⟨r, hr, beq_iff_eq.1 heq⟩
    · next hwanted =>
      rw [Bool.or_eq_true, not_or, Bool.not_eq_true, List.any_eq_true] at hwanted
      obtain ⟨hzero, hnew⟩ := hwanted
      -- What was offered was collected, so nothing has offered this version.
      have hearlier : ∀ other ∈ seen, ¬ source.Offers d other version := by
        intro other hother hoffers
        obtain ⟨r, hr, heq⟩ := h.complete other hother version hoffers
        exact hnew ⟨r, hr, beq_iff_eq.2 heq⟩
      obtain ⟨files, hlists, htexts⟩ := hreadable seen tag rest version rfl hversion hzero hearlier
      obtain ⟨r, hrun, rfl, rfl, hread⟩ := exists_ofTag hsteady hlists htexts version
      refine ⟨_, run_bind_of_ok hrun, ?_⟩
      split
      · next hsome =>
        refine h.add (fun other hother heq => hnew ⟨other, hother, beq_iff_eq.2 heq⟩) ?_ hread
        exact ⟨hversion, hzero, files, hlists, hread.hasDocuments_iff.1 hsome⟩
      · next hnone =>
        refine h.skip fun other hoffers => ?_
        obtain ⟨others, hothers, hdocument⟩ := hoffers.document
        cases hlists.unique hothers
        exact absurd (hread.hasDocuments_iff.2 hdocument) hnone

/-- What is collected from the tags that are left adds to what is collected so far. -/
theorem exists_collect (hsteady : source.Steady d) {rest : List String}
    (hreadable : source.Readable d (seen ++ rest)) (h : Gathered source d seen found) :
    ∃ releases, (collect source found rest).run d = (.ok releases, d) ∧
      Gathered source d (seen ++ rest) releases := by
  induction rest generalizing seen found with
  | nil => exact ⟨found, rfl, by rwa [List.append_nil]⟩
  | cons tag rest ih =>
    obtain ⟨next, hrun, hnext⟩ := exists_step hsteady hreadable h
    have hsplit : seen ++ tag :: rest = (seen ++ [tag]) ++ rest := by
      rw [List.append_assoc, List.singleton_append]
    rw [hsplit] at hreadable ⊢
    rw [hrun]
    exact ih hreadable hnext

end Gathered

/-! ## In the order of versions -/

/-- The releases of the tags, none of them behind a later version. -/
structure Loaded (source : ReleaseSource Run) (d : Disk) (tags : List String)
    (releases : List Release) : Prop extends Gathered source d tags releases where
  ordered : releases.Pairwise fun a b => a.version.atMost b.version = true

/-- Two versions are offered, and one of them has a number that cannot be read. -/
def IsUncounted (source : ReleaseSource Run) (d : Disk) (tags : List String) : Prop :=
  ∃ tag ∈ tags, ∃ other ∈ tags, ∃ v w, source.Offers d tag v ∧ source.Offers d other w ∧ v ≠ w ∧
    v.HasLongNumber

variable {tags : List String} {given : Option (List String)} {releases : List Release}

theorem isComparable_of_offers {tag : String} {v : Version} (h : source.Offers d tag v) :
    v.isComparable = true ↔ ¬ v.HasLongNumber := by
  obtain ⟨text, htext⟩ := Version.exists_parse_of_ofTag? h.named
  exact Version.isComparable_iff (Version.wellFormed_of_parse htext)

/-- Whether the versions can be sorted is seen from the tags. -/
theorem Gathered.isUncounted_iff (h : Gathered source d tags releases) :
    Version.IsUncounted (releases.map (·.version)) ↔ IsUncounted source d tags := by
  constructor
  · rintro ⟨hlength, v, hv, hcomparable⟩
    obtain ⟨w, hw, hne⟩ : ∃ w ∈ releases.map (·.version), v ≠ w := by
      by_contra hall
      push Not at hall
      have hreplicate := List.eq_replicate_of_mem fun w hw => (hall w hw).symm
      have hnodup := h.nodup
      rw [hreplicate, List.nodup_replicate] at hnodup
      exact Nat.not_le.2 hlength hnodup
    obtain ⟨r, hr, rfl⟩ := List.mem_map.1 hv
    obtain ⟨other, hother, rfl⟩ := List.mem_map.1 hw
    obtain ⟨htag, hoffers⟩ := (h.first r hr).mem
    obtain ⟨htag', hoffers'⟩ := (h.first other hother).mem
    refine ⟨r.tag, htag, other.tag, htag', _, _, hoffers, hoffers', hne, ?_⟩
    by_contra hshort
    exact Bool.false_ne_true (hcomparable.symm.trans ((isComparable_of_offers hoffers).2 hshort))
  · rintro ⟨tag, htag, other, hother, v, w, hv, hw, hne, hlong⟩
    obtain ⟨r, hr, rfl⟩ := h.complete tag htag v hv
    obtain ⟨r', hr', rfl⟩ := h.complete other hother w hw
    refine ⟨?_, r.version, List.mem_map.2 ⟨r, hr, rfl⟩, ?_⟩
    · rw [List.length_map]
      by_contra hlength
      obtain ⟨a, ha⟩ : ∃ a, releases = [a] := List.length_eq_one_iff.1 (by
        have hpos := List.length_pos_of_mem hr
        omega)
      rw [ha, List.mem_singleton] at hr hr'
      exact hne (by rw [hr, hr'])
    · exact Bool.eq_false_iff.2 fun hcomparable =>
        (isComparable_of_offers hv).1 hcomparable hlong

/-- No release is behind one of a later version. -/
theorem pairwise_mergeSort_releases (found : List Release) :
    (found.mergeSort fun a b => a.version.atMost b.version).Pairwise
      fun a b => a.version.atMost b.version = true :=
  List.pairwise_mergeSort (fun a b c => Version.atMost_trans a.version b.version c.version)
    (fun a b => Version.atMost_total a.version b.version) found

theorem pairwise_of_readAll {d' : Disk} (h : (readAll source given).run d = (.ok releases, d')) :
    releases.Pairwise fun a b => a.version.atMost b.version = true := by
  obtain ⟨names, collected, d₁, d₂, -, rfl⟩ := exists_collect_of_readAll h
  exact pairwise_mergeSort_releases collected

theorem exists_readAll (hsteady : source.Steady d) (hconsiders : source.Considers d given tags)
    (hreadable : source.Readable d tags) : ∃ releases,
    (readAll source given).run d = (.ok releases, d) ∧ Loaded source d tags releases := by
  obtain ⟨found, hcollect, hfound⟩ :=
    @Gathered.exists_collect source d [] [] hsteady tags hreadable .nil
  refine ⟨found.mergeSort fun a b => a.version.atMost b.version, ?_,
    hfound.perm (List.mergeSort_perm _ _), pairwise_mergeSort_releases found⟩
  · cases given with
    | some given =>
      obtain rfl : given = tags := hconsiders
      show (collect source [] given >>= _).run d = _
      rw [run_bind_of_ok hcollect]
      rfl
    | none =>
      have htags : source.tags.run d = (.ok tags, d) := Prod.ext hconsiders hsteady.tags
      show (source.tags >>= _).run d = _
      rw [run_bind_of_ok htags]
      show (collect source [] tags >>= _).run d = _
      rw [run_bind_of_ok hcollect]
      rfl

theorem exists_readAllChecked (hsteady : source.Steady d)
    (hconsiders : source.Considers d given tags) (hreadable : source.Readable d tags) :
    ∃ releases, Loaded source d tags releases ∧ (readAllChecked source given).run d
      = (.ok ((Version.sortChecked (releases.map (·.version))).map fun _ => releases), d) := by
  obtain ⟨releases, hrun, hloaded⟩ := exists_readAll hsteady hconsiders hreadable
  refine ⟨releases, hloaded, ?_⟩
  rw [readAllChecked, run_bind_of_ok hrun]
  rfl

theorem readAllChecked_of_isUncounted (hsteady : source.Steady d)
    (hconsiders : source.Considers d given tags) (hreadable : source.Readable d tags)
    (h : IsUncounted source d tags) :
    (readAllChecked source given).run d = (.ok (.error .uncounted), d) := by
  obtain ⟨releases, hloaded, hrun⟩ := exists_readAllChecked hsteady hconsiders hreadable
  rw [hrun, Version.sortChecked_of_isUncounted (hloaded.isUncounted_iff.2 h)]
  rfl

/-- Where no read fails, a source is loaded: one release comes out for each version that is offered,
from the first tag that offers it and with the documents of that tag, in the order of the versions.
There is only one thing that keeps it from being loaded, a version that is offered beside another
and has a number that cannot be read. -/
theorem readAllChecked_loads_iff (hsteady : source.Steady d)
    (hconsiders : source.Considers d given tags) (hreadable : source.Readable d tags) :
    ((∃ releases, (readAllChecked source given).run d = (.ok (.ok releases), d) ∧
        Loaded source d tags releases) ↔ ¬ IsUncounted source d tags) ∧
    (IsUncounted source d tags →
      (readAllChecked source given).run d = (.ok (.error .uncounted), d)) := by
  refine ⟨⟨?_, fun h => ?_⟩, readAllChecked_of_isUncounted hsteady hconsiders hreadable⟩
  · rintro ⟨releases, hrun, -⟩ h
    rw [readAllChecked_of_isUncounted hsteady hconsiders hreadable h] at hrun
    cases hrun
  · obtain ⟨releases, hloaded, hrun⟩ := exists_readAllChecked hsteady hconsiders hreadable
    rw [Version.sortChecked_of_not_isUncounted (mt hloaded.isUncounted_iff.1 h)] at hrun
    exact ⟨releases, hrun, hloaded⟩

/-! ## Directories -/

section

variable {root : String}

/-- The tags in a directory that have files are names of directories, and these are short. -/
theorem isComparable_of_files {tag : String} {files : List String} {version : Version}
    (h : (inDirectory root).Lists d tag files) (hfiles : files ≠ [])
    (hversion : Version.ofTag? tag = some version) : version.isComparable = true := by
  have hasks : Inquires (asFault (Storage.leadsTo .directory (tagDirectory root tag)) :
      ExceptT ReleaseFault Run Bool) := (Storage.inquires_leadsTo .directory _).adapt _
  obtain ⟨found, hfound, h⟩ := Attempt.bind_eq_ok ((answer_bind hasks _ _).symm.trans h)
  have hkind := kindOf_of_asFault hfound
  split at h
  · next hdirectory =>
    obtain ⟨hplace, -⟩ := kindOf_eq_directory (beq_iff_eq.1 (hkind.symm.trans hdirectory))
    obtain ⟨text, ⟨-, path, -, rfl⟩, hparse⟩ := Version.ofTag?_eq_some_iff.1 hversion
    have hnames : Path.names (path ++ "v" ++ text)
        ⊆ Path.names (tagDirectory root (path ++ "v" ++ text)) := by
      rw [tagDirectory, Path.below, Path.names_tidy]
      exact Path.names_subset_join root _
    refine Version.isComparable_of_place hplace hnames ?_ hparse
    rw [String.toList_append]
    exact (List.suffix_append _ _).isInfix
  · cases h
    exact absurd rfl hfiles

/-- So the versions in a directory can always be sorted. -/
theorem not_isUncounted_inDirectory : ¬ IsUncounted (inDirectory root) d tags := by
  rintro ⟨tag, -, other, -, v, w, hv, hw, -, hlong⟩
  obtain ⟨files, hlists, name, hname, -⟩ := hv.document
  exact (isComparable_of_offers hv).1
    (isComparable_of_files hlists (List.ne_nil_of_mem hname) hv.named) hlong

/-- A directory where no read fails is loaded. -/
theorem readAllChecked_inDirectory_loads (hdirectory : d.kindOf root = some .directory)
    (hconsiders : (inDirectory root).Considers d given tags)
    (hreadable : (inDirectory root).Readable d tags) : ∃ releases,
    (readAllChecked (inDirectory root : ReleaseSource Run) given).run d
      = (.ok (.ok releases), d) ∧ Loaded (inDirectory root) d tags releases := by
  obtain ⟨releases, hloaded, hrun⟩ :=
    exists_readAllChecked (steady_inDirectory hdirectory) hconsiders hreadable
  rw [Version.sortChecked_of_not_isUncounted
    (mt hloaded.isUncounted_iff.1 not_isUncounted_inDirectory)] at hrun
  exact ⟨releases, hrun, hloaded⟩

/-- Whatever comes of reading a directory, it makes no difference whether the versions are
checked. -/
theorem answer_readAllChecked_inDirectory (root : String) (given : Option (List String))
    (d : Disk) :
    d.answer (readAllChecked (inDirectory root : ReleaseSource Run) given)
      = (d.answer (readAll (inDirectory root) given)).map .ok := by
  rcases hrun : (readAll (inDirectory root : ReleaseSource Run) given).run d with ⟨result, d'⟩
  cases result with
  | error fault => rw [answer, answer, hrun, readAllChecked, run_bind_of_error hrun]; rfl
  | ok releases =>
    have hcomparable : ∀ r ∈ releases, r.version.isComparable = true := by
      refine forall_of_readAll (fun tag version r d₁ d₂ hversion htag hsome => ?_) hrun
      obtain ⟨files, d₃, hfiles, hne⟩ := exists_files_of_ofTag htag hsome
      rw [(ofTag_eq_ok htag).1]
      exact isComparable_of_files (congrArg Prod.fst hfiles) hne hversion
    rw [answer, answer, hrun, readAllChecked, run_bind_of_ok hrun,
      Version.sortChecked_of_isComparable (List.forall_mem_map.2 hcomparable)]
    rfl

end

/-- Two versions under four tags: one of the tags has no documents, another comes too late. -/
def shelved : Table String (List String) := [
  ("v1.1.0", ["control_ids_core.yaml"]), ("v1.0.0+empty", ["README"]),
  ("refs/tags/v1.0.0", ["README", "property_ids_core.yaml"]), ("v1.0.0", ["control_ids_core.yaml"])]

theorem readAllChecked_loads_shelved : ∃ releases,
    (readAllChecked (atHand shelved) none).run (.empty []) = (.ok (.ok releases), .empty []) ∧
    Loaded (atHand shelved) (.empty []) shelved.keys releases := by
  refine (@readAllChecked_loads_iff (atHand shelved) (.empty []) shelved.keys none steady_atHand rfl
    (readable_atHand _)).1.2 ?_
  rintro ⟨tag, htag, -, -, v, -, hv, -, -, part, hpart, -⟩
  have hreleases : ∀ tag ∈ shelved.keys, (Version.ofTag? tag).all (·.pre.isEmpty) = true := by
    decide +kernel
  have hempty := hreleases tag htag
  rw [hv.named, Option.all_some, List.isEmpty_iff] at hempty
  rw [hempty] at hpart
  cases hpart

/-- Two versions, one of them with a number that is too long. -/
def counted : Table String (List String) := [
  ("v" ++ Version.countedVersion.text, ["control_ids_core.yaml"]),
  ("v1.0.0", ["control_ids_core.yaml"])]

/-- Nothing fails that is read, and yet there are no releases. -/
theorem not_loads_counted :
    (atHand counted).Steady (.empty []) ∧ (atHand counted).Readable (.empty []) counted.keys ∧
    (readAllChecked (atHand counted) none).run (.empty []) = (.ok (.error .uncounted), .empty []) ∧
    ¬ ∃ releases,
      (readAllChecked (atHand counted) none).run (.empty []) = (.ok (.ok releases), .empty []) ∧
      Loaded (atHand counted) (.empty []) counted.keys releases := by
  have hlong : Version.ofTag? ("v" ++ Version.countedVersion.text)
      = some Version.countedVersion := by
    refine (Version.ofTag?_text Version.wellFormed_countedVersion.written (.inl rfl)).trans ?_
    rw [Version.parse_countedVersion]
    rfl
  have hshort : Version.ofTag? "v1.0.0" = some ⟨1, 0, 0, []⟩ := rfl
  have hne : Version.countedVersion ≠ ⟨1, 0, 0, []⟩ := by
    intro heq
    cases congrArg Version.pre heq
  have hnodup : counted.keys.Nodup := by
    refine List.nodup_cons.2 ⟨fun hmem => ?_, List.nodup_singleton _⟩
    have hsame : Version.ofTag? ("v" ++ Version.countedVersion.text) = Version.ofTag? "v1.0.0" :=
      congrArg _ (List.mem_singleton.1 hmem)
    rw [hlong, hshort] at hsame
    exact hne (Option.some.inj hsame)
  have hdocument : IsDocument "control_ids_core.yaml" := ⟨.controls, by decide⟩
  have huncounted : IsUncounted (atHand counted) (.empty []) counted.keys := by
    refine ⟨_, List.mem_cons_self, _, List.mem_cons_of_mem _ List.mem_cons_self, _, _,
      offers_atHand (Table.get?_of_mem hnodup List.mem_cons_self) hlong rfl
        (List.mem_singleton_self _) hdocument,
      offers_atHand (Table.get?_of_mem hnodup (List.mem_cons_of_mem _ List.mem_cons_self)) hshort
        rfl (List.mem_singleton_self _) hdocument, hne, Version.hasLongNumber_countedVersion⟩
  have hfails := @readAllChecked_of_isUncounted (atHand counted) (.empty []) counted.keys none
    steady_atHand rfl (readable_atHand _) huncounted
  refine ⟨steady_atHand, readable_atHand _, hfails, ?_⟩
  rintro ⟨releases, hrun, -⟩
  rw [hfails] at hrun
  cases hrun

end Release

end ControlSchema
