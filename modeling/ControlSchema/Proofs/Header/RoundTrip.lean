import ControlSchema.Proofs.Header.Descriptions
import ControlSchema.Proofs.Linkage.Numbering
import ControlSchema.Proofs.Version.RoundTrip

/-!
# Headers read back

The header of a release gives back the runtime that is numbered as the snapshot
is. Each definition has one line on which its constant is found, and the lines of
enumerations and the comments above them hold no constant, although they begin
like one: the values of an enumeration lack the rest of the prefix, and the name
of a control in a comment is not followed by an equals sign. Definitions that
share a constant write it twice with the same number.
-/

namespace ControlSchema

open Number Text HeaderText

namespace Header

/-! ## Numbers that are too long -/

/-- The constants of a category are numbered within the limit. -/
def IsNumbered (s : Snapshot) (category : Category) : Prop :=
  ∀ entry ∈ s.linkageIds category, Number.isWritable entry.2 = true

/-- The numbers of a header that can be too long are those of the version and of the constants. -/
theorem isWritable_iff {s : Snapshot} (hs : s.Accepted) : isWritable s = true ↔
    s.version.isWritable = true ∧
      ∀ category, IsNumbered s category := by
  rw [isWritable, Bool.and_eq_true, List.all_eq_true]
  refine and_congr_right fun _ => ⟨fun h category => ?_, fun h category _ => ?_⟩
  · have hall := (Bool.and_eq_true_iff.1 (h category (by cases category <;> decide))).1
    exact List.all_eq_true.1 hall
  · refine Bool.and_eq_true_iff.2 ⟨List.all_eq_true.2 (h category), ?_⟩
    exact List.all_eq_true.2 fun d hd => List.all_eq_true.2 fun e he =>
      (hs.definitions category d hd).isWritable_value he

/-! ## What is found in a whole header -/

/-- The constant that the line of a definition says. -/
def writtenConstant (s : Snapshot) (category : Category) (d : Definition) : Constant :=
  ⟨category, d.linkageName.toList,
    .decimal (digitsText (((s.linkageIds category).get? d.linkageName).getD 0)).toList⟩

/-- Names are plain, and the constants of enumerators are not mistaken for
identifiers. -/
structure IsPlain (s : Snapshot) : Prop where
  name : ∀ category, ∀ d ∈ s.definitions category, d.IsPlain
  enumerator : ∀ category, ∀ d ∈ s.definitions category, ∀ e ∈ d.enumerators,
    Naming.isPlainName e.name.toList = true
  apart : ∀ category, ∀ d ∈ s.definitions category, ∀ e ∈ d.enumerators, IsApart e

section

variable {s : Snapshot} (h : IsPlain s) (category : Category)
include h

theorem identifiersFound_constants : identifiersFound constantReader s category
    = (s.definitions category).map (writtenConstant s category) := by
  rw [identifiersFound, List.map_eq_flatMap]
  exact List.flatMap_congr fun d hd => found_identifier category (h.name category d hd) _

theorem variantsFound_constants : variantsFound constantReader s category = [] := by
  refine List.flatMap_eq_nil_iff.2 fun d hmem => ?_
  have hd := (List.mem_filter.1 hmem).1
  have hplain := h.name category d hd
  rw [found_constants_of_not_mem (not_mem_supported rfl category hplain),
    found_constants_of_not_mem (not_mem_enum rfl hplain), List.nil_append, List.nil_append]
  refine List.flatMap_eq_nil_iff.2 fun e he => ?_
  exact found_variant (h.enumerator category d hd e he) (h.apart category d hd e he)

theorem identifiersFound_components : identifiersFound componentReader s category = [] := by
  refine List.flatMap_eq_nil_iff.2 fun d hd => ?_
  refine found_components_constantLine
    (not_mem_identifierName rfl category (h.name category d hd)) fun hmem => ?_
  cases isDigit_digitsText _ _ hmem

theorem variantsFound_components : variantsFound componentReader s category = [] := by
  refine List.flatMap_eq_nil_iff.2 fun d hmem => ?_
  have hd := (List.mem_filter.1 hmem).1
  have hplain := h.name category d hd
  rw [found_components_of_not_mem (not_mem_supported rfl category hplain),
    found_components_of_not_mem (not_mem_enum rfl hplain), List.nil_append,
    List.nil_append]
  refine List.flatMap_eq_nil_iff.2 fun e he => found_components_constantLine (fun hmem => ?_)
    fun hmem => ?_
  · rw [variantConstant, String.toList_append] at hmem
    rcases List.mem_append.1 hmem with hmem | hmem
    · exact absurd hmem (by decide)
    · cases (Naming.linkageName_chars (h.enumerator category d hd e he) _ hmem).1
  · rcases intText_chars _ _ hmem with heq | hdigit
    · exact absurd heq (by decide)
    · cases hdigit

end

/-- The constants of a header in the order of its lines. -/
theorem constants_text_of_isPlain {s : Snapshot} (h : IsPlain s)
    (hquiet : ∀ text ∈ s.descriptions, IsQuiet text) (hrelease : s.version.pre = []) :
    constants (text s) = (s.definitions .controls).map (writtenConstant s .controls)
      ++ (s.definitions .properties).map (writtenConstant s .properties) := by
  rw [constants_text, found_opening_constants hrelease, found_body overlooks_constantReader
    fun text htext => found_constants_of_isQuiet (hquiet text htext)]
  rw [identifiersFound_constants h, identifiersFound_constants h, variantsFound_constants h,
    variantsFound_constants h, List.append_nil, List.append_nil, List.nil_append]

theorem componentsFrom_text_of_isPlain {s : Snapshot} (h : IsPlain s)
    (hquiet : ∀ text ∈ s.descriptions, IsQuiet text) (hrelease : s.version.pre = []) :
    componentsFrom 0 (text s).toList
      = [(.major, .decimal (digitsText s.version.major).toList),
        (.minor, .decimal (digitsText s.version.minor).toList),
        (.patch, .decimal (digitsText s.version.patch).toList)] := by
  rw [componentsFrom_text, found_opening_components hrelease, found_body overlooks_componentReader
    fun text htext => found_components_of_isQuiet (hquiet text htext)]
  rw [identifiersFound_components h, identifiersFound_components h, variantsFound_components h,
    variantsFound_components h]
  rfl

end Header

namespace LinkedRuntime

/-! ## Values -/

theorem readValue_digitsText {n : Nat} (h : n < 10 ^ digitLimit) :
    readValue (.decimal (digitsText n).toList) = .ok n := by
  have hlength : ¬ digitLimit < (digitsText n).toList.length :=
    Nat.not_lt.2 ((length_digitsText_le_iff (by decide)).2 h)
  rw [readValue, Numeral.value?, if_neg hlength, ofDigits_digitsText]

theorem number_lt {s : Snapshot} {category : Category} (h : Header.IsNumbered s category)
    {d : Definition} (hd : d ∈ s.definitions category) :
    ((s.linkageIds category).get? d.linkageName).getD 0 < 10 ^ digitLimit := by
  obtain ⟨id, hid, -⟩ := exists_number hd
  rw [hid, Option.getD_some]
  exact Number.isWritable_iff.1 (h _ (Table.mem_of_get? hid))

/-- Constants that are written with their numbers give back the table. -/
theorem ofPairs_numbers (s : Snapshot) (category : Category) :
    Table.ofPairs ((s.definitions category).map fun d => (d.linkageName,
      ((((s.linkageIds category).get? d.linkageName).getD 0 : Nat) : Int)))
      = (ofSnapshot s).ids category := by
  have hkeys : (Table.ofPairs ((s.definitions category).map fun d => (d.linkageName,
      ((((s.linkageIds category).get? d.linkageName).getD 0 : Nat) : Int)))).keys
        = ((ofSnapshot s).ids category).keys := by
    have hfst : ((s.definitions category).map fun d => (d.linkageName,
        ((((s.linkageIds category).get? d.linkageName).getD 0 : Nat) : Int))).map Prod.fst
          = (Snapshot.numbered 1 (s.definitions category)).map Prod.fst := by
      rw [Snapshot.map_fst_numbered, List.map_map]
      rfl
    have hwritten := @Table.keys_merge_congr String Int _ _ Nat [] [] rfl _ _ hfst
    rw [ids_ofSnapshot, Table.keys, Table.keys, List.map_map]
    exact hwritten
  refine Table.ext_of_get? hkeys (Table.nodup_keys_ofPairs _) fun key hkey => ?_
  rw [Table.mem_keys_ofPairs, List.map_map] at hkey
  obtain ⟨d, hd, rfl⟩ := List.mem_map.1 hkey
  obtain ⟨id, hid, hnumber⟩ := exists_number hd
  refine (Table.get?_ofPairs_of_key (fun name =>
    ((((s.linkageIds category).get? name).getD 0 : Nat) : Int)) hkey).trans ?_
  show some ((((s.linkageIds category).get? d.linkageName).getD 0 : Nat) : Int)
    = ((ofSnapshot s).ids category).get? d.linkageName
  rw [hid, hnumber]
  rfl

/-- The constants of a category are told from those of the other. -/
theorem filter_writtenConstant (s : Snapshot) (category : Category) :
    ((s.definitions .controls).map (Header.writtenConstant s .controls)
      ++ (s.definitions .properties).map (Header.writtenConstant s .properties)).filter
        (·.category == category)
      = (s.definitions category).map (Header.writtenConstant s category) := by
  have hown (ds : List Definition) (other : Category) (h : other = category) :
      (ds.map (Header.writtenConstant s other)).filter (·.category == category)
        = ds.map (Header.writtenConstant s other) := by
    refine List.filter_eq_self.2 fun found hfound => ?_
    obtain ⟨d, -, rfl⟩ := List.mem_map.1 hfound
    exact beq_iff_eq.2 h
  have hother (ds : List Definition) (other : Category) (h : other ≠ category) :
      (ds.map (Header.writtenConstant s other)).filter (·.category == category) = [] := by
    refine List.filter_eq_nil_iff.2 fun found hfound => ?_
    obtain ⟨d, -, rfl⟩ := List.mem_map.1 hfound
    exact mt beq_iff_eq.1 h
  rw [List.filter_append]
  cases category with
  | controls => rw [hown _ .controls rfl, hother _ .properties (by decide), List.append_nil]
  | properties => rw [hown _ .properties rfl, hother _ .controls (by decide), List.nil_append]

theorem collect_writtenConstant {s : Snapshot} {category : Category}
    (hnumbered : Header.IsNumbered s category) :
    collect category ((s.definitions .controls).map (Header.writtenConstant s .controls)
      ++ (s.definitions .properties).map (Header.writtenConstant s .properties))
      = .ok ((ofSnapshot s).ids category) := by
  rw [collect, filter_writtenConstant, List.mapM_map,
    Attempt.mapM_eq_ok_map (g := fun d => (d.linkageName,
      ((((s.linkageIds category).get? d.linkageName).getD 0 : Nat) : Int))) fun d hd => ?_]
  · exact congrArg Except.ok (ofPairs_numbers s category)
  · simp only [Function.comp_apply, Header.writtenConstant,
      readValue_digitsText (number_lt hnumbered hd), String.ofList_toList]
    rfl

/-! ## The whole header -/

section

variable {s : Snapshot} (hplain : Header.IsPlain s)
  (hquiet : ∀ text ∈ s.descriptions, Header.IsQuiet text) (hrelease : s.version.pre = [])
  (hwritable : s.version.isWritable = true)
include hplain hquiet hrelease hwritable

theorem headerVersion_text : headerVersion (Header.text s) = .ok (some s.version) := by
  obtain ⟨hmajor, hminor, hpatch⟩ := Version.isWritable_iff.1 hwritable
  have hnumbers : (⟨s.version.major, s.version.minor, s.version.patch, []⟩ : Version)
      = s.version := by rw [← hrelease]
  rw [headerVersion, Header.componentsFrom_text_of_isPlain hplain hquiet hrelease]
  show (do
    let major ← readValue (.decimal (digitsText s.version.major).toList)
    let minor ← readValue (.decimal (digitsText s.version.minor).toList)
    let patch ← readValue (.decimal (digitsText s.version.patch).toList)
    return some ⟨major.toNat, minor.toNat, patch.toNat, []⟩) = Except.ok (some s.version)
  rw [readValue_digitsText hmajor, readValue_digitsText hminor, readValue_digitsText hpatch]
  exact congrArg (fun v => Except.ok (some v)) hnumbers

theorem ofHeader_text (hnumbered : ∀ category, Header.IsNumbered s category) :
    ofHeader (Header.text s) none = .ok (ofSnapshot s) := by
  rw [ofHeader, Header.constants_text_of_isPlain hplain hquiet hrelease]
  dsimp only
  rw [collect_writtenConstant (hnumbered .controls),
    collect_writtenConstant (hnumbered .properties),
    headerVersion_text hplain hquiet hrelease hwritable]
  rfl

end

/-- A release has a header that is read back as the runtime which is numbered as the snapshot is, if
and only if no number of its version and none of its constants is too long to be written. -/
theorem ofTextOrFile_text_eq_ofSnapshot {m : Type → Type} [Monad m] [Storage m] {s : Snapshot}
    (hs : s.Accepted) (hrelease : s.version.pre = []) (hplain : Header.IsPlain s)
    (hdescriptions : ∀ text ∈ s.descriptions, ¬ "LIBCAMERA_".toList <:+: text.toList) :
    (∃ header, Header.generate s = .ok header ∧
      (ofTextOrFile header : ExceptT HeaderError m LinkedRuntime) = pure (ofSnapshot s)) ↔
      s.version.isWritable = true ∧ ∀ category, Header.IsNumbered s category := by
  have hwords : ∀ word ∈ Header.telltales, "LIBCAMERA_".toList <+: word.toList := by decide
  have hquiet : ∀ text ∈ s.descriptions, Header.IsQuiet text := fun text htext word hword hinfix =>
    hdescriptions text htext ((hwords word hword).isInfix.trans hinfix)
  constructor
  · rintro ⟨header, hheader, -⟩
    exact (Header.isWritable_iff hs).1 (Header.generate_eq_ok_iff.1 hheader).1
  · intro h
    refine ⟨_, Header.generate_eq_ok_iff.2 ⟨(Header.isWritable_iff hs).2 h, rfl⟩, ?_⟩
    rw [ofTextOrFile_text, ofHeader_text hplain hquiet hrelease h.1 h.2]
    rfl

theorem ofTextOrFile_text_eq_ofSnapshot_sample : ∃ header,
    Header.generate Bindings.sample = .ok header ∧
    (ofTextOrFile header : ExceptT HeaderError Disk.Run LinkedRuntime)
      = pure (ofSnapshot Bindings.sample) := by
  have hnames : ∀ d ∈ Bindings.sample.controls, d.IsPlain ∧ ∀ e ∈ d.enumerators,
      Naming.isPlainName e.name.toList = true ∧ Header.IsApart e := by
    unfold Header.IsApart Definition.IsPlain
    decide +kernel
  have hplain : Header.IsPlain Bindings.sample := by
    refine ⟨fun category d hd => ?_, fun category d hd e he => ?_, fun category d hd e he => ?_⟩
    all_goals cases category with
      | properties => cases hd
      | controls => ?_
    · exact (hnames d hd).1
    · exact ((hnames d hd).2 e he).1
    · exact ((hnames d hd).2 e he).2
  have hnumbered : ∀ category, Header.IsNumbered Bindings.sample category := by
    unfold Header.IsNumbered
    intro category
    cases category <;> decide +kernel
  exact (ofTextOrFile_text_eq_ofSnapshot Bindings.accepted_sample rfl hplain
    (by decide +kernel)).2 ⟨by decide, hnumbered⟩

/-- A release without definitions, and of a version that is too long to be written. -/
def longRelease : Snapshot := ⟨Version.longVersion, [], []⟩

/-- Everything is as it should be with the release, except that it has no header. -/
theorem not_generates_longRelease :
    longRelease.Accepted ∧ longRelease.version.pre = [] ∧ Header.IsPlain longRelease ∧
    longRelease.descriptions = [] ∧ Header.generate longRelease = .error ⟨⟩ := by
  have hnone (category : Category) : longRelease.definitions category = [] := by
    cases category <;> rfl
  have hlong : Header.isWritable longRelease = false := by
    rw [Header.isWritable, longRelease, Version.isWritable_longVersion]
    rfl
  refine ⟨⟨fun category d hd => ?_, fun category => ?_⟩, rfl, ⟨fun category d hd => ?_,
    fun category d hd => ?_, fun category d hd => ?_⟩, rfl, ?_⟩
  · rw [hnone] at hd
    cases hd
  · rw [hnone]
    exact List.nodup_nil
  · rw [hnone] at hd
    cases hd
  · rw [hnone] at hd
    cases hd
  · rw [hnone] at hd
    cases hd
  · rw [Header.generate, hlong]
    rfl

end LinkedRuntime

end ControlSchema
