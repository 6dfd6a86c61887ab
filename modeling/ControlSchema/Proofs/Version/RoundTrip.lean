import ControlSchema.Proofs.Artifact.Writing

/-!
# Texts and tags of versions

The text of a version is taken apart into just what it was put together from, whatever its
identifiers are, as long as each is there and has only letters, digits and hyphens: numbers end in
front of a point or a hyphen, a plus sign never occurs, and identifiers have no points in them. So a
version is read back from its text and from every tag that ends in it, and no two versions have a
directory in common. What is read from any text is such a version.

The one exception is length. A number that is too long is neither written nor read, and then a
version has no text, and what would be its text names no version.
-/

namespace ControlSchema

open Text

namespace Version

/-- Identifiers are there, and made of letters, digits and hyphens. -/
structure WellFormed (v : Version) : Prop where
  written : v.IsWritten
  present : ∀ part ∈ v.pre, part ≠ ""

/-! ## Identifiers -/

theorem WellFormed.hasIdentifiers {v : Version} (h : v.WellFormed) : v.HasIdentifiers := by
  by_cases hpre : v.pre = []
  · exact .inl hpre
  · have hpoints : ∀ piece ∈ v.pre.map String.toList, '.' ∉ piece := by
      intro piece hpiece hpoint
      obtain ⟨part, hpart, rfl⟩ := List.mem_map.1 hpiece
      exact absurd (h.written part hpart '.' hpoint) (by decide)
    have hsplit : splitOn '.' (".".intercalate v.pre).toList = v.pre.map String.toList := by
      rw [String.toList_intercalate]
      exact splitOn_intercalate hpoints (mt List.map_eq_nil_iff.1 hpre)
    have hall : ((v.pre.map String.toList).all fun part =>
        !part.isEmpty && part.all isIdentifierChar) = true := by
      rw [List.all_map, List.all_eq_true]
      intro part hpart
      have hne : part.toList ≠ [] := fun hnil =>
        h.present part hpart (String.toList_eq_nil_iff.1 hnil)
      simp only [Function.comp_apply, Bool.and_eq_true, Bool.not_eq_true', List.all_eq_true]
      exact ⟨List.isEmpty_eq_false_iff.2 hne, h.written part hpart⟩
    have hback : (v.pre.map String.toList).map String.ofList = v.pre := by
      rw [List.map_map]
      exact List.map_id'' (fun part => String.ofList_toList) _
    refine .inr ?_
    rw [identifiers?, hsplit, if_pos hall, hback]

/-- What a text names has identifiers as they are written. -/
theorem wellFormed_of_parse {text : String} {v : Version} (h : parse text = .ok v) :
    v.WellFormed := by
  refine ⟨isWritten_of_parse h, fun part hpart => ?_⟩
  rcases hasIdentifiers_of_parse h with hpre | hpre
  · rw [hpre] at hpart
    cases hpart
  · obtain ⟨hall, hpieces⟩ := identifiers?_eq_some hpre
    rw [hpieces] at hpart
    obtain ⟨piece, hpiece, rfl⟩ := List.mem_map.1 hpart
    have hnonempty := (Bool.and_eq_true _ _ ▸ hall piece hpiece).1
    intro hempty
    rw [String.ofList_eq_empty_iff.1 hempty] at hnonempty
    cases hnonempty

/-! ## Long numbers -/

theorem write_of_isWritable {v : Version} (h : v.isWritable = true) : v.write = .ok v.text :=
  if_pos h

theorem write_of_not_isWritable {v : Version} (h : v.isWritable = false) :
    v.write = .error .tooLong := by
  rw [write, h, if_neg Bool.false_ne_true]

theorem numberValue_digitsText_of_le {n : Nat} (h : 10 ^ Number.digitLimit ≤ n) :
    numberValue (Number.digitsText n).toList = .error .tooLong := by
  refine if_pos (Nat.not_le.1 fun hlength => Nat.not_lt.2 h ?_)
  exact (Number.length_digitsText_le_iff (by decide : 0 < Number.digitLimit)).1 hlength

theorem parse_text_of_isWritable {v : Version} (hv : v.WellFormed) (h : v.isWritable = true) :
    parse v.text = .ok v := by
  obtain ⟨hmajor, hminor, hpatch⟩ := isWritable_iff.1 h
  rw [parse_text_eq hv.written hv.hasIdentifiers, numberValue_digitsText hmajor,
    numberValue_digitsText hminor, numberValue_digitsText hpatch]
  rfl

theorem parse_text_of_not_isWritable {v : Version} (hv : v.WellFormed)
    (h : v.isWritable = false) : parse v.text = .error .tooLong := by
  rw [parse_text_eq hv.written hv.hasIdentifiers]
  by_cases hmajor : v.major < 10 ^ Number.digitLimit
  · rw [numberValue_digitsText hmajor]
    by_cases hminor : v.minor < 10 ^ Number.digitLimit
    · have hpatch : ¬ v.patch < 10 ^ Number.digitLimit := fun hpatch =>
        Bool.false_ne_true (h.symm.trans (isWritable_iff.2 ⟨hmajor, hminor, hpatch⟩))
      rw [numberValue_digitsText hminor, numberValue_digitsText_of_le (Nat.not_lt.1 hpatch)]
      rfl
    · rw [numberValue_digitsText_of_le (Nat.not_lt.1 hminor)]
      rfl
  · rw [numberValue_digitsText_of_le (Nat.not_lt.1 hmajor)]
    rfl

/-! ## Tags -/

theorem lastSegment_append {front name : List Char} (hname : '/' ∉ name)
    (hfront : front = [] ∨ ∃ above, front = above ++ ['/']) :
    lastSegment (front ++ name) = name := by
  have halone := splitOn_of_not_mem hname
  rw [lastSegment]
  rcases hfront with rfl | ⟨above, rfl⟩
  · rw [List.nil_append, halone]
    rfl
  · rw [List.append_assoc, List.singleton_append, splitOn_append_cons, halone,
      List.getLast?_concat, Option.getD_some]

/-- The way to a tag ends in front of its last segment. -/
def IsTagPath (path : String) : Prop := path = "" ∨ ∃ above, path = above ++ "/"

theorem ofTag?_text {v : Version} (hv : v.IsWritten) {path : String} (hpath : IsTagPath path) :
    ofTag? (path ++ "v" ++ v.text) = (parse v.text).toOption := by
  have hletter : "v".toList = ['v'] := rfl
  have hslash : '/' ∉ 'v' :: v.text.toList := by
    intro hmem
    rcases List.mem_cons.1 hmem with heq | hmem
    · exact absurd heq (by decide)
    · exact (isIdentifierChar_range (text_chars hv '/' hmem)).2.2.1 rfl
  have hfront : path.toList = [] ∨ ∃ above, path.toList = above ++ ['/'] := by
    rcases hpath with rfl | ⟨above, rfl⟩
    · exact .inl rfl
    · exact .inr ⟨above.toList, String.toList_append⟩
  rw [ofTag?, String.toList_append, String.toList_append, hletter, List.append_assoc,
    List.singleton_append, lastSegment_append hslash hfront]
  exact congrArg (fun text => (parse text).toOption) String.ofList_toList

/-! ## Distinct versions -/

theorem text_injective {v w : Version} (hv : v.WellFormed) (hw : w.WellFormed)
    (h : v.text = w.text) : v = w := by
  have hparts := parts?_text hv.written hv.hasIdentifiers
  rw [h, parts?_text hw.written hw.hasIdentifiers] at hparts
  simp only [Option.some.injEq, Prod.mk.injEq] at hparts
  obtain ⟨⟨hmajor, hminor, hpatch⟩, hpre⟩ := hparts
  have hnumber {m n : Nat} (heq : (Number.digitsText m).toList = (Number.digitsText n).toList) :
      n = m := by
    rw [← Number.ofDigits_digitsText n, ← Number.ofDigits_digitsText m, heq]
  cases v
  cases w
  exact (mk.injEq ..).mpr ⟨hnumber hmajor, hnumber hminor, hnumber hpatch, hpre.symm⟩

theorem directory_injective {v w : Version} (hv : v.WellFormed) (hw : w.WellFormed)
    {versionedDir : String} (h : v.directory versionedDir = w.directory versionedDir) : v = w := by
  have hname := congrArg Path.baseName h
  rw [directory, directory, Path.baseName_join _ (isName_text hv.written),
    Path.baseName_join _ (isName_text hw.written)] at hname
  exact text_injective hv hw hname

/-! ## There and back -/

/-- The version is read from its text, and from every tag that ends in it. -/
def RoundTrips (v : Version) : Prop :=
  ∃ text, v.write = .ok text ∧ parse text = .ok v ∧
    ∀ path, IsTagPath path → ofTag? (path ++ "v" ++ text) = some v

theorem roundTrips_iff {v : Version} (hv : v.WellFormed) :
    v.RoundTrips ↔ v.isWritable = true := by
  constructor
  · rintro ⟨text, -, hparse, -⟩
    exact isWritable_of_parse hparse
  · intro h
    have hparse := parse_text_of_isWritable hv h
    refine ⟨v.text, write_of_isWritable h, hparse, fun path hpath => ?_⟩
    rw [ofTag?_text hv.written hpath, hparse]
    rfl

/-- A version with well-formed identifiers is read back from its text and tags if its numbers are
not too long. If one is, the version cannot be written, and what stands for its text and tags cannot
be read. It shares its directory with no other such version. Whatever is read is a version with
well-formed identifiers and no number that is too long. -/
theorem text_names_version (v : Version) :
    (v.WellFormed → (v.RoundTrips ↔ v.isWritable = true) ∧
      (v.isWritable = false → v.write = .error .tooLong ∧ parse v.text = .error .tooLong ∧
        ∀ path, IsTagPath path → ofTag? (path ++ "v" ++ v.text) = none) ∧
      ∀ w : Version, w.WellFormed → v ≠ w →
        ∀ versionedDir, v.directory versionedDir ≠ w.directory versionedDir) ∧
    ∀ text, parse text = .ok v → v.WellFormed ∧ v.isWritable = true := by
  refine ⟨fun hv => ⟨roundTrips_iff hv, fun h => ?_, fun w hw hne _ heq =>
    hne (directory_injective hv hw heq)⟩, fun text h =>
    ⟨wellFormed_of_parse h, isWritable_of_parse h⟩⟩
  have hparse := parse_text_of_not_isWritable hv h
  refine ⟨write_of_not_isWritable h, hparse, fun path hpath => ?_⟩
  rw [ofTag?_text hv.written hpath, hparse]
  rfl

/-- The least number that is too long to be written. -/
def longVersion : Version := ⟨10 ^ Number.digitLimit, 0, 0, []⟩

theorem wellFormed_of_release {v : Version} (h : v.pre = []) : v.WellFormed := by
  refine ⟨fun part hpart => ?_, fun part hpart => ?_⟩ <;> rw [h] at hpart <;> cases hpart

theorem isWritable_longVersion : longVersion.isWritable = false := by
  rw [← Bool.not_eq_true, isWritable_iff]
  exact fun h => Nat.lt_irrefl _ h.1

/-- Hyphens stand for, in front of and in identifiers here, and a number begins with zeros. -/
def hyphenVersion : Version := ⟨1, 0, 100000000000000000000, ["-", "-a-b", "007"]⟩

theorem text_names_version_hyphens :
    hyphenVersion.WellFormed ∧ hyphenVersion.isWritable = true ∧ hyphenVersion.RoundTrips ∧
    longVersion.WellFormed ∧ longVersion.isWritable = false ∧
    longVersion.write = .error .tooLong ∧ hyphenVersion ≠ longVersion ∧
    hyphenVersion.directory "d" ≠ longVersion.directory "d" ∧
    parse " 1.2.3-00.a+b " = .ok ⟨1, 2, 3, ["00", "a"]⟩ ∧
    (Version.mk 1 2 3 ["00", "a"]).WellFormed := by
  have hletters : hyphenVersion.pre.all (fun part => part.toList.all isIdentifierChar) = true := by
    decide
  have hv : hyphenVersion.WellFormed :=
    ⟨fun part hpart => List.all_eq_true.1 (List.all_eq_true.1 hletters part hpart),
      by simp [hyphenVersion]⟩
  have hshort : hyphenVersion.isWritable = true := by decide +kernel
  have hlong : longVersion.WellFormed := wellFormed_of_release rfl
  have hne : hyphenVersion ≠ longVersion := fun heq =>
    List.cons_ne_nil _ _ (congrArg pre heq)
  have hparse : parse " 1.2.3-00.a+b " = .ok ⟨1, 2, 3, ["00", "a"]⟩ := rfl
  obtain ⟨hback, -, hapart⟩ := (text_names_version hyphenVersion).1 hv
  obtain ⟨-, hnotWritten, -⟩ := (text_names_version longVersion).1 hlong
  exact ⟨hv, hshort, hback.2 hshort, hlong, isWritable_longVersion,
    (hnotWritten isWritable_longVersion).1, hne, hapart _ hlong hne "d", hparse,
    ((text_names_version _).2 _ hparse).1⟩

/-- A number of 4301 digits is neither written nor read. -/
theorem not_roundTrips_longVersion :
    longVersion.WellFormed ∧ longVersion.write = .error .tooLong ∧
    parse longVersion.text = .error .tooLong ∧ ofTag? ("v" ++ longVersion.text) = none ∧
    ¬ longVersion.RoundTrips := by
  have hwellFormed : longVersion.WellFormed := wellFormed_of_release rfl
  have hparse := parse_text_of_not_isWritable hwellFormed isWritable_longVersion
  have htag := ofTag?_text hwellFormed.written (.inl rfl)
  rw [hparse, String.empty_append] at htag
  refine ⟨hwellFormed, write_of_not_isWritable isWritable_longVersion, hparse, htag, ?_⟩
  rw [roundTrips_iff hwellFormed, isWritable_longVersion]
  exact Bool.false_ne_true

end Version

end ControlSchema
