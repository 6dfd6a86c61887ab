import ControlSchema.Linkage.File
import ControlSchema.Proofs.Bindings.Gating
import ControlSchema.Proofs.Header.Lines
import ControlSchema.Storage.Disk

/-!
# Descriptions in a header

A header is read back as plain text, comments included, so a description that
looks like a constant is one. Descriptions without the three words that a reader
asks for leave no trace: what is found in a header is then found on its lines of
code, and these depend on names and numbers only.
-/

namespace ControlSchema

open Number Text HeaderText

/-! ## Leaving descriptions out -/

def Enumerator.undescribed (e : Enumerator) : Enumerator := { e with description := "" }

def Definition.undescribed (d : Definition) : Definition :=
  { d with
    description := ""
    enumeration := d.enumeration.map fun es => es.map Enumerator.undescribed }

namespace Snapshot

/-- The snapshot with nothing in its descriptions. -/
def undescribed (s : Snapshot) : Snapshot :=
  { s with
    controls := s.controls.map Definition.undescribed
    properties := s.properties.map Definition.undescribed }

/-- The descriptions of all definitions and of their enumerators. -/
def descriptions (s : Snapshot) : List String :=
  (s.controls ++ s.properties).flatMap fun d =>
    d.description :: d.enumerators.map (·.description)

variable {s : Snapshot} {category : Category} {d : Definition}

theorem definitions_undescribed (s : Snapshot) (category : Category) :
    s.undescribed.definitions category = (s.definitions category).map Definition.undescribed := by
  cases category <;> rfl

theorem mem_descriptions (hd : d ∈ s.definitions category) {text : String}
    (h : text ∈ d.description :: d.enumerators.map (·.description)) : text ∈ s.descriptions := by
  refine List.mem_flatMap.2 ⟨d, ?_, h⟩
  cases category
  · exact List.mem_append_left _ hd
  · exact List.mem_append_right _ hd

theorem numbered_undescribed (next : Nat) (ds : List Definition) :
    numbered next (ds.map Definition.undescribed) = numbered next ds := by
  induction ds generalizing next with
  | nil => rfl
  | cons d ds ih =>
    rw [List.map_cons, numbered, numbered, ih]
    rfl

/-- Numbers do not depend on descriptions. -/
theorem linkageIds_undescribed (s : Snapshot) (category : Category) :
    s.undescribed.linkageIds category = s.linkageIds category := by
  rw [linkageIds, linkageIds, definitions_undescribed, numbered_undescribed]

theorem enumerators_undescribed (d : Definition) :
    d.undescribed.enumerators = d.enumerators.map Enumerator.undescribed := by
  rw [Definition.enumerators, Definition.enumerators, Definition.undescribed]
  cases d.enumeration <;> rfl

theorem isEnum_undescribed (d : Definition) : d.undescribed.isEnum = d.isEnum := by
  rw [Definition.isEnum, Definition.isEnum, Definition.undescribed]
  cases d.enumeration <;> rfl

theorem eq_empty_of_mem_descriptions_undescribed {text : String}
    (h : text ∈ s.undescribed.descriptions) : text = "" := by
  obtain ⟨d, hd, h⟩ := List.mem_flatMap.1 h
  obtain ⟨original, rfl⟩ : ∃ original : Definition, original.undescribed = d := by
    rcases List.mem_append.1 hd with hd | hd
    · obtain ⟨original, -, heq⟩ := List.mem_map.1 hd
      exact ⟨original, heq⟩
    · obtain ⟨original, -, heq⟩ := List.mem_map.1 hd
      exact ⟨original, heq⟩
  rcases List.mem_cons.1 h with rfl | h
  · rfl
  · rw [enumerators_undescribed, List.map_map] at h
    obtain ⟨e, -, rfl⟩ := List.mem_map.1 h
    rfl

end Snapshot

namespace Header

/-! ## What is found on lines of code -/

section

variable {α : Type} (reader : Reader α)

def identifiersFound (s : Snapshot) (category : Category) : List α :=
  (s.definitions category).flatMap fun d =>
    (constantLine (identifierName category d)
      (digitsText (((s.linkageIds category).get? d.linkageName).getD 0))).found reader

def variantsFound (s : Snapshot) (category : Category) : List α :=
  ((s.definitions category).filter Definition.isEnum).flatMap fun d =>
    (comment "" ("Supported values for " ++ identifierName category d ++ " control")).found reader
      ++ (Piece.code ("enum libcamera_" ++ d.snakeName ++ " \x7b")).found reader
      ++ d.enumerators.flatMap (fun e =>
        (constantLine (variantConstant e) (intText e.value)).found reader)

theorem identifiersFound_undescribed (s : Snapshot) (category : Category) :
    identifiersFound reader s.undescribed category = identifiersFound reader s category := by
  rw [identifiersFound, identifiersFound, Snapshot.definitions_undescribed,
    Snapshot.linkageIds_undescribed, List.flatMap_map]
  rfl

theorem variantsFound_undescribed (s : Snapshot) (category : Category) :
    variantsFound reader s.undescribed category = variantsFound reader s category := by
  have hfilter : Definition.isEnum ∘ Definition.undescribed = Definition.isEnum :=
    funext Snapshot.isEnum_undescribed
  rw [variantsFound, variantsFound, Snapshot.definitions_undescribed, List.filter_map, hfilter,
    List.flatMap_map]
  refine List.flatMap_congr fun d _ => ?_
  rw [Snapshot.enumerators_undescribed, List.flatMap_map]
  rfl

end

/-- The lines behind the opening that are the same in every header. -/
def fixedLines : List String :=
  ["", "\x7d;", "enum " ++ Category.properties.headerEnum ++ " \x7b",
    "#endif /* " ++ guard ++ " */"]

/-- A reader that finds nothing on these lines. -/
structure Overlooks {α : Type} (reader : Reader α) : Prop extends Suits reader where
  fixed : ∀ line ∈ fixedLines, (Piece.code line).found reader = []

section

variable {α : Type} {reader : Reader α} (hreader : Overlooks reader) {s : Snapshot}
  (hquiet : ∀ text ∈ s.descriptions, (comment innerIndent text).found reader = [])
include hreader hquiet

theorem found_identifiers (category : Category) :
    (identifiers s category).flatMap (Piece.found reader) = identifiersFound reader s category := by
  have hclose := hreader.fixed "\x7d;" (by decide)
  rw [identifiers, List.flatMap_append, List.flatMap_singleton, hclose, List.append_nil,
    List.flatMap_assoc, identifiersFound]
  refine List.flatMap_congr fun d hd => ?_
  rw [List.flatMap_cons, List.flatMap_singleton,
    hquiet _ (Snapshot.mem_descriptions hd List.mem_cons_self), List.nil_append]

theorem found_variants (category : Category) :
    (variants s category).flatMap (Piece.found reader) = variantsFound reader s category := by
  have hclose := hreader.fixed "\x7d;" (by decide)
  have hempty := hreader.fixed "" (by decide)
  rw [variants, List.flatMap_assoc, variantsFound]
  refine List.flatMap_congr fun d hd => ?_
  have hdescribed : ∀ e ∈ d.enumerators, (comment innerIndent e.description).found reader = [] :=
    fun e he => hquiet _ (Snapshot.mem_descriptions (List.mem_filter.1 hd).1
      (List.mem_cons_of_mem _ (List.mem_map.2 ⟨e, he, rfl⟩)))
  have hvalues : (d.enumerators.flatMap fun e => [comment innerIndent e.description,
      constantLine (variantConstant e) (intText e.value)]).flatMap (Piece.found reader)
        = d.enumerators.flatMap fun e =>
          (constantLine (variantConstant e) (intText e.value)).found reader := by
    rw [List.flatMap_assoc]
    refine List.flatMap_congr fun e he => ?_
    rw [List.flatMap_cons, List.flatMap_singleton, hdescribed e he, List.nil_append]
  rw [variantPieces, List.flatMap_cons, hempty, List.nil_append, List.flatMap_append,
    List.flatMap_cons, List.flatMap_cons, hvalues, List.flatMap_singleton, hclose, List.append_nil,
    List.append_assoc]

/-- Only lines of code count when the descriptions hold nothing. -/
theorem found_body : (body s).flatMap (Piece.found reader)
    = identifiersFound reader s .controls ++ identifiersFound reader s .properties
      ++ variantsFound reader s .controls ++ variantsFound reader s .properties := by
  have hopen := hreader.fixed ("enum " ++ Category.properties.headerEnum ++ " \x7b") (by decide)
  have hend := hreader.fixed ("#endif /* " ++ guard ++ " */") (by decide)
  have hempty := hreader.fixed "" (by decide)
  simp only [body, List.flatMap_append, found_identifiers hreader hquiet,
    found_variants hreader hquiet, List.flatMap_cons, List.flatMap_nil, hopen, hend, hempty,
    List.append_nil]

/-- Such descriptions may as well be left out. -/
theorem scanFrom_text_undescribed : scanFrom reader false 0 (text s).toList
    = scanFrom reader false 0 (text s.undescribed).toList := by
  have hquiet' : ∀ text ∈ s.undescribed.descriptions,
      (comment innerIndent text).found reader = [] := fun text htext => by
    rw [Snapshot.eq_empty_of_mem_descriptions_undescribed htext]
    rfl
  rw [scanFrom_text hreader.toSuits, scanFrom_text hreader.toSuits, found_body hreader hquiet,
    found_body hreader hquiet', identifiersFound_undescribed, identifiersFound_undescribed,
    variantsFound_undescribed, variantsFound_undescribed]
  rfl

end

/-! ## Both readers -/

/-- Neither an equals sign nor the middle of the word version is there. -/
theorem not_mem_fixedLines {c : Char} (hc : (c == '=' || c == 'V') = true) :
    ∀ line ∈ fixedLines, c ∉ (Piece.code line).chars := by
  have hfeed : c ≠ '\n' := by
    rintro rfl
    cases hc
  have hfree {s : String} {cs : List Char} (hs : s = String.ofList cs)
      (h : cs.all (fun c => !(c == '=' || c == 'V')) = true) : c ∉ s.toList :=
    not_mem_literal hs (not_mem_of_all (p := fun c => c == '=' || c == 'V') h hc)
  intro line hline
  refine not_mem_code hfeed ?_
  simp only [fixedLines, List.mem_cons, List.not_mem_nil, or_false] at hline
  rcases hline with rfl | rfl | rfl | rfl
  · exact nofun
  · exact hfree rfl (by decide)
  · exact not_mem_append (not_mem_append (hfree rfl (by decide)) (hfree rfl (by decide)))
      (hfree rfl (by decide))
  · exact not_mem_append (not_mem_append (hfree rfl (by decide)) (hfree rfl (by decide)))
      (hfree rfl (by decide))

theorem overlooks_constantReader : Overlooks constantReader where
  toSuits := suits_constantReader
  fixed line hline := found_constants_of_not_mem (not_mem_fixedLines rfl line hline)

theorem overlooks_componentReader : Overlooks componentReader where
  toSuits := suits_componentReader
  fixed line hline := by
    refine scanFrom_componentReader_eq_nil (fun _ hversion => ?_) false
    exact not_mem_fixedLines (c := 'V') rfl line hline (hversion.subset (by decide))

/-- The constants of a header, piece by piece. -/
theorem constants_text (s : Snapshot) : constants (text s)
    = scanFrom constantReader false 0 ((opening s.version).flatMap Piece.chars)
      ++ (body s).flatMap (Piece.found constantReader) := by
  rw [constants, constantsFrom_eq_scanFrom, scanFrom_text overlooks_constantReader.toSuits]

theorem componentsFrom_text (s : Snapshot) : componentsFrom 0 (text s).toList
    = scanFrom componentReader false 0 ((opening s.version).flatMap Piece.chars)
      ++ (body s).flatMap (Piece.found componentReader) := by
  rw [componentsFrom_eq_scanFrom false, scanFrom_text overlooks_componentReader.toSuits]

/-- The words that constants and defines of the version cannot do without. -/
def telltales : List String :=
  ["LIBCAMERA_CONTROL_ID_", "LIBCAMERA_PROPERTY_ID_", "LIBCAMERA_VERSION_"]

/-- None of these words occurs. -/
def IsQuiet (text : String) : Prop := ∀ word ∈ telltales, ¬ word.toList <:+: text.toList

instance (text : String) : Decidable (IsQuiet text) :=
  inferInstanceAs (Decidable (∀ word ∈ telltales, ¬ word.toList <:+: text.toList))

theorem isConstantChar_telltale {word : String} (h : word ∈ telltales) :
    ∀ c ∈ word.toList, isConstantChar c = true := by
  simp only [telltales, List.mem_cons, List.not_mem_nil, or_false] at h
  rcases h with rfl | rfl | rfl <;> exact forall_mem_literal rfl (by decide)

theorem telltale_ne_nil {word : String} (h : word ∈ telltales) : word.toList ≠ [] := by
  simp only [telltales, List.mem_cons, List.not_mem_nil, or_false] at h
  rcases h with rfl | rfl | rfl <;> exact nofun

theorem not_infix_comment {text word : String} (h : IsQuiet text) (hword : word ∈ telltales) :
    ¬ word.toList <:+: (comment innerIndent text).chars := by
  have hchars := isConstantChar_telltale hword
  have hne := telltale_ne_nil hword
  have hframe : ∀ c, isFrame c = true → c ∉ word.toList := by
    intro c hc hmem
    have hchar := hchars c hmem
    simp only [isFrame, Bool.or_eq_true, beq_iff_eq] at hc
    rcases hc with ((rfl | rfl) | rfl) | rfl <;> cases hchar
  have hbrief : ¬ word.toList <:+: "\\brief".toList := by
    intro hinfix
    have hnone : ∀ c ∈ "\\brief".toList, (!isConstantChar c) = true :=
      forall_mem_literal (p := fun c => !isConstantChar c) rfl (by decide)
    have hfirst := List.head_mem hne
    have hmem := hinfix.subset hfirst
    have hnot := hnone _ hmem
    rw [hchars _ hfirst] at hnot
    cases hnot
  exact fun hinfix => h word hword
    (infix_of_infix_comment hne hframe eq_space_of_mem_innerIndent hbrief hinfix)

theorem found_constants_of_isQuiet {text : String} (h : IsQuiet text) :
    (comment innerIndent text).found constantReader = [] := by
  refine scanFrom_constantReader_eq_nil (fun category => not_infix_comment h ?_) false
  cases category <;> decide

theorem found_components_of_isQuiet {text : String} (h : IsQuiet text) :
    (comment innerIndent text).found componentReader = [] :=
  scanFrom_componentReader_eq_nil (fun _ => not_infix_comment h (by decide)) false

end Header

/-! ## Reading headers back -/

namespace LinkedRuntime

theorem ofHeader_eq_of_scans {text text' : String}
    (hconstants : constants text = constants text')
    (hcomponents : componentsFrom 0 text.toList = componentsFrom 0 text'.toList)
    (version : Option Version) : ofHeader text version = ofHeader text' version := by
  rw [ofHeader, ofHeader, headerVersion, headerVersion, hconstants, hcomponents]

/-- Quiet descriptions change nothing that is read back. -/
theorem ofHeader_text_undescribed {s : Snapshot}
    (hquiet : ∀ text ∈ s.descriptions, Header.IsQuiet text) (version : Option Version) :
    ofHeader (Header.text s) version = ofHeader (Header.text s.undescribed) version := by
  refine ofHeader_eq_of_scans ?_ ?_ version
  · rw [constants, constants, constantsFrom_eq_scanFrom, constantsFrom_eq_scanFrom]
    exact Header.scanFrom_text_undescribed Header.overlooks_constantReader fun text htext =>
      Header.found_constants_of_isQuiet (hquiet text htext)
  · rw [componentsFrom_eq_scanFrom false, componentsFrom_eq_scanFrom false]
    exact Header.scanFrom_text_undescribed Header.overlooks_componentReader fun text htext =>
      Header.found_components_of_isQuiet (hquiet text htext)

variable {m : Type → Type} [Monad m] [Storage m]

/-- The text of a header has several lines, so it is never meant as a path. -/
theorem ofTextOrFile_text (s : Snapshot) :
    (ofTextOrFile (Header.text s) : ExceptT HeaderError m LinkedRuntime)
      = ExceptT.mk (pure ((ofHeader (Header.text s) none).mapError .badNumber)) := by
  have hbrace : '\x7b' ∈ (Header.text s).toList := by
    have hmem : '\x7b' ∈ (Header.pieces s).flatMap Header.Piece.chars := by
      rw [Header.pieces_eq, List.flatMap_append, Header.opening, List.flatMap_append]
      refine List.mem_append_left _ (List.mem_append_right _ ?_)
      decide
    rw [← Header.toList_text] at hmem
    exact (List.mem_cons.1 hmem).resolve_left (by decide)
  have hpath : mayBePath (Header.text s) = false := by
    rw [mayBePath, List.all_eq_false]
    exact ⟨_, hbrace, by decide⟩
  rw [ofTextOrFile, hpath]
  rfl

/-- Snapshots that differ in their descriptions only have headers that are read
alike, as long as the descriptions are quiet. -/
theorem ofTextOrFile_text_eq_of_undescribed {s s' : Snapshot}
    (hsame : s.undescribed = s'.undescribed)
    (hquiet : ∀ text ∈ s.descriptions, Header.IsQuiet text)
    (hquiet' : ∀ text ∈ s'.descriptions, Header.IsQuiet text) :
    (ofTextOrFile (Header.text s) : ExceptT HeaderError m LinkedRuntime)
      = ofTextOrFile (Header.text s') := by
  rw [ofTextOrFile_text, ofTextOrFile_text, ofHeader_text_undescribed hquiet, hsame,
    ofHeader_text_undescribed hquiet']

theorem ofTextOrFile_text_eq_of_undescribed_sample :
    (∀ text ∈ Bindings.sample.descriptions, Header.IsQuiet text) ∧
    (ofTextOrFile (Header.text Bindings.sample) : ExceptT HeaderError Disk.Run LinkedRuntime)
      = ofTextOrFile (Header.text Bindings.sample.undescribed) := by
  have hquiet : ∀ text ∈ Bindings.sample.descriptions, Header.IsQuiet text := by decide +kernel
  exact ⟨hquiet, ofTextOrFile_text_eq_of_undescribed (by decide +kernel) hquiet
    (by decide +kernel)⟩

end LinkedRuntime

/-- The description of the second control gives the constant of the first
another value. -/
def Snapshot.rebinding : Snapshot where
  version := ⟨0, 1, 0, []⟩
  controls := [⟨"AeEnable", "libcamera", .bool, "", .scalar, none⟩,
    ⟨"Brightness", "libcamera", .float, "Was LIBCAMERA_CONTROL_ID_AE_ENABLE = 7 once.", .scalar,
      none⟩]
  properties := []

theorem Snapshot.accepted_rebinding : rebinding.Accepted ∧ rebinding.undescribed.Accepted := by
  constructor
  all_goals
    refine accepted_of_controls ?_ (by decide)
    exact List.forall_mem_cons.2 ⟨Definition.accepted_of_core (by decide),
      List.forall_mem_singleton.2 (Definition.accepted_of_core (by decide))⟩

/-- Two accepted snapshots that differ in a description only are read back
differently. -/
theorem LinkedRuntime.ofHeader_text_rebinding :
    Snapshot.rebinding.Accepted ∧ Snapshot.rebinding.undescribed.Accepted ∧
    (ofHeader (Header.text Snapshot.rebinding) none).toOption
      = some ⟨some ⟨0, 1, 0, []⟩, [("AE_ENABLE", 7), ("BRIGHTNESS", 2)], []⟩ ∧
    (ofHeader (Header.text Snapshot.rebinding.undescribed) none).toOption
      = some ⟨some ⟨0, 1, 0, []⟩, [("AE_ENABLE", 1), ("BRIGHTNESS", 2)], []⟩ := by
  refine ⟨Snapshot.accepted_rebinding.1, Snapshot.accepted_rebinding.2, ?_, ?_⟩
  all_goals
    rw [ofHeader, headerVersion, Header.constants_text, Header.componentsFrom_text,
      Header.found_opening_constants rfl, Header.found_opening_components rfl]
    decide +kernel

end ControlSchema
