import ControlSchema.Proofs.Definition
import ControlSchema.Proofs.Header.Pieces

/-!
# Lines of code in a header

What readers find on the lines that are not comments. A constant is found on the
line of its definition and nowhere else: the lines of enumerators lack the rest of
the prefix, and on all other lines there is no equals sign. The numbers of the
version are found in the opening, since no define stands behind it.
-/

namespace ControlSchema

open Number Text HeaderText

/-! ## Characters of names -/

namespace Naming

variable {name : String} (h : isPlainName name.toList = true)
include h

theorem linkageName_chars :
    ∀ c ∈ (linkageName name).toList, isWordChar c = true ∧ c.isLower = false := by
  rw [toList_linkageName]
  exact upper_word (isWordChar_of_mem_snakeAfter fun c hc =>
    isWordChar_of_isAlphanum (isAlphanum_of_isPlainName h c hc))

theorem linkageName_ne_nil : (linkageName name).toList ≠ [] := by
  intro hnil
  have hascii := isAsciiName_linkageName h
  rw [hnil] at hascii
  cases hascii

theorem isConstantChar_linkageName :
    ∀ c ∈ (linkageName name).toList, isConstantChar c = true := by
  intro c hc
  obtain ⟨hword, hlower⟩ := linkageName_chars h c hc
  replace hword : (c.isUpper || c.isLower || c.isDigit || c == '_') = true := hword
  rwa [hlower, Bool.or_false] at hword

theorem isWordChar_snakeCase : ∀ c ∈ (snakeCase name).toList, isWordChar c = true := by
  rw [snakeCase, String.toList_ofList]
  exact isWordChar_of_mem_snakeAfter fun c hc =>
    isWordChar_of_isAlphanum (isAlphanum_of_isPlainName h c hc)

end Naming

theorem Text.not_mem_append {c : Char} {front back : String} (hfront : c ∉ front.toList)
    (hback : c ∉ back.toList) : c ∉ (front ++ back).toList := by
  rw [String.toList_append]
  exact fun hmem => (List.mem_append.1 hmem).elim hfront hback

theorem Text.isWord_of_isWordChar {c : Char} (h : isWordChar c = true) : isWord c = true := by
  rw [isWord, classify, if_pos (toNat_lt_of_isWordChar h)]
  exact h

namespace Header

/-! ## The line of a constant -/

theorem chars_constantLine (name value : String) : (constantLine name value).chars
    = '\n' :: ' ' :: ' ' :: ' ' :: ' '
      :: (name.toList ++ ' ' :: '=' :: ' ' :: value.toList ++ [',']) := by
  have hline : (innerIndent ++ name ++ " = " ++ value ++ ",").toList
      = ' ' :: ' ' :: ' ' :: ' '
        :: (name.toList ++ ' ' :: '=' :: ' ' :: value.toList ++ [',']) := by
    simp only [String.toList_append, List.append_assoc]
    rfl
  rw [Piece.chars, constantLine, Piece.lines, List.flatMap_singleton, hline]

/-- The indentation and the comma are passed over. -/
theorem found_constantLine (name value : String) :
    (constantLine name value).found constantReader
      = scanFrom constantReader false 0 (name.toList ++ ' ' :: '=' :: ' ' :: value.toList) := by
  have hnone : ∀ c ∈ ['\n', ' '], ∀ rest, constantReader false (c :: rest) = none := by
    intro c hc rest
    refine constantReader_eq_none (fun category => ?_) false
    rcases List.mem_cons.1 hc with rfl | hc
    · cases category <;> rfl
    · rw [List.mem_singleton.1 hc]
      cases category <;> rfl
  have hfeed := hnone '\n' (by decide)
  have hspace := hnone ' ' (by decide)
  have hword : isWord ' ' = false ∧ isWord '\n' = false := by decide
  have hcomma := scanFrom_append_cons (constantReader_stopsAt (b := ',') rfl) false
    (Nat.zero_le (name.toList ++ ' ' :: '=' :: ' ' :: value.toList).length) []
  rw [Piece.found, chars_constantLine, scanFrom_cons_of_none (hfeed _), hword.2,
    scanFrom_cons_of_none (hspace _), hword.1, scanFrom_cons_of_none (hspace _), hword.1,
    scanFrom_cons_of_none (hspace _), hword.1, scanFrom_cons_of_none (hspace _), hword.1, hcomma]
  exact List.append_nil _

/-- The constant of a definition is found on its line. -/
theorem found_identifier (category : Category) {d : Definition} (hd : d.IsPlain) (n : Nat) :
    (constantLine (identifierName category d) (digitsText n)).found constantReader
      = [⟨category, d.linkageName.toList, .decimal (digitsText n).toList⟩] := by
  have hname : ∀ c ∈ d.linkageName.toList, isConstantChar c = true :=
    Naming.isConstantChar_linkageName hd
  have hline := constantOf?_line (isDigit_digitsText n) (digitsText_ne_nil n) category hname
    (Naming.linkageName_ne_nil hd)
  have hreader : constantAt? (category.headerPrefix.toList
        ++ (d.linkageName.toList ++ ' ' :: '=' :: ' ' :: (digitsText n).toList))
      = constantOf? category (category.headerPrefix.toList
        ++ (d.linkageName.toList ++ ' ' :: '=' :: ' ' :: (digitsText n).toList)) := by
    cases category with
    | controls => exact Option.or_eq_left_of_isSome (by rw [hline]; rfl)
    | properties => rfl
  rw [found_constantLine, identifierName, String.toList_append, List.append_assoc]
  refine scanFrom_eq_singleton (by cases category <;> exact nofun) ?_
  exact hreader.trans hline

/-- The name of an enumerator's constant is not one of the two kinds that count. -/
def IsApart (e : Enumerator) : Prop :=
  ¬ "CONTROL_ID_".toList <+: (Naming.linkageName e.name).toList ∧
    ¬ "PROPERTY_ID_".toList <+: (Naming.linkageName e.name).toList

theorem constantOf?_variant {e : Enumerator} (h : IsApart e) (category : Category)
    (rest : List Char) : constantOf? category
      ((variantConstant e).toList ++ ' ' :: rest) = none := by
  have hspace : ' ' ∉ category.headerPrefix.toList := by
    cases category <;> exact not_mem_literal rfl (by decide)
  refine constantOf?_eq_none_of_not_prefix fun hprefix => ?_
  have hname := prefix_of_prefix_append_cons hspace hprefix
  rw [variantConstant, String.toList_append] at hname
  cases category with
  | controls =>
    exact h.1 ((List.prefix_append_right_inj "LIBCAMERA_".toList).1 hname)
  | properties =>
    exact h.2 ((List.prefix_append_right_inj "LIBCAMERA_".toList).1 hname)

/-- No constant is found on the line of an enumerator. -/
theorem found_variant {e : Enumerator} (hname : Naming.isPlainName e.name.toList = true)
    (h : IsApart e) :
    (constantLine (variantConstant e) (intText e.value)).found constantReader = [] := by
  have hfront : (variantConstant e).toList
      = 'L' :: ("IBCAMERA_".toList ++ (Naming.linkageName e.name).toList) := by
    rw [variantConstant, String.toList_append]
    rfl
  have hword : ∀ c ∈ "IBCAMERA_".toList ++ (Naming.linkageName e.name).toList,
      isWord c = true := by
    intro c hc
    rcases List.mem_append.1 hc with hc | hc
    · exact forall_mem_literal rfl (by decide) c hc
    · exact isWord_of_isWordChar (Naming.linkageName_chars hname c hc).1
  have hvalue : ∀ category : Category,
      ¬ category.headerPrefix.toList <:+: ' ' :: '=' :: ' ' :: (intText e.value).toList := by
    intro category hinfix
    have hletter : 'L' ∈ category.headerPrefix.toList := by cases category <;> decide
    have hmem := hinfix.subset hletter
    simp only [List.mem_cons, Char.reduceEq, false_or] at hmem
    rcases intText_chars e.value 'L' hmem with heq | hdigit
    · exact absurd heq (by decide)
    · cases hdigit
  have hnone := constantReader_eq_none (fun category => constantOf?_variant h category
    ('=' :: ' ' :: (intText e.value).toList)) false
  rw [found_constantLine]
  rw [hfront, List.cons_append] at hnone ⊢
  rw [scanFrom_cons_of_none hnone, (by decide : isWord 'L' = true),
    scanFrom_constantReader_word hword]
  exact scanFrom_constantReader_eq_nil hvalue true

/-! ## Both readers -/

theorem suits_constantReader : Suits constantReader where
  stopsAt _ hb := constantReader_stopsAt hb
  newline _ := constantReader_eq_none (fun category => by cases category <;> rfl) false

theorem suits_componentReader : Suits componentReader where
  stopsAt _ hb := componentReader_stopsAt hb
  newline _ := rfl

/-! ## Lines without a match -/

/-- The characters that constants and defines cannot do without. -/
def isSign (c : Char) : Bool := c == '=' || c == '#'

theorem found_constants_of_not_mem {p : Piece} (h : '=' ∉ p.chars) :
    p.found constantReader = [] := scanFrom_constantReader_eq_nil_of_not_mem h false

theorem found_components_of_not_mem {p : Piece} (h : '#' ∉ p.chars) :
    p.found componentReader = [] :=
  scanFrom_componentReader_eq_nil (fun hdefine => absurd (hdefine.subset (by decide)) h) false

/-- Neither of the two signs is part of a name. -/
theorem not_isWordChar_of_isSign {sign : Char} (h : isSign sign = true) :
    isWordChar sign = false := by
  rw [isSign, Bool.or_eq_true, beq_iff_eq, beq_iff_eq] at h
  rcases h with rfl | rfl <;> rfl

theorem not_mem_of_isSign {sign : Char} (h : isSign sign = true) {s : String} {cs : List Char}
    (hs : s = String.ofList cs) (hall : cs.all (fun c => !isSign c) = true) : sign ∉ s.toList :=
  not_mem_literal hs (not_mem_of_all hall h)

theorem not_mem_code {c : Char} (hc : c ≠ '\n') {line : String} (hline : c ∉ line.toList) :
    c ∉ (Piece.code line).chars := by
  rw [Piece.chars, Piece.lines, List.flatMap_singleton]
  exact fun hmem => hline ((List.mem_cons.1 hmem).resolve_left hc)

theorem ne_newline_of_isSign {sign : Char} (h : isSign sign = true) : sign ≠ '\n' := by
  rintro rfl
  cases h

section

variable {sign : Char} (hsign : isSign sign = true) (category : Category) {d : Definition}
  (hd : d.IsPlain)
include hsign hd

theorem not_mem_identifierName : sign ∉ (identifierName category d).toList := by
  have hprefix : sign ∉ category.headerPrefix.toList := by
    cases category <;> exact not_mem_of_isSign hsign rfl (by decide)
  intro hmem
  rw [identifierName, String.toList_append] at hmem
  rcases List.mem_append.1 hmem with hmem | hmem
  · exact hprefix hmem
  · have hword := (Naming.linkageName_chars hd sign hmem).1
    rw [not_isWordChar_of_isSign hsign] at hword
    cases hword

theorem not_mem_supported : sign ∉ (comment "" ("Supported values for "
    ++ identifierName category d ++ " control")).chars := by
  have hframe : ∀ c, isFrame c = true → c ∉ [sign] := by
    rw [isSign, Bool.or_eq_true, beq_iff_eq, beq_iff_eq] at hsign
    rcases hsign with rfl | rfl
    all_goals
      intro c hc hmem
      rw [List.mem_singleton.1 hmem] at hc
      cases hc
  have hbrief : ¬ [sign] <:+: "\\brief".toList := fun hinfix =>
    not_mem_of_isSign hsign rfl (by decide) ((List.singleton_infix_iff _ _).1 hinfix)
  have hindent : ∀ c ∈ "".toList, c = ' ' := nofun
  intro hmem
  have htext := infix_of_infix_comment (List.cons_ne_nil sign []) hframe hindent hbrief
    ((List.singleton_infix_iff _ _).2 hmem)
  exact not_mem_append (not_mem_append (not_mem_of_isSign hsign rfl (by decide))
    (not_mem_identifierName hsign category hd)) (not_mem_of_isSign hsign rfl (by decide))
    ((List.singleton_infix_iff _ _).1 htext)

omit category in
theorem not_mem_enum :
    sign ∉ (Piece.code ("enum libcamera_" ++ d.snakeName ++ " \x7b")).chars := by
  have hname : sign ∉ d.snakeName.toList := fun hmem => by
    have hword := Naming.isWordChar_snakeCase hd sign hmem
    rw [not_isWordChar_of_isSign hsign] at hword
    cases hword
  exact not_mem_code (ne_newline_of_isSign hsign)
    (not_mem_append (not_mem_append (not_mem_of_isSign hsign rfl (by decide)) hname)
      (not_mem_of_isSign hsign rfl (by decide)))

end

/-- The line of a constant defines nothing. -/
theorem found_components_constantLine {name value : String} (hname : '#' ∉ name.toList)
    (hvalue : '#' ∉ value.toList) : (constantLine name value).found componentReader = [] := by
  refine found_components_of_not_mem fun hmem => ?_
  rw [chars_constantLine] at hmem
  simp only [List.mem_cons, List.mem_append, Char.reduceEq, List.not_mem_nil, or_false,
    hname, hvalue] at hmem

/-! ## The opening -/

theorem text_of_release {v : Version} (h : v.pre = []) : v.text = v.coreText := by
  rw [Version.text, h]
  rfl

/-- The comment on the first line. -/
def title (v : Version) : String := "/* Generated for libcamera " ++ v.text
  ++ ". Do not edit: regenerate with camctl generate. */"

/-- No sign is in the first line of a release. -/
theorem not_mem_title {v : Version} (h : v.pre = []) {sign : Char} (hsign : isSign sign = true) :
    sign ∉ (Piece.code (title v)).chars := by
  have hversion : sign ∉ v.text.toList := fun hmem => by
    rw [text_of_release h] at hmem
    rcases v.coreText_chars sign hmem with rfl | hdigit
    · cases hsign
    · have hword := not_isWordChar_of_isSign hsign
      rw [Naming.isWordChar_of_isDigit hdigit] at hword
      cases hword
  exact not_mem_code (ne_newline_of_isSign hsign)
    (not_mem_append (not_mem_append (not_mem_of_isSign hsign rfl (by decide)) hversion)
      (not_mem_of_isSign hsign rfl (by decide)))

theorem found_opening_constants {v : Version} (h : v.pre = []) :
    scanFrom constantReader false 0 ((opening v).flatMap Piece.chars) = [] := by
  have hfeed : '=' ≠ '\n' := by decide
  have hguard : '=' ∉ guard.toList := not_mem_literal rfl (by decide)
  have hdefine (word : String) (hword : '=' ∉ word.toList) (n : Nat) :
      '=' ∉ (Piece.code (word ++ digitsText n)).chars :=
    not_mem_code hfeed (not_mem_append hword fun hmem => by cases isDigit_digitsText n _ hmem)
  have hlines : ∀ p ∈ opening v, '=' ∉ p.chars := by
    simp only [opening, preamble, List.cons_append, List.nil_append, List.forall_mem_cons]
    exact ⟨not_mem_title h rfl,
      not_mem_code hfeed (not_mem_append (not_mem_literal rfl (by decide)) hguard),
      not_mem_code hfeed (not_mem_append (not_mem_literal rfl (by decide)) hguard),
      not_mem_code hfeed List.not_mem_nil, hdefine _ (not_mem_literal rfl (by decide)) _,
      hdefine _ (not_mem_literal rfl (by decide)) _,
      hdefine _ (not_mem_literal rfl (by decide)) _, not_mem_code hfeed List.not_mem_nil,
      not_mem_code hfeed (not_mem_append (not_mem_append (not_mem_literal rfl (by decide))
        (not_mem_literal rfl (by decide))) (not_mem_literal rfl (by decide))),
      List.forall_mem_nil _⟩
  refine scanFrom_constantReader_eq_nil_of_not_mem (fun hmem => ?_) false
  obtain ⟨p, hp, hmem⟩ := List.mem_flatMap.1 hmem
  exact hlines p hp hmem

/-- The lines behind the first, with the words that a reader looks for. -/
theorem chars_opening (v : Version) : (opening v).flatMap Piece.chars
    = (Piece.code (title v)).chars ++ ('\n' :: ("#ifndef ".toList ++ (guard.toList
      ++ '\n' :: ("#define ".toList ++ (guard.toList ++ '\n' :: '\n'
      :: ("#define".toList ++ ' ' :: ("LIBCAMERA_VERSION_".toList ++ ("MAJOR".toList ++ ' '
        :: ((digitsText v.major).toList ++ '\n'
      :: ("#define".toList ++ ' ' :: ("LIBCAMERA_VERSION_".toList ++ ("MINOR".toList ++ ' '
        :: ((digitsText v.minor).toList ++ '\n'
      :: ("#define".toList ++ ' ' :: ("LIBCAMERA_VERSION_".toList ++ ("PATCH".toList ++ ' '
        :: ((digitsText v.patch).toList ++ '\n'
      :: '\n' :: ("enum ".toList ++ (Category.controls.headerEnum.toList
      ++ " \x7b".toList))))))))))))))))))) := by
  have hdefines : "#define LIBCAMERA_VERSION_MAJOR ".toList
        = "#define".toList ++ ' ' :: ("LIBCAMERA_VERSION_".toList ++ ("MAJOR".toList ++ [' '])) ∧
      "#define LIBCAMERA_VERSION_MINOR ".toList
        = "#define".toList ++ ' ' :: ("LIBCAMERA_VERSION_".toList ++ ("MINOR".toList ++ [' '])) ∧
      "#define LIBCAMERA_VERSION_PATCH ".toList
        = "#define".toList ++ ' '
          :: ("LIBCAMERA_VERSION_".toList ++ ("PATCH".toList ++ [' '])) := by
    refine ⟨?_, ?_, ?_⟩
    all_goals
      rw [String.toList_ofList, String.toList_ofList, String.toList_ofList, String.toList_ofList]
      rfl
  rw [opening, preamble, List.cons_append, List.flatMap_cons]
  refine congrArg ((Piece.code (title v)).chars ++ ·) ?_
  simp only [Piece.chars, Piece.lines, List.cons_append, List.nil_append, List.flatMap_cons,
    List.flatMap_nil, String.toList_append, hdefines, List.append_assoc, List.append_nil,
    String.toList_empty]

/-- The three numbers of the version are found in the opening. -/
theorem found_opening_components {v : Version} (h : v.pre = []) :
    scanFrom componentReader false 0 ((opening v).flatMap Piece.chars)
      = [(.major, .decimal (digitsText v.major).toList),
        (.minor, .decimal (digitsText v.minor).toList),
        (.patch, .decimal (digitsText v.patch).toList)] := by
  have hline (entry : String × Component) (hentry : entry ∈ components) (n : Nat) :=
    @componentsFrom_line (digitsText n).toList (isDigit_digitsText n) (digitsText_ne_nil n) entry
      hentry
  have hseparated : Separated componentReader (Piece.code (title v)).chars := by
    have hlast : (title v).toList.getLast? = some '/' := by
      unfold title
      rw [String.toList_append]
      exact List.getLast?_append_of_ne_nil _ (by decide)
    exact (isSealed_code rfl hlast).separated suits_componentReader
  have htitle : scanFrom componentReader false 0 (Piece.code (title v)).chars = [] :=
    found_components_of_not_mem (not_mem_title h rfl)
  -- The two lines of the guard are no defines of the version.
  have hguard (rest : List Char) : componentsFrom 0 ('\n' :: ("#ifndef ".toList ++ (guard.toList
      ++ '\n' :: ("#define ".toList ++ (guard.toList ++ '\n' :: '\n' :: rest)))))
        = componentsFrom 0 rest := by
    rw [guard, String.toList_ofList, String.toList_ofList, String.toList_ofList]
    rfl
  rw [chars_opening, hseparated, htitle, List.nil_append, ← componentsFrom_eq_scanFrom, hguard]
  refine (hline ("MAJOR", .major) (by decide) v.major _).trans (congrArg (_ :: ·) ?_)
  refine (hline ("MINOR", .minor) (by decide) v.minor _).trans (congrArg (_ :: ·) ?_)
  refine (hline ("PATCH", .patch) (by decide) v.patch _).trans (congrArg (_ :: ·) ?_)
  rw [Category.headerEnum, String.toList_ofList, String.toList_ofList, String.toList_ofList]
  rfl

end Header

end ControlSchema
