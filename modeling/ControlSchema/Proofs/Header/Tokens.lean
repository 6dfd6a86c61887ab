import ControlSchema.Proofs.Header.Comments
import ControlSchema.Proofs.Header.Descriptions

/-!
# Tokens of a header

A header is read piece by piece: its comments are the ones that were written, each
closed by its own mark, and the tokens outside of them are those of its lines of
code. Names that were accepted are made of words, but for a line feed at the end,
so no line of code opens a comment. Two snapshots that differ in descriptions have
the same lines of code, and therefore the same tokens.
-/

namespace ControlSchema

open Number Text HeaderText Translation

namespace Header

/-! ## Lines of code -/

theorem isCode_of_isWordChar {c : Char} (h : isWordChar c = true) : isCode c = true := by
  have hne {d : Char} (hd : isWordChar d = false) : c ≠ d := by
    rintro rfl
    rw [h] at hd
    cases hd
  simp only [isCode, isQuote, Bool.and_eq_true, bne_iff_ne, Bool.not_eq_true', Bool.or_eq_false_iff,
    beq_eq_false_iff_ne]
  exact ⟨⟨hne rfl, hne rfl⟩, hne rfl, hne rfl⟩

theorem IsCode.append {front back : String} (hfront : IsCode front) (hback : IsCode back) :
    IsCode (front ++ back) := by
  intro c hc
  rw [String.toList_append] at hc
  exact (List.mem_append.1 hc).elim (hfront c) (hback c)

theorem isCode_literal {s : String} {cs : List Char} (hs : s = String.ofList cs)
    (h : cs.all isCode = true) : IsCode s := forall_mem_literal hs h

theorem isCode_digitsText (n : Nat) : IsCode (digitsText n) := fun c hc =>
  isCode_of_isWordChar (Naming.isWordChar_of_isDigit (isDigit_digitsText n c hc))

theorem isCode_intText (n : Int) : IsCode (intText n) := by
  intro c hc
  rcases intText_chars n c hc with rfl | hdigit
  · rfl
  · exact isCode_of_isWordChar (Naming.isWordChar_of_isDigit hdigit)

/-- A line feed behind a name does no harm. -/
theorem isCode_of_chars {s : String} (h : ∀ c ∈ s.toList, isWordChar c = true ∨ c = '\n') :
    IsCode s := by
  intro c hc
  rcases h c hc with hword | rfl
  · exact isCode_of_isWordChar hword
  · rfl

theorem isCode_linkageName {name : String} (h : Naming.isSchemaName name = true) :
    IsCode (Naming.linkageName name) :=
  isCode_of_chars (Naming.linkageName_chars_of_isSchemaName h)

theorem isCode_snakeCase {name : String} (h : Naming.isSchemaName name = true) :
    IsCode (Naming.snakeCase name) := isCode_of_chars (Naming.snakeCase_chars h)

theorem isContained_constantLine {name value : String} (hname : IsCode name)
    (hvalue : IsCode value) : (constantLine name value).IsContained :=
  .code (((((isCode_literal rfl (by decide)).append hname).append
    (isCode_literal rfl (by decide))).append hvalue).append (isCode_literal rfl (by decide)))

theorem isContained_literal {line : String} {cs : List Char} (hs : line = String.ofList cs)
    (h : cs.all isCode = true) : (Piece.code line).IsContained := .code (isCode_literal hs h)

theorem isContained_described (text : String) : (comment innerIndent text).IsContained :=
  .comment eq_space_of_mem_innerIndent text

/-! ## The pieces of an accepted snapshot -/

section

variable {s : Snapshot} (hs : s.Accepted) {category : Category}
include hs

theorem isContained_of_mem_identifiers : ∀ p ∈ identifiers s category, p.IsContained := by
  intro p hp
  rcases List.mem_append.1 hp with hp | hp
  · obtain ⟨d, hd, hp⟩ := List.mem_flatMap.1 hp
    rcases List.mem_cons.1 hp with rfl | hp
    · exact isContained_described _
    · have hfront : IsCode category.headerPrefix := by
        cases category <;> exact isCode_literal rfl (by decide)
      rw [List.mem_singleton.1 hp]
      exact isContained_constantLine
        (hfront.append (isCode_linkageName (hs.definitions category d hd).name))
        (isCode_digitsText _)
  · rw [List.mem_singleton.1 hp]
    exact isContained_literal rfl (by decide)

theorem isContained_of_mem_variants : ∀ p ∈ variants s category, p.IsContained := by
  intro p hp
  obtain ⟨d, hmem, hp⟩ := List.mem_flatMap.1 hp
  have hd := hs.definitions category d (List.mem_filter.1 hmem).1
  rcases List.mem_cons.1 hp with rfl | hp
  · exact isContained_literal rfl (by decide)
  · rcases List.mem_append.1 hp with hp | hp
    · rcases List.mem_cons.1 hp with rfl | hp
      · exact .comment (fun c hc => absurd hc List.not_mem_nil) _
      · rcases List.mem_cons.1 hp with rfl | hp
        · exact .code (((isCode_literal rfl (by decide)).append (isCode_snakeCase hd.name)).append
            (isCode_literal rfl (by decide)))
        · obtain ⟨e, he, hp⟩ := List.mem_flatMap.1 hp
          rcases List.mem_cons.1 hp with rfl | hp
          · exact isContained_described _
          · rw [List.mem_singleton.1 hp]
            exact isContained_constantLine
              ((isCode_literal rfl (by decide)).append (isCode_linkageName (hd.enumerators e he)))
              (isCode_intText _)
    · rw [List.mem_singleton.1 hp]
      exact isContained_literal rfl (by decide)

end

/-- The pieces between the first line and the last. -/
def middle (s : Snapshot) : List Piece :=
  (opening s.version).tail ++ (identifiers s .controls
    ++ [.code "", .code ("enum " ++ Category.properties.headerEnum ++ " \x7b")]
    ++ identifiers s .properties ++ variants s .controls ++ variants s .properties ++ [.code ""])

theorem pieces_eq_middle (s : Snapshot) : pieces s = .code (title s.version) :: middle s
    ++ [.code ("#endif /* " ++ guard ++ " */"), .code ""] := by
  rw [pieces_eq, middle, body, opening, preamble]
  simp only [List.cons_append, List.tail_cons, List.append_assoc, List.nil_append]
  rfl

theorem isContained_of_mem_opening (v : Version) :
    ∀ p ∈ (opening v).tail, p.IsContained := by
  have hguard : IsCode guard := isCode_literal rfl (by decide)
  simp only [opening, preamble, List.cons_append, List.nil_append, List.tail_cons,
    List.forall_mem_cons]
  exact ⟨.code ((isCode_literal rfl (by decide)).append hguard),
    .code ((isCode_literal rfl (by decide)).append hguard), isContained_literal rfl (by decide),
    .code ((isCode_literal rfl (by decide)).append (isCode_digitsText _)),
    .code ((isCode_literal rfl (by decide)).append (isCode_digitsText _)),
    .code ((isCode_literal rfl (by decide)).append (isCode_digitsText _)),
    isContained_literal rfl (by decide),
    .code (((isCode_literal rfl (by decide)).append (isCode_literal rfl (by decide))).append
      (isCode_literal rfl (by decide))),
    List.forall_mem_nil _⟩

theorem isContained_of_mem_middle {s : Snapshot} (hs : s.Accepted) :
    ∀ p ∈ middle s, p.IsContained := by
  intro p hp
  simp only [middle, List.mem_append, List.mem_cons, List.not_mem_nil, or_false] at hp
  rcases hp with hp | ((((hp | rfl | rfl) | hp) | hp) | hp) | rfl
  · exact isContained_of_mem_opening _ p hp
  · exact isContained_of_mem_identifiers hs p hp
  · exact isContained_literal rfl (by decide)
  · exact .code (((isCode_literal rfl (by decide)).append (isCode_literal rfl (by decide))).append
      (isCode_literal rfl (by decide)))
  · exact isContained_of_mem_identifiers hs p hp
  · exact isContained_of_mem_variants hs p hp
  · exact isContained_of_mem_variants hs p hp
  · exact isContained_literal rfl (by decide)

/-! ## The first line and the last -/

/-- What stands in the comment on the first line. -/
def titleText (v : Version) : List Char := " Generated for libcamera ".toList ++ v.text.toList
  ++ ". Do not edit: regenerate with camctl generate. ".toList

theorem title_eq (v : Version) : (title v).toList = '/' :: '*' :: (titleText v ++ closing) := by
  have hfront : "/* Generated for libcamera ".toList
      = '/' :: '*' :: " Generated for libcamera ".toList := by
    rw [String.toList_ofList, String.toList_ofList]
  have hback : ". Do not edit: regenerate with camctl generate. */".toList
      = ". Do not edit: regenerate with camctl generate. ".toList ++ closing := by
    rw [String.toList_ofList, String.toList_ofList]
    rfl
  unfold title titleText
  rw [String.toList_append, String.toList_append, hfront, hback]
  simp only [List.append_assoc, List.cons_append]

/-- Versions are written without asterisks and backslashes. -/
theorem not_mem_titleText {v : Version} (hv : v.IsWritten) {c : Char}
    (hc : (c == '*' || c == '\\') = true) : c ∉ titleText v := by
  intro hmem
  unfold titleText at hmem
  rw [List.append_assoc] at hmem
  have hliteral {s : String} {cs : List Char} (hs : s = String.ofList cs)
      (h : cs.all (fun c => !(c == '*' || c == '\\')) = true) : c ∉ s.toList :=
    not_mem_literal hs (not_mem_of_all (p := fun c => c == '*' || c == '\\') h hc)
  rcases List.mem_append.1 hmem with hmem | hmem
  · exact hliteral rfl (by decide) hmem
  · rcases List.mem_append.1 hmem with hmem | hmem
    · rw [Bool.or_eq_true, beq_iff_eq, beq_iff_eq] at hc
      rcases v.text_chars hv c hmem with rfl | hchar
      · exact absurd hc (by decide)
      · rcases hc with rfl | rfl <;> cases hchar
    · exact hliteral rfl (by decide) hmem

theorem read_title {v : Version} (hv : v.IsWritten) (rest : List Char) :
    read .code (splice ((title v).toList ++ rest))
      = (read .code (splice rest)).map (.behind [' '] [titleText v]) := by
  have hslash : '\\' ∉ titleText v := not_mem_titleText hv rfl
  have hlast : ¬ ['\\'] <:+ titleText v := fun h =>
    hslash (h.subset (List.mem_singleton_self _))
  have hplain := splice_of_not_mem hslash
  have hclosing : ¬ closing <:+: splice (titleText v) := fun h =>
    not_mem_titleText hv (c := '*') rfl (hplain ▸ h.subset List.mem_cons_self)
  have htitle : (title v).toList ++ rest = '/' :: '*' :: (titleText v ++ (closing ++ rest)) := by
    rw [title_eq]
    simp only [List.append_assoc, List.cons_append]
  rw [htitle, read_splice_block hlast hclosing, hplain]

/-! ## The whole header -/

theorem read_pieces {ps : List Piece} (h : ∀ p ∈ ps, p.IsContained) (rest : List Char) :
    read .code (splice (ps.flatMap Piece.chars ++ rest))
      = (read .code (splice rest)).map
        (.behind (ps.flatMap Piece.bare) ((ps.flatMap Piece.blocks).map splice)) := by
  induction ps with
  | nil => exact Option.map_id'.symm
  | cons p ps ih =>
    obtain ⟨hp, hps⟩ := List.forall_mem_cons.1 h
    rw [List.flatMap_cons, List.append_assoc, hp.read_chars, ih hps, Option.map_map,
      Reading.behind_behind, List.flatMap_cons, List.flatMap_cons, List.map_append]

/-- The comments of a header, in their order. -/
def writtenComments (s : Snapshot) : List (List Char) :=
  titleText s.version :: (pieces s).flatMap Piece.blocks ++ [(" " ++ guard ++ " ").toList]

theorem flatMap_blocks (s : Snapshot) :
    (pieces s).flatMap Piece.blocks = (middle s).flatMap Piece.blocks := by
  rw [pieces_eq_middle, List.flatMap_append, List.flatMap_cons]
  exact List.append_nil _

/-- Each comment is read as it was written, and becomes a space. -/
theorem read_text {s : Snapshot} (hs : s.Accepted) (hversion : s.version.IsWritten) :
    read .code (splice (text s).toList)
      = some ⟨' ' :: ((middle s).flatMap Piece.bare ++ "\n#endif  \n".toList),
        (writtenComments s).map splice⟩ := by
  have hend : read .code (splice ([Piece.code ("#endif /* " ++ guard ++ " */"),
      .code ""].flatMap Piece.chars))
        = some ⟨"\n#endif  \n".toList, [splice (" " ++ guard ++ " ").toList]⟩ := by
    decide
  have htext : (text s).toList = (title s.version).toList ++ ((middle s).flatMap Piece.chars
      ++ [Piece.code ("#endif /* " ++ guard ++ " */"), .code ""].flatMap Piece.chars) := by
    have hpieces := toList_text s
    rw [pieces_eq_middle, List.cons_append, List.flatMap_cons, List.flatMap_append, Piece.chars,
      Piece.lines, List.flatMap_singleton] at hpieces
    exact (List.cons.inj hpieces).2
  have htitle : splice (titleText s.version) = titleText s.version :=
    splice_of_not_mem (not_mem_titleText hversion rfl)
  rw [htext, read_title hversion, read_pieces (isContained_of_mem_middle hs), hend,
    Option.map_some, Option.map_some, writtenComments, flatMap_blocks, List.map_append,
    List.map_cons, htitle]
  rfl

/-! ## Tokens -/

def Piece.code? : Piece → Option String
  | .code line => some line
  | .comment _ _ => none

/-- Comments leave lines of spaces, in which there are no tokens. -/
theorem lineTokens_pieces {ps : List Piece} (h : ∀ p ∈ ps, p.IsContained)
    (front rest : List Char) : lineTokens (front ++ (ps.flatMap Piece.bare ++ '\n' :: rest))
      = lineTokens front ++ ((ps.filterMap Piece.code?).flatMap (fun line => lineTokens line.toList)
        ++ lineTokens rest) := by
  induction ps generalizing front with
  | nil => exact lineTokens_append front rest
  | cons p ps ih =>
    obtain ⟨hp, hps⟩ := List.forall_mem_cons.1 h
    -- What stands behind the line feed of a piece is in front of the next one.
    have hline (line : List Char) : lineTokens (front ++ ('\n' :: line ++ ps.flatMap Piece.bare
        ++ '\n' :: rest)) = lineTokens front ++ (lineTokens line
          ++ ((ps.filterMap Piece.code?).flatMap (fun line => lineTokens line.toList)
            ++ lineTokens rest)) := by
      rw [List.cons_append, List.cons_append, lineTokens_append, List.append_assoc, ih hps]
    rw [List.flatMap_cons]
    cases hp with
    | @code line _ =>
      have hcode : (Piece.code line).code? = some line := rfl
      rw [List.filterMap_cons_some hcode, List.flatMap_cons, List.append_assoc (lineTokens _)]
      exact hline line.toList
    | @comment indent hindent text =>
      rw [List.filterMap_cons_none rfl, comment]
      cases lines (replaceAll (strip text) "*/" "* /") with
      | nil => exact ih hps front
      | cons first more =>
        have hspaces : ∀ c ∈ indent.toList ++ [' '], c = ' ' := fun c hc =>
          (List.mem_append.1 hc).elim (hindent c) List.mem_singleton.1
        refine (hline (indent.toList ++ [' '])).trans ?_
        rw [lineTokens_spaces hspaces, List.nil_append]

/-- The lines of code between the first line and the last. -/
def codeLines (s : Snapshot) : List String := (middle s).filterMap Piece.code?

theorem tokens_text {s : Snapshot} (hs : s.Accepted) (hversion : s.version.IsWritten) :
    tokens (text s) = some
      ((codeLines s).flatMap (fun line => lineTokens line.toList) ++ [["#", "endif"]]) := by
  have hend : "\n#endif  \n".toList = '\n' :: "#endif  \n".toList ∧
      lineTokens "#endif  \n".toList = [["#", "endif"]] := by decide
  rw [tokens, read_text hs hversion, Option.map_some, hend.1]
  refine congrArg some ((lineTokens_pieces (isContained_of_mem_middle hs) [' '] _).trans ?_)
  rw [lineTokens_spaces (List.forall_mem_singleton.2 rfl), List.nil_append, hend.2]
  rfl

theorem codeLines_undescribed (s : Snapshot) : codeLines s.undescribed = codeLines s := by
  have hpair (text : String) (p : Piece) :
      [comment innerIndent text, p].filterMap Piece.code? = [p].filterMap Piece.code? := rfl
  have hidentifiers (category : Category) :
      (identifiers s.undescribed category).filterMap Piece.code?
        = (identifiers s category).filterMap Piece.code? := by
    rw [identifiers, identifiers, Snapshot.definitions_undescribed,
      Snapshot.linkageIds_undescribed, List.flatMap_map]
    simp only [List.filterMap_append, List.filterMap_flatMap, hpair]
    rfl
  have hvariants (category : Category) :
      (variants s.undescribed category).filterMap Piece.code?
        = (variants s category).filterMap Piece.code? := by
    have hfilter : Definition.isEnum ∘ Definition.undescribed = Definition.isEnum :=
      funext Snapshot.isEnum_undescribed
    rw [variants, variants, Snapshot.definitions_undescribed, List.filter_map, hfilter,
      List.flatMap_map, List.filterMap_flatMap, List.filterMap_flatMap]
    refine List.flatMap_congr fun d _ => ?_
    rw [variantPieces, variantPieces, Snapshot.enumerators_undescribed, List.flatMap_map]
    simp only [List.cons_append, List.filterMap_cons, List.filterMap_append,
      List.filterMap_flatMap, hpair]
    rfl
  simp only [codeLines, middle, List.filterMap_append, hidentifiers, hvariants]
  rfl

/-! ## Descriptions in their comments -/

/-- The comments of a header are the ones that were written, and the tokens
outside of them do not depend on descriptions. -/
theorem tokens_eq_of_undescribed {s s' : Snapshot} (hs : s.Accepted)
    (hversion : s.version.IsWritten) (hs' : s'.Accepted) (hversion' : s'.version.IsWritten)
    (hsame : s.undescribed = s'.undescribed) :
    (∃ found, tokens (text s) = some found ∧ tokens (text s') = some found) ∧
      comments (text s) = some ((writtenComments s).map splice) ∧
      comments (text s') = some ((writtenComments s').map splice) := by
  have hlines : codeLines s = codeLines s' := by
    rw [← codeLines_undescribed, hsame, codeLines_undescribed]
  have hcomments {s : Snapshot} (hs : s.Accepted) (hversion : s.version.IsWritten) :
      comments (text s) = some ((writtenComments s).map splice) := by
    rw [comments, read_text hs hversion, Option.map_some]
  exact ⟨⟨_, tokens_text hs hversion, hlines ▸ tokens_text hs' hversion'⟩,
    hcomments hs hversion, hcomments hs' hversion'⟩

/-- Descriptions that close a comment, open one, or end in a backslash. -/
def unruly : Snapshot where
  version := ⟨0, 1, 0, []⟩
  controls := [
    ⟨"AeEnable", "libcamera", .bool, "Early **/ int out; /*/ \\\n/ or \\", .scalar, none⟩,
    ⟨"Brightness", "libcamera", .float, "/* open *", .scalar, none⟩]
  properties := []

theorem accepted_unruly : unruly.Accepted := by
  refine Snapshot.accepted_of_controls ?_ (by decide)
  exact List.forall_mem_cons.2 ⟨Definition.accepted_of_core (by decide),
    List.forall_mem_singleton.2 (Definition.accepted_of_core (by decide))⟩

theorem tokens_eq_of_undescribed_sample :
    unruly.Accepted ∧ unruly.version.IsWritten ∧
      Snapshot.rebinding.Accepted ∧ Snapshot.rebinding.version.IsWritten ∧
      unruly.undescribed = Snapshot.rebinding.undescribed ∧
      (∃ found, tokens (text unruly) = some found ∧
        tokens (text Snapshot.rebinding) = some found) ∧
      comments (text unruly) = some ((writtenComments unruly).map splice) ∧
      comments (text Snapshot.rebinding)
        = some ((writtenComments Snapshot.rebinding).map splice) := by
  have hrebinding := Snapshot.accepted_rebinding.1
  have hsame : unruly.undescribed = Snapshot.rebinding.undescribed := by decide
  have hversion : unruly.version.IsWritten := Version.isWritten_of_pre_eq_nil rfl
  have hversion' : Snapshot.rebinding.version.IsWritten := Version.isWritten_of_pre_eq_nil rfl
  exact ⟨accepted_unruly, hversion, hrebinding, hversion', hsame,
    tokens_eq_of_undescribed accepted_unruly hversion hrebinding hversion' hsame⟩

end Header

end ControlSchema
