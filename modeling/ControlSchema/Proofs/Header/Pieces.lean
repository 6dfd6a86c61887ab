import ControlSchema.Header
import ControlSchema.Proofs.Linkage.Readers

/-!
# Scanning a header piece by piece

Every piece of a header ends in a mark that no reader gets past: a comma, a
semicolon, a brace, or the slash at the end of a comment. Only the defines at the
beginning have no such mark, and they are scanned together with the first line
that has one. A header is therefore scanned piece by piece, and its comments can
be left out of the account when nothing is found in them.
-/

namespace ControlSchema

open Number Text HeaderText

namespace Header

/-- A header that is generated is the text of the snapshot. -/
theorem generate_eq_ok_iff {s : Snapshot} {header : String} :
    generate s = .ok header ↔ isWritable s = true ∧ header = text s := by
  rw [generate]
  split
  · next h => rw [Except.ok.injEq, and_iff_right h, eq_comm]
  · next h => exact iff_of_false nofun fun hwritable => h hwritable.1

/-! ## The text as a list of pieces -/

/-- The lines of a piece, each behind a line feed. -/
def Piece.chars (p : Piece) : List Char := p.lines.flatMap fun line => '\n' :: line.toList

/-- The defines, and the line that opens the identifiers of the controls. -/
def opening (v : Version) : List Piece :=
  preamble v ++ [.code "", .code ("enum " ++ Category.controls.headerEnum ++ " \x7b")]

/-- The constants of a category with their descriptions, and the line behind
them. -/
def identifiers (s : Snapshot) (category : Category) : List Piece :=
  (s.definitions category).flatMap (fun d =>
    [comment innerIndent d.description, constantLine (identifierName category d)
      (digitsText (((s.linkageIds category).get? d.linkageName).getD 0))]) ++ [.code "\x7d;"]

def variants (s : Snapshot) (category : Category) : List Piece :=
  ((s.definitions category).filter Definition.isEnum).flatMap fun d =>
    .code "" :: variantPieces category d

/-- The pieces behind the opening. -/
def body (s : Snapshot) : List Piece :=
  identifiers s .controls
    ++ [.code "", .code ("enum " ++ Category.properties.headerEnum ++ " \x7b")]
    ++ identifiers s .properties ++ variants s .controls ++ variants s .properties
    ++ [.code "", .code ("#endif /* " ++ guard ++ " */"), .code ""]

theorem pieces_eq (s : Snapshot) : pieces s = opening s.version ++ body s := by
  simp only [pieces, Category.all, List.flatMap_cons, List.flatMap_nil, identifierPieces, opening,
    body, identifiers, variants, List.append_assoc, List.cons_append, List.nil_append,
    List.append_nil]

theorem intercalate_cons {α : Type} (separator first : List α) (rest : List (List α)) :
    separator.intercalate (first :: rest) = first ++ rest.flatMap (separator ++ ·) := by
  induction rest generalizing first with
  | nil => rw [List.intercalate_singleton, List.flatMap_nil, List.append_nil]
  | cons next rest ih =>
    rw [List.intercalate_cons_cons, ih, List.flatMap_cons]
    simp only [List.append_assoc]

theorem toList_text (s : Snapshot) :
    '\n' :: (text s).toList = (pieces s).flatMap Piece.chars := by
  obtain ⟨first, rest, hlines⟩ : ∃ first rest, (pieces s).flatMap Piece.lines = first :: rest :=
    ⟨_, _, rfl⟩
  have hchars : (pieces s).flatMap Piece.chars
      = ((pieces s).flatMap Piece.lines).flatMap fun line => '\n' :: line.toList :=
    List.flatMap_assoc.symm
  rw [hchars, text, String.toList_intercalate, hlines, List.map_cons, intercalate_cons,
    List.flatMap_map]
  rfl

/-! ## Comments -/

theorem eq_space_of_mem_innerIndent : ∀ c ∈ innerIndent.toList, c = ' ' := fun c hc =>
  beq_iff_eq.1 (forall_mem_literal (s := innerIndent) (p := (· == ' ')) rfl (by decide) c hc)

/-- The characters that stand around the text of a comment. -/
def isFrame (c : Char) : Bool := c == ' ' || c == '*' || c == '/' || c == '\n'

section

variable {pattern : List Char} (hne : pattern ≠ [])
include hne

theorem exists_infix_of_infix_lines (hbreak : '\n' ∉ pattern) {lines : List String}
    (h : pattern <:+: lines.flatMap fun line => '\n' :: line.toList) :
    ∃ line ∈ lines, pattern <:+: line.toList := by
  induction lines with
  | nil => exact absurd (List.infix_nil.1 h) hne
  | cons line lines ih =>
    have hrest (h : pattern <:+: lines.flatMap fun line => '\n' :: line.toList) :
        ∃ other ∈ line :: lines, pattern <:+: other.toList := by
      obtain ⟨other, hother, hinfix⟩ := ih h
      exact ⟨other, List.mem_cons_of_mem line hother, hinfix⟩
    have hfront : pattern <:+:
        ['\n'] ++ (line.toList ++ lines.flatMap fun line => '\n' :: line.toList) := h
    have hline := infix_of_infix_append hne (List.forall_mem_singleton.2 hbreak) hfront
    cases lines with
    | nil =>
      rw [List.flatMap_nil, List.append_nil] at hline
      exact ⟨line, List.mem_cons_self, hline⟩
    | cons next lines =>
      rcases infix_of_infix_append_cons hbreak hline with hline | hline
      · exact ⟨line, List.mem_cons_self, hline⟩
      · exact hrest (hline.trans (List.suffix_cons _ _).isInfix)

variable (hframe : ∀ c, isFrame c = true → c ∉ pattern) {indent : String}
  (hindent : ∀ c ∈ indent.toList, c = ' ')
include hframe hindent

/-- The frame of a comment holds nothing of the pattern. -/
theorem not_infix_frame {frame : String}
    (h : ∀ c ∈ frame.toList, isFrame c = true) :
    ¬ pattern <:+: (indent ++ frame).toList := by
  intro hinfix
  rw [String.toList_append] at hinfix
  have hapart : ∀ c ∈ indent.toList ++ frame.toList, c ∉ pattern := fun c hc => by
    rcases List.mem_append.1 hc with hc | hc
    · exact hframe c (by rw [hindent c hc]; rfl)
    · exact hframe c (h c hc)
  rw [← List.append_nil (indent.toList ++ frame.toList)] at hinfix
  exact hne (List.infix_nil.1 (infix_of_infix_append hne hapart hinfix))

theorem infix_of_infix_commentLine {line : String}
    (h : pattern <:+: (Piece.commentLine indent line).toList) : pattern <:+: line.toList := by
  rw [Piece.commentLine, stripRight, String.toList_ofList] at h
  have hline := h.trans (isPrefix_stripEnd _).isInfix
  rw [String.toList_append, String.toList_append] at hline
  refine infix_of_infix_append hne (fun c hc => ?_) hline
  rcases List.mem_append.1 hc with hc | hc
  · exact hframe c (by rw [hindent c hc]; rfl)
  · exact hframe c (forall_mem_literal rfl (by decide) c hc)

/-- What occurs in a comment occurs in its text, unless it is part of the frame. -/
theorem infix_of_infix_comment (hbrief : ¬ pattern <:+: "\\brief".toList) {text : String}
    (h : pattern <:+: (comment indent text).chars) : pattern <:+: text.toList := by
  have hlines : ∃ line ∈ lines (replaceAll (strip text) "*/" "* /"), pattern <:+: line.toList := by
    rw [comment, Piece.chars] at h
    generalize lines (replaceAll (strip text) "*/" "* /") = ls at h ⊢
    obtain ⟨line, hline, hinfix⟩ := exists_infix_of_infix_lines hne (hframe '\n' rfl) h
    cases ls with
    | nil => cases hline
    | cons first rest =>
      rcases List.mem_append.1 hline with hline | hline
      · rcases List.mem_cons.1 hline with rfl | hline
        · exact absurd hinfix
            (not_infix_frame hne hframe hindent (forall_mem_literal rfl (by decide)))
        · rcases List.mem_cons.1 hline with rfl | hline
          · have hfirst := infix_of_infix_commentLine hne hframe hindent hinfix
            have hspace : ' ' ∉ pattern := hframe ' ' rfl
            have hwords : ("\\brief " ++ first).toList
                = "\\brief".toList ++ ' ' :: first.toList := String.toList_append
            rw [hwords] at hfirst
            rcases infix_of_infix_append_cons hspace hfirst with h | h
            · exact absurd h hbrief
            · exact ⟨first, List.mem_cons_self, h⟩
          · obtain ⟨other, hother, rfl⟩ := List.mem_map.1 hline
            exact ⟨other, List.mem_cons_of_mem first hother,
              infix_of_infix_commentLine hne hframe hindent hinfix⟩
      · rw [List.mem_singleton.1 hline] at hinfix
        exact absurd hinfix
          (not_infix_frame hne hframe hindent (forall_mem_literal rfl (by decide)))
  obtain ⟨line, hline, hinfix⟩ := hlines
  have hreplaced := hinfix.trans (infix_of_mem_lines hline)
  have hapart : ∀ c ∈ "* /".toList, c ∉ pattern := fun c hc =>
    hframe c (forall_mem_literal rfl (by decide) c hc)
  exact (infix_of_infix_replaceAll hne rfl (by decide) hapart hreplaced).trans
    (isInfix_strip text)

end

/-! ## Pieces that are scanned on their own -/

/-- A piece without lines, an empty line, or lines that end in a barrier. -/
def Piece.IsSealed (p : Piece) : Prop :=
  p.chars = [] ∨ p.chars = ['\n'] ∨ ∃ cs b, p.chars = '\n' :: (cs ++ [b]) ∧ isBarrier b = true

theorem isSealed_code {line : String} {b : Char} (hb : isBarrier b = true)
    (h : line.toList.getLast? = some b) : (Piece.code line).IsSealed := by
  obtain ⟨cs, hcs⟩ := List.getLast?_eq_some_iff.1 h
  refine Or.inr (Or.inr ⟨cs, b, ?_, hb⟩)
  rw [Piece.chars, Piece.lines, List.flatMap_singleton, hcs]

theorem isSealed_comment (indent text : String) : (comment indent text).IsSealed := by
  rw [comment]
  cases lines (replaceAll (strip text) "*/" "* /") with
  | nil => exact Or.inl rfl
  | cons first rest =>
    have hlast : (indent ++ " */").toList = (indent ++ " *").toList ++ ['/'] := by
      rw [String.toList_append, String.toList_append, List.append_assoc]
      rfl
    refine Or.inr (Or.inr ⟨(indent ++ "/**").toList
      ++ (Piece.commentLine indent ("\\brief " ++ first)
        :: rest.map (Piece.commentLine indent)).flatMap (fun line => '\n' :: line.toList)
      ++ '\n' :: (indent ++ " *").toList, '/', ?_, rfl⟩)
    simp only [Piece.chars, Piece.lines, List.flatMap_append, List.flatMap_cons, List.flatMap_nil,
      hlast, List.append_assoc, List.cons_append, List.append_nil]

theorem isSealed_constantLine (name value : String) : (constantLine name value).IsSealed := by
  refine isSealed_code (b := ',') rfl ?_
  rw [String.toList_append]
  exact List.getLast?_concat

theorem isSealed_of_mem_identifiers {s : Snapshot} {category : Category} :
    ∀ p ∈ identifiers s category, p.IsSealed := by
  intro p hp
  rcases List.mem_append.1 hp with hp | hp
  · obtain ⟨d, -, hp⟩ := List.mem_flatMap.1 hp
    rcases List.mem_cons.1 hp with rfl | hp
    · exact isSealed_comment _ _
    · rw [List.mem_singleton.1 hp]
      exact isSealed_constantLine _ _
  · rw [List.mem_singleton.1 hp]
    exact isSealed_code (b := ';') rfl rfl

theorem isSealed_enum (front : String) : (Piece.code (front ++ " \x7b")).IsSealed := by
  refine isSealed_code (b := '\x7b') rfl ?_
  rw [String.toList_append]
  exact List.getLast?_append_of_ne_nil _ (by decide)

theorem isSealed_of_mem_variants {s : Snapshot} {category : Category} :
    ∀ p ∈ variants s category, p.IsSealed := by
  intro p hp
  obtain ⟨d, -, hp⟩ := List.mem_flatMap.1 hp
  rcases List.mem_cons.1 hp with rfl | hp
  · exact Or.inr (Or.inl rfl)
  · rcases List.mem_append.1 hp with hp | hp
    · rcases List.mem_cons.1 hp with rfl | hp
      · exact isSealed_comment _ _
      · rcases List.mem_cons.1 hp with rfl | hp
        · exact isSealed_enum _
        · obtain ⟨e, -, hp⟩ := List.mem_flatMap.1 hp
          rcases List.mem_cons.1 hp with rfl | hp
          · exact isSealed_comment _ _
          · rw [List.mem_singleton.1 hp]
            exact isSealed_constantLine _ _
    · rw [List.mem_singleton.1 hp]
      exact isSealed_code (b := ';') rfl rfl

theorem isSealed_of_mem_body {s : Snapshot} : ∀ p ∈ body s, p.IsSealed := by
  have hempty : (Piece.code "").IsSealed := Or.inr (Or.inl rfl)
  intro p hp
  simp only [body, List.mem_append, List.mem_cons, List.not_mem_nil, or_false] at hp
  rcases hp with ((((hp | rfl | rfl) | hp) | hp) | hp) | rfl | rfl | rfl
  · exact isSealed_of_mem_identifiers p hp
  · exact hempty
  · exact isSealed_enum _
  · exact isSealed_of_mem_identifiers p hp
  · exact isSealed_of_mem_variants p hp
  · exact isSealed_of_mem_variants p hp
  · exact hempty
  · exact isSealed_code (b := '/') rfl (by decide)
  · exact hempty

/-! ## The scan of a header -/

/-- A reader that stops at barriers and begins nothing at a line feed. -/
structure Suits {α : Type} (reader : Reader α) : Prop where
  stopsAt : ∀ b, isBarrier b = true → reader.StopsAt b
  newline : ∀ rest, reader false ('\n' :: rest) = none

/-- What is found in a piece that stands alone. -/
def Piece.found {α : Type} (reader : Reader α) (p : Piece) : List α :=
  scanFrom reader false 0 p.chars

section

variable {α : Type} {reader : Reader α} (hreader : Suits reader)
include hreader

theorem Piece.IsSealed.separated {p : Piece} (h : p.IsSealed) : Separated reader p.chars := by
  rcases h with h | h | ⟨cs, b, h, hb⟩
  · rw [h]
    exact separated_nil
  · rw [h]
    exact separated_nil.cons hreader.newline rfl
  · rw [h]
    exact (separated_concat (hreader.stopsAt b hb) (isBarrier_facts hb).not_word cs).cons
      hreader.newline rfl

theorem separated_opening (v : Version) :
    Separated reader ((opening v).flatMap Piece.chars) := by
  have hlast : (opening v).flatMap Piece.chars
      = ((preamble v ++ [Piece.code ""]).flatMap Piece.chars
        ++ "\nenum libcamera_control_id ".toList) ++ ['\x7b'] := by
    rw [opening, List.append_cons, List.flatMap_append, List.append_assoc]
    rfl
  rw [hlast]
  exact separated_concat (hreader.stopsAt _ rfl) rfl _

/-- A header is scanned piece by piece. -/
theorem scanFrom_text (s : Snapshot) : scanFrom reader false 0 (text s).toList
    = scanFrom reader false 0 ((opening s.version).flatMap Piece.chars)
      ++ (body s).flatMap (Piece.found reader) := by
  have hseparated : ∀ p ∈ body s, Separated reader p.chars := fun p hp =>
    (isSealed_of_mem_body p hp).separated hreader
  have hbody := (Separated.flatMap hseparated).2
  have hfeed : scanFrom reader false 0 ('\n' :: (text s).toList)
      = scanFrom reader false 0 (text s).toList := scanFrom_cons_of_none (hreader.newline _)
  rw [← hfeed, toList_text, pieces_eq, List.flatMap_append, separated_opening hreader, hbody]
  rfl

end

end Header

end ControlSchema
