import ControlSchema.Proofs.Header.Pieces
import ControlSchema.Proofs.Header.Translation

/-!
# Comments of a header

Descriptions are confined to their comments. The mark for the end of a comment is
broken up wherever it occurs in a description, and what comes out holds no other
one. Each further line begins with a space, so that no mark comes about where
lines meet, not even behind a backslash. A comment is then read up to the mark that
was written behind it.
-/

namespace ControlSchema

open Number Text HeaderText Translation

namespace Header

/-! ## Lines of a comment -/

theorem not_infix_replaceAll (s : String) :
    ¬ closing <:+: (replaceAll s "*/" "* /").toList := by
  have hempty : "*/".isEmpty = false := by decide
  rw [replaceAll, hempty, if_neg Bool.false_ne_true, String.toList_ofList]
  exact not_infix_replaceFrom (by decide) (by decide) (by decide) 0 s.toList

/-- A line that neither ends its comment nor lets the next line end it. -/
structure IsInner (line : String) : Prop where
  space : line.toList.head? = some ' '
  feed : '\n' ∉ line.toList
  mark : ¬ closing <:+: line.toList

section

variable {indent : String} (hindent : ∀ c ∈ indent.toList, c = ' ')
include hindent

theorem eq_space_of_mem_margin : ∀ c ∈ (indent ++ " ").toList, c = ' ' := by
  rw [String.toList_append]
  intro c hc
  exact (List.mem_append.1 hc).elim (hindent c) List.mem_singleton.1

theorem isInner_margin : IsInner (indent ++ " ") where
  space := by
    rw [String.toList_append]
    cases hcs : indent.toList with
    | nil => rfl
    | cons c cs => exact congrArg some (hindent c (hcs ▸ List.mem_cons_self))
  feed hmem := absurd (eq_space_of_mem_margin hindent _ hmem) (by decide)
  mark h := absurd (eq_space_of_mem_margin hindent _ (h.subset List.mem_cons_self)) (by decide)

theorem isInner_commentLine {text : String} (hfeed : ∀ c ∈ text.toList, isLineBreak c = false)
    (hmark : ¬ closing <:+: text.toList) : IsInner (Piece.commentLine indent text) := by
  obtain ⟨hspace, hnofeed, -⟩ := isInner_margin hindent
  have hline : (Piece.commentLine indent text).toList
      = (indent ++ " ").toList ++ '*' :: stripEnd (' ' :: text.toList) := by
    have hasterisk : stripEnd ('*' :: ' ' :: text.toList) = '*' :: stripEnd (' ' :: text.toList) :=
      stripEnd_cons (by decide) _
    rw [Piece.commentLine, stripRight, String.toList_ofList, ← hasterisk,
      ← stripEnd_append_of_ne_nil _ (hasterisk ▸ List.cons_ne_nil _ _)]
    simp only [String.toList_append, List.append_assoc]
    rfl
  have hsubset : ∀ c ∈ stripEnd (' ' :: text.toList), isLineBreak c = false :=
    not_break_of_mem_stripEnd (List.forall_mem_cons.2 ⟨by decide, hfeed⟩)
  refine ⟨?_, fun hmem => ?_, fun h => ?_⟩
  · rw [hline, List.head?_append, hspace]
    rfl
  · rw [hline] at hmem
    rcases List.mem_append.1 hmem with hmem | hmem
    · exact hnofeed hmem
    · rcases List.mem_cons.1 hmem with heq | hmem
      · exact absurd heq (by decide)
      · exact absurd (hsubset _ hmem) (by decide)
  · -- The space behind the asterisk keeps it from the text.
    have hprefix : (indent ++ " ").toList ++ '*' :: stripEnd (' ' :: text.toList)
        <+: ((indent ++ " ").toList ++ ['*']) ++ ' ' :: text.toList := by
      rw [List.append_assoc]
      exact (List.prefix_append_right_inj _).2
        ((List.prefix_append_right_inj ['*']).2 (isPrefix_stripEnd _))
    rw [hline] at h
    rcases infix_of_infix_append_cons (by decide) (h.trans hprefix.isInfix) with h | h
    · rcases List.mem_append.1 (h.subset (a := '/') (by decide)) with hmem | hmem
      · exact absurd (eq_space_of_mem_margin hindent _ hmem) (by decide)
      · exact absurd hmem (by decide)
    · exact hmark h

end

/-! ## The text of a comment -/

/-- The lines behind the opening mark, up to the margin before the closing one. -/
def innerLines (indent first : String) (rest : List String) : List String :=
  Piece.commentLine indent ("\\brief " ++ first) :: rest.map (Piece.commentLine indent)
    ++ [indent ++ " "]

/-- What stands between the marks of a comment. -/
def innerText (indent first : String) (rest : List String) : List Char :=
  '*' :: (innerLines indent first rest).flatMap fun line => '\n' :: line.toList

theorem chars_comment (indent first : String) (rest : List String) :
    (Piece.comment indent (first :: rest)).chars
      = '\n' :: indent.toList ++ '/' :: '*' :: (innerText indent first rest ++ closing) := by
  have hopen : (indent ++ "/**").toList = indent.toList ++ ['/', '*', '*'] := String.toList_append
  have hclose : (indent ++ " */").toList = (indent ++ " ").toList ++ closing := by
    rw [String.toList_append, String.toList_append, List.append_assoc]
    rfl
  simp only [Piece.chars, Piece.lines, innerText, innerLines, List.flatMap_append,
    List.flatMap_cons, List.flatMap_nil, hopen, hclose, List.append_assoc, List.cons_append,
    List.nil_append, List.append_nil]

section

variable {lines : List String} (h : ∀ line ∈ lines, IsInner line)
include h

theorem isIndented_lines : IsIndented (lines.flatMap fun line => '\n' :: line.toList) := by
  induction lines with
  | nil => exact List.IsChain.nil
  | cons line lines ih =>
    obtain ⟨hspace, hfeed, -⟩ := h line List.mem_cons_self
    have hrest := ih fun other hother => h other (List.mem_cons_of_mem line hother)
    rw [List.flatMap_cons, List.cons_append]
    refine List.isChain_cons.2 ⟨fun d hd _ => ?_,
      (isIndented_of_not_mem hfeed).append hrest fun c hc d _ heq => ?_⟩
    · rw [List.head?_append, hspace] at hd
      exact (Option.some.inj hd).symm
    · exact absurd (heq ▸ List.mem_of_getLast? hc) hfeed

theorem not_infix_lines :
    ¬ closing <:+: '*' :: lines.flatMap fun line => '\n' :: line.toList := by
  intro hinfix
  have hlines : closing <:+: ("*" :: lines).flatMap fun line => '\n' :: line.toList :=
    hinfix.trans (List.suffix_cons '\n' _).isInfix
  obtain ⟨line, hline, hinfix⟩ :=
    exists_infix_of_infix_lines (List.cons_ne_nil _ _) (by decide) hlines
  rcases List.mem_cons.1 hline with rfl | hline
  · exact absurd hinfix (by decide)
  · exact (h line hline).mark hinfix

end

theorem not_suffix_innerText : ¬ ['\\'] <:+ innerText indent first rest := by
  have hlast : ∃ front, innerText indent first rest = front ++ [' '] := by
    have hmargin : (indent ++ " ").toList = indent.toList ++ [' '] := String.toList_append
    rw [innerText, innerLines, List.flatMap_append, List.flatMap_singleton, hmargin]
    generalize (Piece.commentLine indent ("\\brief " ++ first)
      :: rest.map (Piece.commentLine indent)).flatMap (fun line => '\n' :: line.toList) = front
    exact ⟨'*' :: (front ++ '\n' :: indent.toList), by
      rw [List.cons_append, List.append_assoc, List.cons_append]⟩
  obtain ⟨front, hfront⟩ := hlast
  intro h
  rw [hfront] at h
  rcases List.suffix_concat_iff.1 h with h | ⟨more, h, -⟩
  · exact absurd h (List.cons_ne_nil _ _)
  · have hmem : ' ' ∈ ['\\'] := h ▸ List.mem_append_right more (List.mem_singleton_self ' ')
    exact absurd hmem (by decide)

section

variable {indent first : String} {rest : List String} (hindent : ∀ c ∈ indent.toList, c = ' ')
  (hlines : ∀ line ∈ first :: rest,
    (∀ c ∈ line.toList, isLineBreak c = false) ∧ ¬ closing <:+: line.toList)
include hindent hlines

theorem isInner_of_mem_innerLines : ∀ line ∈ innerLines indent first rest, IsInner line := by
  intro line hline
  rcases List.mem_append.1 hline with hline | hline
  · rcases List.mem_cons.1 hline with rfl | hline
    · obtain ⟨hfeed, hmark⟩ := hlines first List.mem_cons_self
      have hwords : ("\\brief " ++ first).toList = "\\brief".toList ++ ' ' :: first.toList :=
        String.toList_append
      refine isInner_commentLine hindent (fun c hc => ?_) fun hinfix => ?_
      · rw [String.toList_append] at hc
        rcases List.mem_append.1 hc with hc | hc
        · have hliteral := forall_mem_literal (p := fun c => !isLineBreak c) rfl (by decide) c hc
          rwa [Bool.not_eq_true'] at hliteral
        · exact hfeed c hc
      · rw [hwords] at hinfix
        rcases infix_of_infix_append_cons (by decide) hinfix with hinfix | hinfix
        · exact absurd hinfix (by decide)
        · exact hmark hinfix
    · obtain ⟨other, hother, rfl⟩ := List.mem_map.1 hline
      obtain ⟨hfeed, hmark⟩ := hlines other (List.mem_cons_of_mem first hother)
      exact isInner_commentLine hindent hfeed hmark
  · rw [List.mem_singleton.1 hline]
    exact isInner_margin hindent

/-- No mark stands in a comment, however its lines are joined. -/
theorem not_infix_splice_innerText : ¬ closing <:+: splice (innerText indent first rest) := by
  have hinner := isInner_of_mem_innerLines hindent hlines
  have hindented : IsIndented (innerText indent first rest) :=
    List.isChain_cons.2 ⟨fun _ _ heq => absurd heq (by decide), isIndented_lines hinner⟩
  exact fun h => not_infix_lines hinner (infix_of_infix_splice (by decide) hindented h)

/-- The whole comment becomes a space. -/
theorem read_comment (more : List Char) :
    read .code (splice ((Piece.comment indent (first :: rest)).chars ++ more))
      = (read .code (splice more)).map
        (.behind ('\n' :: indent.toList ++ [' ']) [splice (innerText indent first rest)]) := by
  have hmargin : ∀ c ∈ '\n' :: indent.toList, isCode c = true :=
    List.forall_mem_cons.2 ⟨rfl, fun c hc => hindent c hc ▸ rfl⟩
  have hchars : (Piece.comment indent (first :: rest)).chars ++ more
      = '\n' :: indent.toList
        ++ '/' :: '*' :: (innerText indent first rest ++ (closing ++ more)) := by
    rw [chars_comment]
    simp only [List.append_assoc, List.cons_append]
  rw [hchars, read_splice_append hmargin, read_splice_block not_suffix_innerText
      (not_infix_splice_innerText hindent hlines), Option.map_map, Reading.behind_behind]
  rfl

end

/-! ## Pieces that are read on their own -/

def IsCode (s : String) : Prop := ∀ c ∈ s.toList, isCode c = true

namespace Piece

/-- A line of code without comments and quotations, or the comment for a text. -/
inductive IsContained : Piece → Prop
  | code {line : String} (h : IsCode line) : IsContained (.code line)
  | comment {indent : String} (h : ∀ c ∈ indent.toList, c = ' ') (text : String) :
    IsContained (Header.comment indent text)

/-- The piece with a space for its comment. -/
def bare : Piece → List Char
  | .code line => '\n' :: line.toList
  | .comment _ [] => []
  | .comment indent (_ :: _) => '\n' :: indent.toList ++ [' ']

def blocks : Piece → List (List Char)
  | .code _ => []
  | .comment _ [] => []
  | .comment indent (first :: rest) => [innerText indent first rest]

/-- Comments of a header are read as they were written. -/
theorem IsContained.read_chars {p : Piece} (h : p.IsContained) (rest : List Char) :
    read .code (splice (p.chars ++ rest))
      = (read .code (splice rest)).map (.behind p.bare (p.blocks.map splice)) := by
  cases h with
  | @code line hline =>
    rw [chars, Piece.lines, List.flatMap_singleton]
    exact read_splice_append (List.forall_mem_cons.2 ⟨rfl, hline⟩) rest
  | @comment indent hindent text =>
    have hlines : ∀ line ∈ Text.lines (replaceAll (strip text) "*/" "* /"),
        (∀ c ∈ line.toList, isLineBreak c = false) ∧ ¬ closing <:+: line.toList := by
      intro line hline
      refine ⟨?_, fun h => not_infix_replaceAll _ (h.trans (infix_of_mem_lines hline))⟩
      obtain ⟨cs, hcs, rfl⟩ := List.mem_map.1 hline
      rw [String.toList_ofList]
      exact not_break_of_mem_splitLines cs hcs
    rw [Header.comment]
    generalize Text.lines (replaceAll (strip text) "*/" "* /") = ls at hlines ⊢
    cases ls with
    | nil => exact Option.map_id'.symm
    | cons first more => exact read_comment hindent hlines rest

end Piece

end Header

end ControlSchema
