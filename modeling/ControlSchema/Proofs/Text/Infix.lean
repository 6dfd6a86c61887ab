import ControlSchema.Proofs.Text.Blank
import Mathlib.Data.List.Infix

/-!
# Patterns that occur

Whether a pattern occurs in a text that was put together from others. A
character that is not in the pattern keeps what stands before it apart from what
stands behind it, so a pattern occurs on one side or the other. Stripping,
dividing into lines and replacing never bring about a pattern that was not there,
as long as the replacement has no character of it.
-/

namespace ControlSchema.Text

/-! ## Characters that keep texts apart -/

section

variable {pattern : List Char} {c : Char} (hc : c ∉ pattern)
include hc

theorem prefix_of_prefix_append_cons {cs rest : List Char} (h : pattern <+: cs ++ c :: rest) :
    pattern <+: cs := by
  have hfront : cs ++ [c] <+: cs ++ c :: rest := ⟨rest, by rw [List.append_assoc]; rfl⟩
  rcases List.prefix_or_prefix_of_prefix h hfront with h | h
  · rcases List.prefix_concat_iff.1 h with rfl | h
    · exact absurd (List.mem_append_right cs (List.mem_singleton_self c)) hc
    · exact h
  · exact absurd (h.subset (List.mem_append_right cs (List.mem_singleton_self c))) hc

theorem infix_of_infix_append_cons {cs rest : List Char} (h : pattern <:+: cs ++ c :: rest) :
    pattern <:+: cs ∨ pattern <:+: rest := by
  induction cs with
  | nil =>
    rcases List.infix_cons_iff.1 h with hfront | hrest
    · have hnil : pattern <+: [] ++ c :: rest := hfront
      exact Or.inl (prefix_of_prefix_append_cons hc hnil).isInfix
    · exact Or.inr hrest
  | cons d cs ih =>
    rcases List.infix_cons_iff.1 h with hfront | hrest
    · have hcons : pattern <+: (d :: cs) ++ c :: rest := hfront
      exact Or.inl (prefix_of_prefix_append_cons hc hcons).isInfix
    · exact (ih hrest).imp_left fun h => h.trans (List.suffix_cons d cs).isInfix

end

/-- Characters in front that are not in the pattern add no occurrence. -/
theorem infix_of_infix_append {pattern : List Char} (hne : pattern ≠ []) {cs rest : List Char}
    (hcs : ∀ c ∈ cs, c ∉ pattern) (h : pattern <:+: cs ++ rest) : pattern <:+: rest := by
  induction cs with
  | nil => exact h
  | cons c cs ih =>
    have hc := hcs c List.mem_cons_self
    have hnil : pattern <:+: [] ++ c :: (cs ++ rest) := h
    rcases infix_of_infix_append_cons hc hnil with h | h
    · exact absurd (List.infix_nil.1 h) hne
    · exact ih (fun d hd => hcs d (List.mem_cons_of_mem c hd)) h

/-! ## Parts of a text -/

theorem forall_mem_intercalate {P : Char → Prop} {separator : List Char} {pieces : List (List Char)}
    (hseparator : ∀ c ∈ separator, P c) (hpieces : ∀ cs ∈ pieces, ∀ c ∈ cs, P c) :
    ∀ c ∈ separator.intercalate pieces, P c := by
  induction pieces with
  | nil =>
    intro c hc
    cases hc
  | cons piece pieces ih =>
    have hpiece := hpieces piece List.mem_cons_self
    have hrest := ih fun cs hcs => hpieces cs (List.mem_cons_of_mem piece hcs)
    cases pieces with
    | nil => simpa using hpiece
    | cons next pieces =>
      rw [List.intercalate_cons_cons]
      intro c hc
      rcases List.mem_append.1 hc with hc | hc
      · rcases List.mem_append.1 hc with hc | hc
        · exact hpiece c hc
        · exact hseparator c hc
      · exact hrest c hc

theorem isInfix_intercalate (separator : List Char) {piece : List Char} {pieces : List (List Char)}
    (h : piece ∈ pieces) : piece <:+: separator.intercalate pieces := by
  induction pieces with
  | nil => cases h
  | cons first pieces ih =>
    cases pieces with
    | nil =>
      obtain rfl := List.mem_singleton.1 h
      rw [List.intercalate_singleton]
    | cons next pieces =>
      rw [List.intercalate_cons_cons]
      rcases List.mem_cons.1 h with rfl | h
      · exact ⟨[], separator ++ separator.intercalate (next :: pieces), by simp⟩
      · exact (ih h).trans (List.suffix_append _ _).isInfix

/-- A stretch of a text without separators stands in one piece of it. -/
theorem exists_piece_of_isInfix {separator : Char} {part cs : List Char} (h : part <:+: cs)
    (hpart : separator ∉ part) : ∃ piece ∈ splitOn separator cs, part <:+: piece := by
  obtain ⟨front, back, rfl⟩ := h
  induction front with
  | nil =>
    obtain ⟨piece, pieces, hback⟩ := List.exists_cons_of_ne_nil (splitOn_ne_nil separator back)
    rw [List.nil_append, splitOn_append_of_not_mem hpart hback]
    exact ⟨_, List.mem_cons_self, (List.prefix_append part piece).isInfix⟩
  | cons c front ih =>
    obtain ⟨piece, hpiece, hinfix⟩ := ih
    rw [List.cons_append, List.cons_append, splitOn]
    by_cases hc : (c == separator) = true
    · rw [if_pos hc]
      exact ⟨piece, List.mem_cons_of_mem _ hpiece, hinfix⟩
    · obtain ⟨first, rest, hfirst⟩ :=
        List.exists_cons_of_ne_nil (splitOn_ne_nil separator (front ++ part ++ back))
      rw [hfirst] at hpiece
      rw [if_neg hc, hfirst]
      rcases List.mem_cons.1 hpiece with rfl | hpiece
      · exact ⟨_, List.mem_cons_self, hinfix.trans (List.suffix_cons c _).isInfix⟩
      · exact ⟨piece, List.mem_cons_of_mem _ hpiece, hinfix⟩

theorem isPrefix_stripEnd (cs : List Char) : stripEnd cs <+: cs := by
  obtain ⟨blanks, hsplit, -⟩ := stripEnd_append cs
  exact ⟨blanks, hsplit.symm⟩

theorem isInfix_strip (s : String) : (strip s).toList <:+: s.toList := by
  rw [strip, String.toList_ofList]
  exact (isPrefix_stripEnd _).isInfix.trans (List.dropWhile_suffix _).isInfix

/-- Each line stands in the text, and the first at its front. -/
theorem isInfix_splitLines (cs : List Char) :
    (∀ line ∈ splitLines cs, line <:+: cs) ∧ (splitLines cs).headD [] <+: cs := by
  refine splitLines_induction (P := fun cs => (∀ line ∈ splitLines cs, line <:+: cs) ∧
    (splitLines cs).headD [] <+: cs) ?_ ?_ ?_ ?_ cs
  · exact ⟨nofun, List.nil_prefix⟩
  · intro rest ih
    rw [splitLines]
    refine ⟨List.forall_mem_cons.2 ⟨List.nil_infix, fun line hline => ?_⟩, List.nil_prefix⟩
    exact (ih.1 line hline).trans ⟨['\r', '\n'], [], by rw [List.append_nil]; rfl⟩
  · intro c rest _ hsplit ih
    rw [hsplit]
    refine ⟨List.forall_mem_cons.2 ⟨List.nil_infix, fun line hline => ?_⟩, List.nil_prefix⟩
    exact (ih.1 line hline).trans (List.suffix_cons c rest).isInfix
  · intro c rest hc ih
    rw [splitLines_other hc]
    have hfront : c :: (splitLines rest).headD [] <+: c :: rest :=
      List.prefix_cons_iff.2 (Or.inr ⟨_, rfl, ih.2⟩)
    refine ⟨List.forall_mem_cons.2 ⟨hfront.isInfix, fun line hline => ?_⟩, hfront⟩
    exact (ih.1 line (List.mem_of_mem_tail hline)).trans (List.suffix_cons c rest).isInfix

theorem infix_of_mem_lines {s line : String} (h : line ∈ lines s) : line.toList <:+: s.toList := by
  rw [lines] at h
  obtain ⟨cs, hcs, rfl⟩ := List.mem_map.1 h
  rw [String.toList_ofList]
  exact (isInfix_splitLines s.toList).1 cs hcs

/-! ## Replacing -/

theorem prefix_of_prefix_replaceFrom {pattern mark replacement : List Char}
    (hreplacement : replacement ≠ []) (hapart : ∀ c ∈ replacement, c ∉ pattern) {skip : Nat}
    {cs : List Char} (h : pattern <+: replaceFrom mark replacement skip cs) :
    pattern <+: cs.drop skip := by
  induction cs generalizing pattern skip with
  | nil =>
    rw [replaceFrom] at h
    rw [List.prefix_nil.1 h]
    exact List.nil_prefix
  | cons c cs ih =>
    cases skip with
    | succ skip => exact ih hapart h
    | zero =>
      rw [replaceFrom] at h
      split at h
      · obtain ⟨d, rest, rfl⟩ := List.exists_cons_of_ne_nil hreplacement
        rcases List.prefix_cons_iff.1 h with rfl | ⟨_, rfl, -⟩
        · exact List.nil_prefix
        · exact absurd List.mem_cons_self (hapart d List.mem_cons_self)
      · rcases List.prefix_cons_iff.1 h with rfl | ⟨rest, rfl, htail⟩
        · exact List.nil_prefix
        · have hrest : ∀ d ∈ replacement, d ∉ rest := fun d hd hmem =>
            hapart d hd (List.mem_cons_of_mem c hmem)
          exact List.prefix_cons_iff.2 (Or.inr ⟨rest, rfl, ih hrest htail⟩)

/-- What occurs behind a replacement occurred before. -/
theorem infix_of_infix_replaceFrom {pattern mark replacement : List Char} (hne : pattern ≠ [])
    (hreplacement : replacement ≠ []) (hapart : ∀ c ∈ replacement, c ∉ pattern) {skip : Nat}
    {cs : List Char} (h : pattern <:+: replaceFrom mark replacement skip cs) :
    pattern <:+: cs := by
  induction cs generalizing skip with
  | nil => exact absurd (List.infix_nil.1 h) hne
  | cons c cs ih =>
    cases skip with
    | succ skip => exact (ih h).trans (List.suffix_cons c cs).isInfix
    | zero =>
      have hfront := @prefix_of_prefix_replaceFrom pattern mark replacement hreplacement hapart 0
        (c :: cs)
      rw [replaceFrom] at h hfront
      split at h
      · exact (ih (infix_of_infix_append hne hapart h)).trans (List.suffix_cons c cs).isInfix
      · next hmark =>
        rw [if_neg hmark] at hfront
        rcases List.infix_cons_iff.1 h with h | h
        · exact (hfront h).isInfix
        · exact (ih h).trans (List.suffix_cons c cs).isInfix

theorem infix_of_infix_replaceAll {pattern : List Char} (hne : pattern ≠ [])
    {s mark replacement : String} (hmark : mark.isEmpty = false)
    (hreplacement : replacement.toList ≠ []) (hapart : ∀ c ∈ replacement.toList, c ∉ pattern)
    (h : pattern <:+: (replaceAll s mark replacement).toList) : pattern <:+: s.toList := by
  rw [replaceAll, hmark, if_neg Bool.false_ne_true, String.toList_ofList] at h
  exact infix_of_infix_replaceFrom hne hreplacement hapart h

/-- A mark of two characters is gone when each occurrence is broken up by a third. -/
theorem not_infix_replaceFrom {a b c : Char} (hab : a ≠ b) (hca : c ≠ a) (hcb : c ≠ b)
    (skip : Nat) (cs : List Char) : ¬ [a, b] <:+: replaceFrom [a, b] [a, c, b] skip cs := by
  have hc : c ∉ [a, b] := fun hmem => by
    rcases List.mem_cons.1 hmem with heq | hmem
    · exact hca heq
    · exact hcb (List.mem_singleton.1 hmem)
  induction cs generalizing skip with
  | nil => exact fun h => absurd (List.infix_nil.1 h) (List.cons_ne_nil _ _)
  | cons d cs ih =>
    cases skip with
    | succ skip => exact ih skip
    | zero =>
      rw [replaceFrom]
      split
      · intro h
        rcases @infix_of_infix_append_cons [a, b] c hc [a] _ h with h | h
        · exact absurd h.length_le (Nat.not_succ_le_self 1)
        · rcases List.infix_cons_iff.1 h with h | h
          · exact hab (List.cons_prefix_cons.1 h).1
          · exact ih _ h
      · rename_i hmark
        intro h
        rcases List.infix_cons_iff.1 h with h | h
        · -- What follows the first character of the mark now followed it before.
          obtain ⟨rfl, hnext⟩ := List.cons_prefix_cons.1 h
          cases cs with
          | nil => exact absurd (List.prefix_nil.1 hnext) (List.cons_ne_nil _ _)
          | cons e cs =>
            rw [replaceFrom] at hnext
            split at hnext
            · exact hab (List.cons_prefix_cons.1 hnext).1.symm
            · obtain ⟨rfl, -⟩ := List.cons_prefix_cons.1 hnext
              refine hmark ?_
              rw [List.isPrefixOf_iff_prefix]
              exact ⟨cs, rfl⟩
        · exact ih 0 h

end ControlSchema.Text
