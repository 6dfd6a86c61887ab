import ControlSchema.Text.Blank
import Mathlib.Data.List.Basic
import Mathlib.Data.List.TakeWhile

/-!
# Lines, stripped ends and pieces

Cutting a text into lines takes away breaks and nothing else, and stripping takes
away blanks at the ends. A text that does not end with a break and has one line
is that line.

A text falls into the pieces between its separators, and the pieces with the
separators between them are the text again. No piece holds a separator, so texts
without any can be put together and taken apart.
-/

namespace ControlSchema.Text

/-! ## Lines -/

theorem splitLines_break {c : Char} (hc : isLineBreak c = true) (rest : List Char)
    (hpair : c = '\r' → rest.head? ≠ some '\n') :
    splitLines (c :: rest) = [] :: splitLines rest := by
  rw [splitLines.eq_def]
  split
  · rename_i heq
    cases heq
  · rename_i more heq
    obtain ⟨rfl, rfl⟩ := List.cons.inj heq
    exact absurd rfl (hpair rfl)
  · rename_i d more _ heq
    obtain ⟨rfl, rfl⟩ := List.cons.inj heq
    rw [if_pos hc]

theorem splitLines_other {c : Char} (hc : isLineBreak c = false) (rest : List Char) :
    splitLines (c :: rest)
      = (c :: (splitLines rest).headD []) :: (splitLines rest).tail := by
  rw [splitLines.eq_def]
  split
  · rename_i heq
    cases heq
  · rename_i more heq
    obtain ⟨rfl, rfl⟩ := List.cons.inj heq
    cases hc
  · rename_i d more _ heq
    obtain ⟨rfl, rfl⟩ := List.cons.inj heq
    rw [if_neg (by rw [hc]; exact Bool.false_ne_true)]
    cases splitLines rest <;> rfl

/-- The induction that follows the cutting into lines. -/
theorem splitLines_induction {P : List Char → Prop} (hnil : P [])
    (hpair : ∀ rest, P rest → P ('\r' :: '\n' :: rest))
    (hbreak : ∀ c rest, isLineBreak c = true → splitLines (c :: rest) = [] :: splitLines rest →
      P rest → P (c :: rest))
    (hother : ∀ c rest, isLineBreak c = false → P rest → P (c :: rest)) (cs : List Char) :
    P cs := by
  induction hlength : cs.length using Nat.strongRecOn generalizing cs with
  | ind length ih =>
    cases cs with
    | nil => exact hnil
    | cons c rest =>
      have hrest := ih rest.length (by simp [← hlength]) rest rfl
      by_cases hc : isLineBreak c = true
      · by_cases hfeed : c = '\r' ∧ rest.head? = some '\n'
        · obtain ⟨rfl, hfeed⟩ := hfeed
          cases rest with
          | nil => cases hfeed
          | cons d rest =>
            cases hfeed
            have hshorter : rest.length < length := by
              rw [← hlength, List.length_cons, List.length_cons]
              omega
            exact hpair rest (ih rest.length hshorter rest rfl)
        · have hsplit := splitLines_break hc rest fun h h' => hfeed ⟨h, h'⟩
          exact hbreak c rest hc hsplit hrest
      · exact hother c rest (Bool.eq_false_iff.2 hc) hrest

theorem not_break_of_mem_splitLines {cs : List Char} :
    ∀ line ∈ splitLines cs, ∀ c ∈ line, isLineBreak c = false := by
  refine splitLines_induction (P := fun cs => ∀ line ∈ splitLines cs, ∀ c ∈ line,
    isLineBreak c = false) ?_ ?_ ?_ ?_ cs
  · intro line hline
    cases hline
  · intro rest ih line hline
    rw [splitLines] at hline
    rcases List.mem_cons.1 hline with rfl | hline
    · intro c hc
      cases hc
    · exact ih line hline
  · intro c rest _ hsplit ih line hline
    rw [hsplit] at hline
    rcases List.mem_cons.1 hline with rfl | hline
    · intro c hc
      cases hc
    · exact ih line hline
  · intro c rest hc ih line hline d hd
    rw [splitLines_other hc] at hline
    rcases List.mem_cons.1 hline with rfl | hline
    · rcases List.mem_cons.1 hd with rfl | hd
      · exact hc
      · cases hsplit : splitLines rest with
        | nil =>
          rw [hsplit] at hd
          cases hd
        | cons first more =>
          rw [hsplit] at hd ih
          exact ih first List.mem_cons_self d hd
    · exact ih line (List.mem_of_mem_tail hline) d hd

theorem eq_nil_of_splitLines_eq_nil {cs : List Char} (h : splitLines cs = []) : cs = [] := by
  refine splitLines_induction (P := fun cs => splitLines cs = [] → cs = []) ?_ ?_ ?_ ?_ cs h
  · intro _
    rfl
  · intro rest _ h
    rw [splitLines] at h
    cases h
  · intro c rest _ hsplit _ h
    rw [hsplit] at h
    cases h
  · intro c rest hc _ h
    rw [splitLines_other hc] at h
    cases h

/-- A single line is the whole text, unless a break stands at its end. -/
theorem eq_of_splitLines_eq_singleton {cs line : List Char} (h : splitLines cs = [line]) :
    line = cs ∨ ∀ d, isLineBreak (cs.getLastD d) = true := by
  refine splitLines_induction (P := fun cs => ∀ line, splitLines cs = [line] →
    line = cs ∨ ∀ d, isLineBreak (cs.getLastD d) = true) ?_ ?_ ?_ ?_ cs line h
  · intro line h
    cases h
  · intro rest _ line h
    rw [splitLines] at h
    rw [eq_nil_of_splitLines_eq_nil (List.cons.inj h).2]
    exact Or.inr fun d => rfl
  · intro c rest hc hsplit _ line h
    rw [hsplit] at h
    rw [eq_nil_of_splitLines_eq_nil (List.cons.inj h).2]
    exact Or.inr fun d => hc
  · intro c rest hc ih line h
    rw [splitLines_other hc] at h
    obtain ⟨rfl, htail⟩ := List.cons.inj h
    cases hsplit : splitLines rest with
    | nil =>
      rw [eq_nil_of_splitLines_eq_nil hsplit]
      exact Or.inl rfl
    | cons first more =>
      rw [hsplit] at htail
      obtain rfl : more = [] := htail
      rcases ih first hsplit with rfl | hlast
      · exact Or.inl rfl
      · exact Or.inr fun d => by rw [List.getLastD_cons]; exact hlast c

/-! ## Stripped ends -/

theorem stripEnd_append (cs : List Char) :
    ∃ blanks, cs = stripEnd cs ++ blanks ∧ ∀ c ∈ blanks, isBlank c = true := by
  refine ⟨(cs.reverse.takeWhile isBlank).reverse, ?_, fun c hc => ?_⟩
  · rw [stripEnd, ← List.reverse_append, List.takeWhile_append_dropWhile, List.reverse_reverse]
  · exact List.mem_takeWhile_imp (List.mem_reverse.1 hc)

theorem stripEnd_eq_nil_iff {cs : List Char} :
    stripEnd cs = [] ↔ ∀ c ∈ cs, isBlank c = true := by
  rw [stripEnd, List.reverse_eq_nil_iff, List.dropWhile_eq_nil_iff]
  simp only [List.mem_reverse]

theorem stripEnd_append_of_ne_nil (cs : List Char) {ds : List Char} (h : stripEnd ds ≠ []) :
    stripEnd (cs ++ ds) = cs ++ stripEnd ds := by
  have hne : (ds.reverse.dropWhile isBlank).isEmpty = false := by
    rw [List.isEmpty_eq_false_iff]
    intro hnil
    exact h (by rw [stripEnd, hnil]; rfl)
  rw [stripEnd, List.reverse_append, List.dropWhile_append, hne, if_neg Bool.false_ne_true,
    List.reverse_append, List.reverse_reverse]
  rfl

/-- Nothing is stripped in front of a character that is no blank. -/
theorem stripEnd_cons {c : Char} (hc : isBlank c = false) (cs : List Char) :
    stripEnd (c :: cs) = c :: stripEnd cs := by
  by_cases h : stripEnd cs = []
  · have hdrop : cs.reverse.dropWhile isBlank = [] := List.reverse_eq_nil_iff.1 h
    rw [h, stripEnd, List.reverse_cons, List.dropWhile_append, hdrop, List.isEmpty_nil, if_pos rfl,
      List.dropWhile_cons, hc, if_neg Bool.false_ne_true]
    rfl
  · exact stripEnd_append_of_ne_nil [c] h

theorem not_break_of_mem_stripEnd {cs : List Char} (h : ∀ c ∈ cs, isLineBreak c = false) :
    ∀ c ∈ stripEnd cs, isLineBreak c = false := by
  obtain ⟨blanks, hsplit, -⟩ := stripEnd_append cs
  intro c hc
  exact h c (by rw [hsplit]; exact List.mem_append_left _ hc)

theorem isBlank_of_isLineBreak {c : Char} (h : isLineBreak c = true) : isBlank c = true := by
  simp only [isLineBreak, isBlank, Bool.or_eq_true, Bool.and_eq_true, decide_eq_true_eq,
    beq_iff_eq] at h ⊢
  omega

theorem isBlank_eq_false_of_range {c : Char} (hlow : 0x21 ≤ c.toNat) (hhigh : c.toNat ≤ 0x7e) :
    isBlank c = false := by
  rw [← Bool.not_eq_true]
  simp only [isBlank, Bool.or_eq_true, Bool.and_eq_true, decide_eq_true_eq, beq_iff_eq]
  omega

/-- Nothing is stripped from a text without blanks. -/
theorem strip_of_not_blank {s : String} (h : ∀ c ∈ s.toList, isBlank c = false) : strip s = s := by
  have hstart : stripStart s.toList = s.toList := by
    rw [stripStart, List.dropWhile_eq_self_iff]
    exact fun hpos hblank => absurd hblank (by rw [h _ (List.getElem_mem hpos)]; decide)
  obtain ⟨blanks, hsplit, hblanks⟩ := stripEnd_append s.toList
  have hnone : blanks = [] := by
    refine List.eq_nil_iff_forall_not_mem.2 fun c hc => ?_
    have hmem : c ∈ s.toList := by
      rw [hsplit]
      exact List.mem_append_right _ hc
    have hfalse := h c hmem
    rw [hblanks c hc] at hfalse
    cases hfalse
  rw [hnone, List.append_nil] at hsplit
  rw [strip, hstart, ← hsplit, String.ofList_toList]

theorem not_blank_getLast?_stripEnd {cs : List Char} {c : Char}
    (h : (stripEnd cs).getLast? = some c) : isBlank c = false := by
  have hhead := List.head?_dropWhile_not isBlank cs.reverse
  rw [stripEnd, List.getLast?_reverse] at h
  rw [h] at hhead
  exact hhead

/-! ## Pieces -/

theorem splitOn_ne_nil (separator : Char) (cs : List Char) : splitOn separator cs ≠ [] := by
  fun_cases splitOn separator cs <;> exact List.cons_ne_nil _ _

theorem splitOn_of_not_mem {separator : Char} {cs : List Char} (h : separator ∉ cs) :
    splitOn separator cs = [cs] := by
  induction cs with
  | nil => rfl
  | cons c cs ih =>
    have hc : ¬ (c == separator) = true := fun heq => h (beq_iff_eq.1 heq ▸ List.mem_cons_self)
    rw [splitOn, if_neg hc, ih fun hmem => h (List.mem_cons_of_mem c hmem)]

theorem splitOn_append_cons (separator : Char) (front rest : List Char) :
    splitOn separator (front ++ separator :: rest)
      = splitOn separator front ++ splitOn separator rest := by
  induction front with
  | nil => exact if_pos (beq_self_eq_true separator)
  | cons c front ih =>
    rw [List.cons_append, splitOn, splitOn, ih]
    by_cases hc : (c == separator) = true
    · rw [if_pos hc, if_pos hc, List.cons_append]
    · obtain ⟨piece, pieces, hfront⟩ :=
        List.exists_cons_of_ne_nil (splitOn_ne_nil separator front)
      rw [if_neg hc, if_neg hc, hfront]
      rfl

/-- The first piece grows by what stands in front of it. -/
theorem splitOn_append_of_not_mem {separator : Char} {front : List Char} (h : separator ∉ front)
    {cs piece : List Char} {pieces : List (List Char)}
    (hcs : splitOn separator cs = piece :: pieces) :
    splitOn separator (front ++ cs) = (front ++ piece) :: pieces := by
  induction front with
  | nil => exact hcs
  | cons c front ih =>
    have hc : ¬ (c == separator) = true := fun heq => h (beq_iff_eq.1 heq ▸ List.mem_cons_self)
    rw [List.cons_append, splitOn, if_neg hc, ih fun hmem => h (List.mem_cons_of_mem c hmem)]
    rfl

theorem not_mem_of_mem_splitOn {separator : Char} {cs piece : List Char}
    (h : piece ∈ splitOn separator cs) : separator ∉ piece := by
  induction cs generalizing piece with
  | nil =>
    rw [List.mem_singleton.1 h]
    exact List.not_mem_nil
  | cons c cs ih =>
    rw [splitOn] at h
    by_cases hc : (c == separator) = true
    · rw [if_pos hc] at h
      rcases List.mem_cons.1 h with rfl | h
      · exact List.not_mem_nil
      · exact ih h
    · rw [if_neg hc] at h
      obtain ⟨first, rest, hfirst⟩ := List.exists_cons_of_ne_nil (splitOn_ne_nil separator cs)
      rw [hfirst] at h ih
      rcases List.mem_cons.1 h with rfl | h
      · rw [List.mem_cons, not_or]
        exact ⟨fun heq => hc (beq_iff_eq.2 heq.symm), ih List.mem_cons_self⟩
      · exact ih (List.mem_cons_of_mem first h)

theorem intercalate_splitOn (separator : Char) (cs : List Char) :
    [separator].intercalate (splitOn separator cs) = cs := by
  induction cs with
  | nil => rfl
  | cons c cs ih =>
    obtain ⟨piece, pieces, hpieces⟩ := List.exists_cons_of_ne_nil (splitOn_ne_nil separator cs)
    rw [hpieces] at ih
    rw [splitOn, hpieces]
    by_cases hc : (c == separator) = true
    · rw [if_pos hc, List.intercalate_cons_cons, ih, beq_iff_eq.1 hc]
      rfl
    · rw [if_neg hc]
      cases pieces with
      | nil =>
        rw [List.intercalate_singleton] at ih
        rw [List.intercalate_singleton, ih]
      | cons next pieces =>
        rw [List.intercalate_cons_cons] at ih
        rw [List.intercalate_cons_cons, ← ih]
        rfl

/-- Pieces without separators are found again in the text that they make. -/
theorem splitOn_intercalate {separator : Char} {pieces : List (List Char)}
    (h : ∀ piece ∈ pieces, separator ∉ piece) (hne : pieces ≠ []) :
    splitOn separator ([separator].intercalate pieces) = pieces := by
  induction pieces with
  | nil => exact absurd rfl hne
  | cons piece pieces ih =>
    obtain ⟨hpiece, hpieces⟩ := List.forall_mem_cons.1 h
    cases pieces with
    | nil => rw [List.intercalate_singleton, splitOn_of_not_mem hpiece]
    | cons next pieces =>
      rw [List.intercalate_cons_cons, List.append_assoc, List.singleton_append,
        splitOn_append_cons, splitOn_of_not_mem hpiece, ih hpieces (List.cons_ne_nil _ _),
        List.singleton_append]

end ControlSchema.Text
