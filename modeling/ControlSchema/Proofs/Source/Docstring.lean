import ControlSchema.Proofs.Source.Lexeme
import ControlSchema.Proofs.Source.Literal
import ControlSchema.Proofs.Text.Blank

/-!
# Docstrings

The writer replaces backslashes and then triples of marks. Both passes together
are one walk over the description, `escaped`, on which the count of marks always
goes through. Cutting the result into lines and stripping their ends takes away
nothing but breaks and blanks, and a count can be parted at those.
-/

namespace ControlSchema.Source

open Text

namespace Docstring

/-! ## Both replacements at once -/

/-- The characters of a description between the marks, but for the last one. -/
def escaped : List Char → List Char
  | '"' :: '"' :: '"' :: rest => '\\' :: '"' :: '\\' :: '"' :: '\\' :: '"' :: escaped rest
  | '\\' :: rest => '\\' :: '\\' :: escaped rest
  | c :: rest => c :: escaped rest
  | [] => []

/-- A backslash twice, any other character once. -/
def doubled (c : Char) : List Char := if c = '\\' then ['\\', '\\'] else [c]

theorem replaceFrom_backslash (cs : List Char) :
    replaceFrom ['\\'] ['\\', '\\'] 0 cs = cs.flatMap doubled := by
  induction cs with
  | nil => rfl
  | cons c cs ih =>
    rw [List.flatMap_cons, doubled]
    by_cases hc : c = '\\'
    · subst hc
      simp [replaceFrom, List.isPrefixOf, ih]
    · simp [replaceFrom, List.isPrefixOf, Ne.symm hc, hc, ih]

theorem marks_prefix_doubled (n : Nat) (cs : List Char) :
    List.replicate n '"' <+: cs.flatMap doubled ↔ List.replicate n '"' <+: cs := by
  induction n generalizing cs with
  | zero => simp
  | succ n ih =>
    cases cs with
    | nil => rfl
    | cons c cs =>
      rw [List.replicate_succ, List.flatMap_cons, doubled]
      by_cases hc : c = '\\'
      · subst hc
        simp [List.cons_prefix_cons]
      · rw [if_neg hc, List.singleton_append, List.cons_prefix_cons, List.cons_prefix_cons, ih]

theorem replaceFrom_marks (cs : List Char) :
    replaceFrom ['"', '"', '"'] ['\\', '"', '\\', '"', '\\', '"'] 0 (cs.flatMap doubled)
      = escaped cs := by
  induction cs using escaped.induct with
  | case1 rest ih =>
    simp [escaped, doubled, replaceFrom, List.isPrefixOf, ih]
  | case2 rest ih =>
    simp [escaped, doubled, replaceFrom, List.isPrefixOf, ih]
  | case3 c rest hmarks hslash ih =>
    have hslash : c ≠ '\\' := fun h => hslash h
    have hopen : ¬ ['"', '"', '"'].isPrefixOf (c :: rest.flatMap doubled) = true := by
      rw [List.isPrefixOf_iff_prefix]
      intro h
      have h := (marks_prefix_doubled 3 (c :: rest)).1 (by
        rw [List.flatMap_cons, doubled, if_neg hslash]
        exact h)
      obtain ⟨more, hmore⟩ := h
      simp only [List.replicate, List.cons_append, List.nil_append, List.cons.injEq] at hmore
      exact hmarks more hmore.1.symm hmore.2.symm
    rw [List.flatMap_cons, doubled, if_neg hslash, List.singleton_append, replaceFrom,
      if_neg hopen, ih, escaped]
    · exact hmarks
    · exact hslash
  | case4 => rfl

theorem replaceAll_eq (s : String) {pattern : String} (hpattern : pattern.isEmpty = false)
    (replacement : String) : replaceAll s pattern replacement
      = String.ofList (replaceFrom pattern.toList replacement.toList 0 s.toList) := by
  rw [replaceAll, hpattern, if_neg Bool.false_ne_true]

theorem body_eq (description : String) :
    body description = guardEnd (String.ofList (escaped (strip description).toList)) := by
  have hslash : "\\".toList = ['\\'] ∧ "\\\\".toList = ['\\', '\\'] := by decide
  have hmark : tripleMark.toList = ['"', '"', '"'] ∧
      "\\\"\\\"\\\"".toList = ['\\', '"', '\\', '"', '\\', '"'] := by decide
  rw [body, replaceAll_eq _ (by decide), replaceAll_eq _ (by decide), hslash.1,
    hslash.2, hmark.1, hmark.2, String.toList_ofList, replaceFrom_backslash, replaceFrom_marks]

/-! ## Counting marks -/

open Literal

/-- The count goes through on what is written: marks that are left alone are
never three in a row, with those that stand before them. -/
theorem exists_quotesAfter?_escaped {n : Nat} {cs : List Char}
    (h : n = 0 ∨ ¬ List.replicate (3 - n) '"' <+: cs) :
    ∃ m, quotesAfter? n (escaped cs) = some m := by
  induction cs using escaped.induct generalizing n with
  | case1 rest ih =>
    obtain ⟨m, hm⟩ := @ih 0 (Or.inl rfl)
    refine ⟨m, ?_⟩
    rw [escaped, quotesAfter?_escaped _ (Or.inr rfl), quotesAfter?_escaped _ (Or.inr rfl),
      quotesAfter?_escaped _ (Or.inr rfl), hm]
  | case2 rest ih =>
    obtain ⟨m, hm⟩ := @ih 0 (Or.inl rfl)
    refine ⟨m, ?_⟩
    rw [escaped, quotesAfter?_escaped _ (Or.inl rfl), hm]
  | case3 c rest hmarks hslash ih =>
    have hrest : escaped (c :: rest) = c :: escaped rest := by
      rw [escaped]
      · exact hmarks
      · exact hslash
    rw [hrest]
    by_cases hmark : c = '"'
    · subst hmark
      have hnot : ¬ List.replicate (3 - n) '"' <+: '"' :: rest := by
        rcases h with rfl | h
        · rintro ⟨more, hmore⟩
          simp only [List.replicate, List.cons_append, List.nil_append, List.cons.injEq] at hmore
          exact hmarks more rfl hmore.2.symm
        · exact h
      have hn : n < 2 := by
        by_contra hn
        rcases (by omega : 3 - n = 0 ∨ 3 - n = 1) with hk | hk
        · exact hnot (by rw [hk]; exact List.nil_prefix)
        · exact hnot (by rw [hk]; exact ⟨rest, rfl⟩)
      obtain ⟨m, hm⟩ := @ih (n + 1) (Or.inr fun hprefix => hnot (by
        rw [show 3 - n = (3 - (n + 1)) + 1 by omega, List.replicate_succ, List.cons_prefix_cons]
        exact ⟨rfl, hprefix⟩))
      exact ⟨m, by rw [quotesAfter?_mark hn, hm]⟩
    · obtain ⟨m, hm⟩ := @ih 0 (Or.inl rfl)
      exact ⟨m, by rw [quotesAfter?_other n hslash hmark, hm]⟩
  | case4 => exact ⟨n, rfl⟩

/-- The last character stays the last. -/
theorem getLastD_escaped (cs : List Char) (d : Char) :
    (escaped cs).getLastD d = cs.getLastD d := by
  induction cs using escaped.induct generalizing d with
  | case1 rest ih =>
    simp only [escaped, List.getLastD_cons]
    exact ih '"'
  | case2 rest ih =>
    simp only [escaped, List.getLastD_cons]
    exact ih '\\'
  | case3 c rest hmarks hslash ih =>
    have hrest : escaped (c :: rest) = c :: escaped rest := by
      rw [escaped]
      · exact hmarks
      · exact hslash
    rw [hrest, List.getLastD_cons, List.getLastD_cons]
    exact ih c
  | case4 => rfl

/-- What the end of a body tells about its count. -/
theorem quotesAfter?_concat {n m : Nat} {cs : List Char} {c : Char}
    (h : quotesAfter? n (cs ++ [c]) = some m) :
    (c ≠ '"' → m = 0) ∧ (c = '"' → (∃ k, quotesAfter? n cs = some k) ∨
      ∃ front k, cs = front ++ ['\\'] ∧ quotesAfter? n front = some k) := by
  suffices hall : ∀ all, quotesAfter? n all = some m → ∀ cs, all = cs ++ [c] →
      (c ≠ '"' → m = 0) ∧ (c = '"' → (∃ k, quotesAfter? n cs = some k) ∨
        ∃ front k, cs = front ++ ['\\'] ∧ quotesAfter? n front = some k) from hall _ h cs rfl
  intro all hcount
  refine quotesAfter?_induction (P := fun n all => ∀ cs, all = cs ++ [c] →
      (c ≠ '"' → m = 0) ∧ (c = '"' → (∃ k, quotesAfter? n cs = some k) ∨
        ∃ front k, cs = front ++ ['\\'] ∧ quotesAfter? n front = some k)) ?_ ?_ ?_ ?_ hcount
  · intro cs hcs
    exact absurd hcs (by simp)
  · intro n d rest hd hrest ih cs hcs
    match cs with
    | [] => exact absurd hcs (by simp)
    | [e] =>
      simp only [List.cons_append, List.nil_append, List.cons.injEq] at hcs
      obtain ⟨rfl, rfl, rfl⟩ := hcs
      exact ⟨fun _ => (Option.some.inj hrest).symm, fun _ => Or.inr ⟨[], n, rfl, rfl⟩⟩
    | e :: f :: cs =>
      simp only [List.cons_append, List.cons.injEq] at hcs
      obtain ⟨rfl, rfl, hcs⟩ := hcs
      obtain ⟨hother, hmark⟩ := ih cs hcs
      refine ⟨hother, fun hc => ?_⟩
      rcases hmark hc with ⟨k, hk⟩ | ⟨front, k, rfl, hk⟩
      · exact Or.inl ⟨k, by rw [quotesAfter?_escaped n hd, hk]⟩
      · exact Or.inr ⟨'\\' :: d :: front, k, rfl, by rw [quotesAfter?_escaped n hd, hk]⟩
  · intro n rest hn hrest ih cs hcs
    cases cs with
    | nil =>
      obtain ⟨rfl, rfl⟩ := List.cons.inj hcs
      exact ⟨fun hne => absurd rfl hne, fun _ => Or.inl ⟨n, rfl⟩⟩
    | cons e cs =>
      obtain ⟨rfl, hmore⟩ := List.cons.inj hcs
      obtain ⟨hother, hmark⟩ := ih cs hmore
      refine ⟨hother, fun hc => ?_⟩
      rcases hmark hc with ⟨k, hk⟩ | ⟨front, k, rfl, hk⟩
      · exact Or.inl ⟨k, by rw [quotesAfter?_mark hn, hk]⟩
      · exact Or.inr ⟨'"' :: front, k, rfl, by rw [quotesAfter?_mark hn, hk]⟩
  · intro n d rest hs hm hrest ih cs hcs
    cases cs with
    | nil =>
      obtain ⟨rfl, rfl⟩ := List.cons.inj hcs
      exact ⟨fun _ => (Option.some.inj hrest).symm, fun _ => Or.inl ⟨n, rfl⟩⟩
    | cons e cs =>
      obtain ⟨rfl, hmore⟩ := List.cons.inj hcs
      obtain ⟨hother, hmark⟩ := ih cs hmore
      refine ⟨hother, fun hc => ?_⟩
      rcases hmark hc with ⟨k, hk⟩ | ⟨front, k, rfl, hk⟩
      · exact Or.inl ⟨k, by rw [quotesAfter?_other n hs hm, hk]⟩
      · exact Or.inr ⟨d :: front, k, rfl, by rw [quotesAfter?_other n hs hm, hk]⟩

/-- A body ends without marks in a row, or with one mark behind such a body. -/
inductive Ended (body : List Char) : Prop
  | quiet (h : quotesAfter? 0 body = some 0) : Ended body
  | bare {front : List Char} (hbody : body = front ++ ['"'])
      (hfront : quotesAfter? 0 front = some 0) : Ended body

theorem ended_body (description : String) : Ended (body description).toList := by
  obtain ⟨m, hm⟩ := @exists_quotesAfter?_escaped 0 (strip description).toList (Or.inl rfl)
  rw [body_eq, guardEnd, String.toList_ofList]
  generalize escaped (strip description).toList = cs at hm
  rcases List.eq_nil_or_concat' cs with rfl | ⟨front, c, rfl⟩
  · exact .quiet rfl
  obtain ⟨hother, hmark⟩ := quotesAfter?_concat hm
  rw [List.getLast?_concat]
  by_cases hc : c = '"'
  · rw [if_pos (by simp [hc]), List.dropLast_concat, String.toList_append, String.toList_ofList]
    have htail : "\\\"".toList = ['\\', '"'] := by decide
    rw [htail]
    rcases hmark hc with ⟨k, hk⟩ | ⟨front, k, rfl, hk⟩
    · exact .quiet (by rw [quotesAfter?_append hk, quotesAfter?_escaped k (Or.inr rfl)]; rfl)
    · refine @Ended.bare _ (front ++ ['\\', '\\']) (by simp) ?_
      rw [quotesAfter?_append hk, quotesAfter?_escaped k (Or.inl rfl)]
      rfl
  · rw [if_neg (by simpa using hc), String.toList_ofList]
    rw [hother hc] at hm
    exact .quiet hm

/-! ## Lines of a body -/

theorem not_break_backslash : isLineBreak '\\' = false := by decide

theorem not_break_mark : isLineBreak '"' = false := by decide

/-- The count goes through on every line. -/
theorem exists_quotesAfter?_line {n m : Nat} {cs : List Char} (h : quotesAfter? n cs = some m) :
    ∀ first more, splitLines cs = first :: more →
      (∃ k, quotesAfter? n first = some k) ∧ ∀ line ∈ more, ∃ k, quotesAfter? 0 line = some k := by
  refine quotesAfter?_induction (P := fun n cs => ∀ first more, splitLines cs = first :: more →
      (∃ k, quotesAfter? n first = some k) ∧
        ∀ line ∈ more, ∃ k, quotesAfter? 0 line = some k) ?_ ?_ ?_ ?_ h
  · intro first more hsplit
    cases hsplit
  · intro n d rest hd _ ih first more hsplit
    have hbreak : isLineBreak d = false := by
      rcases hd with rfl | rfl
      · exact not_break_backslash
      · exact not_break_mark
    rw [splitLines_other not_break_backslash, splitLines_other hbreak] at hsplit
    obtain ⟨rfl, rfl⟩ := List.cons.inj hsplit
    simp only [List.headD_cons, List.tail_cons]
    rw [quotesAfter?_escaped n hd]
    cases hrest : splitLines rest with
    | nil => exact ⟨⟨0, rfl⟩, fun line hline => absurd hline List.not_mem_nil⟩
    | cons first more => exact ih first more hrest
  · intro n rest hn _ ih first more hsplit
    rw [splitLines_other not_break_mark] at hsplit
    obtain ⟨rfl, rfl⟩ := List.cons.inj hsplit
    rw [quotesAfter?_mark hn]
    cases hrest : splitLines rest with
    | nil => exact ⟨⟨n + 1, rfl⟩, fun line hline => absurd hline List.not_mem_nil⟩
    | cons first more => exact ih first more hrest
  · intro n c rest hs hm hcount ih first more hsplit
    by_cases hc : isLineBreak c = true
    · by_cases hfeed : c = '\r' → rest.head? ≠ some '\n'
      · rw [splitLines_break hc rest hfeed] at hsplit
        obtain ⟨rfl, rfl⟩ := List.cons.inj hsplit
        refine ⟨⟨n, rfl⟩, fun line hline => ?_⟩
        cases hrest : splitLines rest with
        | nil =>
          rw [hrest] at hline
          cases hline
        | cons first more =>
          obtain ⟨hfirst, hmore⟩ := ih first more hrest
          rw [hrest] at hline
          rcases List.mem_cons.1 hline with rfl | hline
          · exact hfirst
          · exact hmore line hline
      · -- the line feed of the pair is counted as a line of its own before it
        obtain ⟨rfl, hhead⟩ := Classical.not_imp.1 hfeed
        obtain ⟨d, after, rfl⟩ : ∃ d after, rest = d :: after := by
          cases rest with
          | nil => exact absurd (by simp) hhead
          | cons d after => exact ⟨d, after, rfl⟩
        obtain rfl : d = '\n' := by simpa using hhead
        rw [splitLines] at hsplit
        obtain ⟨rfl, rfl⟩ := List.cons.inj hsplit
        exact ⟨⟨n, rfl⟩, (ih [] (splitLines after)
          (splitLines_break (by decide) after (fun h => absurd h (by decide)))).2⟩
    · rw [splitLines_other (Bool.eq_false_iff.2 hc)] at hsplit
      obtain ⟨rfl, rfl⟩ := List.cons.inj hsplit
      rw [quotesAfter?_other n hs hm]
      cases hrest : splitLines rest with
      | nil => exact ⟨⟨0, rfl⟩, fun line hline => absurd hline List.not_mem_nil⟩
      | cons first more => exact ih first more hrest

theorem exists_quotesAfter?_stripEnd {n m : Nat} {cs : List Char}
    (h : quotesAfter? n cs = some m) : ∃ k, quotesAfter? n (stripEnd cs) = some k := by
  obtain ⟨blanks, hsplit, hblanks⟩ := stripEnd_append cs
  cases blanks with
  | nil =>
    rw [List.append_nil] at hsplit
    exact ⟨m, by rw [← hsplit, h]⟩
  | cons c blanks =>
    have hc := hblanks c List.mem_cons_self
    rw [hsplit] at h
    refine (quotesAfter?_parted ?_ ?_ h).1
    · rintro rfl
      cases hc
    · rintro rfl
      cases hc

theorem quotesAfter?_spaces {n : Nat} {cs : List Char} (hcs : ∀ c ∈ cs, c = ' ')
    (more : List Char) : quotesAfter? n (cs ++ more)
      = quotesAfter? (if cs = [] then n else 0) more := by
  induction cs generalizing n with
  | nil => rfl
  | cons c cs ih =>
    obtain rfl := hcs c List.mem_cons_self
    rw [List.cons_append, quotesAfter?_other n (by decide) (by decide),
      ih fun d hd => hcs d (List.mem_cons_of_mem _ hd)]
    simp

/-! ## The literal -/

/-- What stands between the marks of a docstring with the given lines. -/
def contentsOf (indent : String) : List String → List Char
  | [line] => line.toList
  | many => '\n' :: many.flatMap (fun line => (stripRight (indent ++ line)).toList ++ ['\n'])
      ++ indent.toList

def contents (indent description : String) : List Char :=
  contentsOf indent (lines (body description))

def literal (indent description : String) : Literal :=
  ⟨[], '"', true, contents indent description⟩

/-- Whether a docstring with the given lines is closed where it should be. -/
def areClosed : List String → Bool
  | [line] => quotesAfter? 0 line.toList == some 0
  | _ => true

def isClosed (description : String) : Bool := areClosed (lines (body description))

/-- The text that the docstring stands for. -/
def meaning (indent description : String) : String := (literal indent description).value?.getD ""

theorem exists_quotesAfter?_of_mem_lines {description line : String}
    (hline : line ∈ lines (body description)) : ∃ k, quotesAfter? 0 line.toList = some k := by
  obtain ⟨cs, hcs, rfl⟩ := List.mem_map.1 hline
  rw [String.toList_ofList]
  have hcount : ∃ m, quotesAfter? 0 (body description).toList = some m := by
    rcases ended_body description with h | ⟨hbody, hfront⟩
    · exact ⟨0, h⟩
    · refine ⟨1, ?_⟩
      rw [hbody, quotesAfter?_append hfront]
      rfl
  obtain ⟨m, hm⟩ := hcount
  cases hsplit : splitLines (body description).toList with
  | nil =>
    rw [hsplit] at hcs
    cases hcs
  | cons first more =>
    obtain ⟨hfirst, hmore⟩ := exists_quotesAfter?_line hm first more hsplit
    rw [hsplit] at hcs
    rcases List.mem_cons.1 hcs with rfl | hcs
    · exact hfirst
    · exact hmore cs hcs

variable {indent : String} (hindent : ∀ c ∈ indent.toList, c = ' ')
include hindent

theorem quotesAfter?_rows {many : List String}
    (hmany : ∀ line ∈ many, ∃ k, quotesAfter? 0 line.toList = some k) :
    quotesAfter? 0 (many.flatMap (fun line => (stripRight (indent ++ line)).toList ++ ['\n'])
      ++ indent.toList) = some 0 := by
  induction many with
  | nil =>
    have hspaces := quotesAfter?_spaces (n := 0) hindent []
    rw [List.append_nil] at hspaces
    rw [List.flatMap_nil, List.nil_append, hspaces, quotesAfter?]
    split <;> rfl
  | cons line many ih =>
    obtain ⟨k, hk⟩ := hmany line List.mem_cons_self
    have hfull : quotesAfter? 0 (indent ++ line).toList = some k := by
      rw [String.toList_append, quotesAfter?_spaces hindent]
      split <;> exact hk
    obtain ⟨j, hj⟩ := exists_quotesAfter?_stripEnd hfull
    rw [List.flatMap_cons, stripRight, String.toList_ofList, List.append_assoc, List.append_assoc,
      quotesAfter?_append hj, List.singleton_append, quotesAfter?_other j (by decide) (by decide)]
    exact ih fun line hline => hmany line (List.mem_cons_of_mem _ hline)

theorem quotesAfter?_contents {description : String} (h : isClosed description = true) :
    quotesAfter? 0 (contents indent description) = some 0 := by
  have hmany := fun line => @exists_quotesAfter?_of_mem_lines description line
  rw [isClosed] at h
  rw [contents]
  generalize lines (body description) = many at hmany h
  match many with
  | [] =>
    rw [contentsOf, List.cons_append, quotesAfter?_other 0 (by decide) (by decide)]
    · exact quotesAfter?_rows hindent hmany
    · intro line h
      cases h
  | [line] => exact beq_iff_eq.1 h
  | first :: second :: more =>
    rw [contentsOf, List.cons_append, quotesAfter?_other 0 (by decide) (by decide)]
    · exact quotesAfter?_rows hindent hmany
    · intro line h
      cases h

theorem not_return_contents (description : String) : '\r' ∉ contents indent description := by
  have hlines : ∀ line ∈ lines (body description), ∀ c ∈ line.toList, isLineBreak c = false := by
    intro line hline
    obtain ⟨cs, hcs, rfl⟩ := List.mem_map.1 hline
    rw [String.toList_ofList]
    exact not_break_of_mem_splitLines cs hcs
  have hspaces : ∀ c ∈ indent.toList, isLineBreak c = false := by
    intro c hc
    rw [hindent c hc]
    rfl
  have hmany : ∀ many : List String, (∀ line ∈ many, ∀ c ∈ line.toList, isLineBreak c = false) →
      '\r' ∉ '\n' :: many.flatMap (fun line => (stripRight (indent ++ line)).toList ++ ['\n'])
        ++ indent.toList := by
    intro many hall hmem
    simp only [List.cons_append, List.mem_cons, List.mem_append, List.mem_flatMap,
      List.not_mem_nil, or_false] at hmem
    rcases hmem with h | ⟨line, hline, h | h⟩ | h
    · cases h
    · rw [stripRight, String.toList_ofList] at h
      refine Bool.noConfusion (not_break_of_mem_stripEnd ?_ _ h : isLineBreak '\r' = false)
      intro c hc
      rw [String.toList_append] at hc
      rcases List.mem_append.1 hc with hc | hc
      · exact hspaces c hc
      · exact hall line hline c hc
    · cases h
    · cases hspaces _ h
  rw [contents]
  generalize lines (body description) = many at hlines
  match many with
  | [] => exact hmany _ hlines
  | [line] => exact fun h => Bool.noConfusion (hlines line List.mem_cons_self _ h)
  | first :: second :: more => exact hmany _ hlines

/-- A closed docstring is one sound token. -/
theorem sound_literal {description : String} (h : isClosed description = true) :
    Token.Sound (.literal (literal indent description)) := by
  have hcount := quotesAfter?_contents hindent h
  have hreturn := not_return_contents hindent description
  rw [literal]
  generalize contents indent description = cs at hcount hreturn
  exact .literal rfl rfl (front?_quiet hcount) hreturn

theorem value?_literal {description : String} (h : isClosed description = true) :
    (literal indent description).value? = some (meaning indent description) := by
  have hcount := quotesAfter?_contents hindent h
  rw [meaning, literal]
  generalize contents indent description = cs at hcount
  obtain ⟨value, hvalue⟩ := exists_unescapeFrom hcount
  have hraw : (Literal.mk [] '"' true cs).isRaw = false := rfl
  rw [Literal.value?, hraw, if_neg Bool.false_ne_true, hvalue]
  rfl

omit hindent

/-- No break stands at the end of a body. -/
theorem not_break_getLastD_body (description : String) :
    ¬ ∀ d, isLineBreak ((body description).toList.getLastD d) = true := by
  intro hall
  have hbreak := hall '"'
  rw [body_eq, guardEnd, String.toList_ofList] at hbreak
  split at hbreak
  · have htail : "\\\"".toList = ['\\', '"'] := by decide
    rw [String.toList_append, htail] at hbreak
    simp [isLineBreak] at hbreak
  · rw [String.toList_ofList] at hbreak
    rw [getLastD_escaped, strip, String.toList_ofList] at hbreak
    cases hlast : (stripEnd (stripStart description.toList)).getLast? with
    | none =>
      rw [List.getLastD_eq_getLast?, hlast] at hbreak
      cases hbreak
    | some c =>
      rw [List.getLastD_eq_getLast?, hlast] at hbreak
      have := isBlank_of_isLineBreak hbreak
      rw [Option.getD_some, not_blank_getLast?_stripEnd hlast] at this
      cases this

/-- A docstring that is not closed stands on one line and ends with a bare mark. -/
theorem contents_of_not_closed {description : String} (h : isClosed description = false)
    (indent : String) :
    ∃ front, contents indent description = front ++ ['"'] ∧ quotesAfter? 0 front = some 0 := by
  rw [isClosed] at h
  rw [contents]
  obtain ⟨line, hlines⟩ : ∃ line, lines (body description) = [line] := by
    generalize lines (body description) = many at h
    match many with
    | [] => cases h
    | [line] => exact ⟨line, rfl⟩
    | _ :: _ :: _ => cases h
  obtain ⟨cs, hsplit, rfl⟩ := List.map_eq_singleton_iff.1 hlines
  have hcs : cs = (body description).toList :=
    (eq_of_splitLines_eq_singleton hsplit).resolve_right (not_break_getLastD_body description)
  rw [hlines, areClosed, String.toList_ofList, hcs] at h
  rw [hlines, contentsOf, String.toList_ofList, hcs]
  rcases ended_body description with hquiet | ⟨hbody, hfront⟩
  · rw [hquiet] at h
    cases h
  · exact ⟨_, hbody, hfront⟩

/-- Behind a docstring that is not closed stands one mark too many. -/
theorem readFrom_not_closed {description : String} (h : isClosed description = false)
    {indent : String} (hindent : ∀ c ∈ indent.toList, c = ' ') (rest : List Char) :
    Lexeme.readFrom 0 ((literal indent description).spelling ++ '\n' :: rest) = none := by
  obtain ⟨front, hcontents, hfront⟩ := contents_of_not_closed h indent
  have hspell : (literal indent description).spelling ++ '\n' :: rest
      = (Literal.mk [] '"' true front).spelling ++ '"' :: '\n' :: rest := by
    simp [literal, hcontents, Literal.spelling, Literal.marks]
  have hreturn : '\r' ∉ front := by
    have := not_return_contents hindent description
    rw [hcontents] at this
    exact fun h => this (List.mem_append_left _ h)
  have hsound : Token.Sound (.literal ⟨[], '"', true, front⟩) :=
    .literal rfl rfl (front?_quiet hfront) hreturn
  have hmark : Lexeme.readFrom 0 ('"' :: '\n' :: rest) = none := by
    have hopen : Lexeme.front? ('"' :: '\n' :: rest) = none := by
      rw [Lexeme.front?_of_plain (by decide) (by decide) (by decide) (by decide)]
      have hbody : singleBody? '"' ('\n' :: rest) = none := by
        rw [singleBody?.eq_def]
        rfl
      simp [Lexeme.frontToken?, Literal.front?, Literal.isMark, List.isPrefixOf, hbody]
    rw [Lexeme.readFrom, hopen]
    rfl
  rw [hspell]
  exact (@readFrom_token (.literal ⟨[], '"', true, front⟩) hsound _ (fun _ _ => rfl)).trans
    (by rw [hmark]; rfl)

end Docstring

end ControlSchema.Source
