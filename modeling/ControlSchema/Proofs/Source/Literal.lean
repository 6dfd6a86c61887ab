import ControlSchema.Source.Literal
import Mathlib.Data.List.Basic

/-!
# Closed literals

A literal is closed when the marks behind its body are the first that can close
it. For a body between three marks that is a matter of counting: `quotesAfter?`
walks along the body, stepping over escaped characters, and keeps the number of
marks that have been seen in a row. The body is closed if there are never three
and if there are none at the end.

The writer of docstrings escapes backslashes and triples of marks, so the count
goes through on everything that it writes. What it does not secure is the end:
a description that ends with an escaped triple leaves a bare mark in front of
the closing ones. On several lines the line break stands between them; on one
line the marks are one too many, and the text cannot be read.
-/

namespace ControlSchema.Source

open Text

namespace Literal

/-! ## Single marks -/

/-- A character that stands for itself between single marks. -/
def isPlain (c : Char) : Bool := !isMark c && c != '\\' && c != '\n'

theorem singleBody?_plain {mark : Char} (hmark : isMark mark = true) {body : List Char}
    (hbody : ∀ c ∈ body, isPlain c = true) (rest : List Char) :
    singleBody? mark (body ++ mark :: rest) = some body := by
  induction body with
  | nil =>
    have hslash : (mark == '\\') = false := by
      rw [isMark, Bool.or_eq_true, beq_iff_eq, beq_iff_eq] at hmark
      rcases hmark with rfl | rfl <;> rfl
    rw [List.nil_append, singleBody?.eq_def]
    simp [hslash]
  | cons c body ih =>
    have hc := hbody c List.mem_cons_self
    simp only [isPlain, Bool.and_eq_true, Bool.not_eq_true', bne_iff_ne] at hc
    have hne : c ≠ mark := by
      rintro rfl
      rw [hmark] at hc
      exact Bool.noConfusion hc.1.1
    rw [List.cons_append, singleBody?.eq_def]
    simp [hc.1.2, hne, hc.2, ih fun d hd => hbody d (List.mem_cons_of_mem c hd)]

theorem front?_plain {body : List Char} (hne : body ≠ [])
    (hbody : ∀ c ∈ body, isPlain c = true) (rest : List Char) :
    front? [] ((Literal.mk [] '\'' false body).spelling ++ rest)
      = some ⟨[], '\'', false, body⟩ := by
  obtain ⟨c, cs, rfl⟩ := List.exists_cons_of_ne_nil hne
  have hc := hbody c List.mem_cons_self
  simp only [isPlain, Bool.and_eq_true, Bool.not_eq_true', bne_iff_ne] at hc
  have hopen : ['\'', '\''].isPrefixOf (c :: (cs ++ '\'' :: rest)) = false := by
    have hne : ('\'' == c) = false := by
      rw [beq_eq_false_iff_ne]
      rintro rfl
      exact Bool.noConfusion hc.1.1
    simp [List.isPrefixOf, hne]
  have hread := @singleBody?_plain '\'' rfl (c :: cs) hbody rest
  simp only [spelling, marks, List.nil_append, List.cons_append, List.append_assoc,
    Bool.false_eq_true, if_false] at hread ⊢
  rw [front?, if_neg (by decide), hopen, if_neg Bool.false_ne_true, hread]
  rfl

theorem unescapeFrom_eq {body : List Char} (hbody : '\\' ∉ body) :
    unescapeFrom 0 body = some body := by
  induction body with
  | nil => rfl
  | cons c body ih =>
    have hc : c ≠ '\\' := fun h => hbody (by rw [h]; exact List.mem_cons_self)
    rw [unescapeFrom, if_neg (by simpa using hc), ih fun h => hbody (List.mem_cons_of_mem c h)]
    rfl

/-! ## Three marks -/

/-- The number of marks in a row at the end of a body, behind some of them.
Only backslashes and marks are escaped, and there are never three marks in a
row. -/
def quotesAfter? : Nat → List Char → Option Nat
  | n, [] => some n
  | n, c :: rest =>
    if c = '\\' then
      match rest with
      | [] => none
      | d :: rest => if d = '\\' ∨ d = '"' then quotesAfter? 0 rest else none
    else if c = '"' then if n < 2 then quotesAfter? (n + 1) rest else none
    else quotesAfter? 0 rest

theorem quotesAfter?_escaped (n : Nat) {d : Char} (hd : d = '\\' ∨ d = '"') (rest : List Char) :
    quotesAfter? n ('\\' :: d :: rest) = quotesAfter? 0 rest := by
  rw [quotesAfter?, if_pos rfl]
  exact if_pos hd

theorem quotesAfter?_mark {n : Nat} (hn : n < 2) (rest : List Char) :
    quotesAfter? n ('"' :: rest) = quotesAfter? (n + 1) rest := by
  rw [quotesAfter?.eq_def]
  simp only
  rw [if_neg (by decide), if_pos trivial, if_pos hn]

theorem quotesAfter?_other (n : Nat) {c : Char} (hslash : c ≠ '\\') (hmark : c ≠ '"')
    (rest : List Char) : quotesAfter? n (c :: rest) = quotesAfter? 0 rest := by
  rw [quotesAfter?.eq_def]
  simp only
  rw [if_neg hslash, if_neg hmark]

theorem quotesAfter?_unmarked {cs : List Char} (h : ∀ c ∈ cs, c ≠ '\\' ∧ c ≠ '"') :
    quotesAfter? 0 cs = some 0 := by
  induction cs with
  | nil => rfl
  | cons c cs ih =>
    obtain ⟨hslash, hmark⟩ := h c List.mem_cons_self
    rw [quotesAfter?_other 0 hslash hmark, ih fun d hd => h d (List.mem_cons_of_mem c hd)]

/-- The ways in which a count goes on. -/
theorem quotesAfter?_cases {n m : Nat} {cs : List Char} (h : quotesAfter? n cs = some m) :
    (cs = [] ∧ m = n) ∨
    (∃ d rest, cs = '\\' :: d :: rest ∧ (d = '\\' ∨ d = '"') ∧ quotesAfter? 0 rest = some m) ∨
    (∃ rest, cs = '"' :: rest ∧ n < 2 ∧ quotesAfter? (n + 1) rest = some m) ∨
    (∃ c rest, cs = c :: rest ∧ c ≠ '\\' ∧ c ≠ '"' ∧ quotesAfter? 0 rest = some m) := by
  cases cs with
  | nil => exact Or.inl ⟨rfl, (Option.some.inj h).symm⟩
  | cons c rest =>
    rw [quotesAfter?.eq_def] at h
    simp only at h
    by_cases hslash : c = '\\'
    · rw [if_pos hslash] at h
      cases rest with
      | nil => cases h
      | cons d rest =>
        simp only at h
        by_cases hd : d = '\\' ∨ d = '"'
        · rw [if_pos hd] at h
          exact Or.inr (Or.inl ⟨d, rest, by rw [hslash], hd, h⟩)
        · rw [if_neg hd] at h
          cases h
    · rw [if_neg hslash] at h
      by_cases hmark : c = '"'
      · rw [if_pos hmark] at h
        by_cases hn : n < 2
        · rw [if_pos hn] at h
          exact Or.inr (Or.inr (Or.inl ⟨rest, by rw [hmark], hn, h⟩))
        · rw [if_neg hn] at h
          cases h
      · rw [if_neg hmark] at h
        exact Or.inr (Or.inr (Or.inr ⟨c, rest, rfl, hslash, hmark, h⟩))

/-- The induction that follows a count. -/
theorem quotesAfter?_induction {P : Nat → List Char → Prop} {m : Nat} (hnil : P m [])
    (hescaped : ∀ n d rest, d = '\\' ∨ d = '"' → quotesAfter? 0 rest = some m → P 0 rest →
      P n ('\\' :: d :: rest))
    (hmark : ∀ n rest, n < 2 → quotesAfter? (n + 1) rest = some m → P (n + 1) rest →
      P n ('"' :: rest))
    (hother : ∀ n c rest, c ≠ '\\' → c ≠ '"' → quotesAfter? 0 rest = some m → P 0 rest →
      P n (c :: rest)) {n : Nat} {cs : List Char} (h : quotesAfter? n cs = some m) : P n cs := by
  induction hlength : cs.length using Nat.strongRecOn generalizing n cs with
  | ind length ih =>
    obtain ⟨rfl, rfl⟩ | ⟨d, rest, rfl, hd, h⟩ | ⟨rest, rfl, hn, h⟩ | ⟨c, rest, rfl, hs, hm, h⟩ :=
      quotesAfter?_cases h
    · exact hnil
    · have hshorter : rest.length < length := by
        rw [← hlength, List.length_cons, List.length_cons]
        omega
      exact hescaped n d rest hd h (ih rest.length hshorter h rfl)
    · exact hmark n rest hn h (ih rest.length (by simp [← hlength]) h rfl)
    · exact hother n c rest hs hm h (ih rest.length (by simp [← hlength]) h rfl)

theorem quotesAfter?_append {n m : Nat} {cs : List Char} (h : quotesAfter? n cs = some m)
    (more : List Char) : quotesAfter? n (cs ++ more) = quotesAfter? m more := by
  refine quotesAfter?_induction (P := fun n cs => quotesAfter? n (cs ++ more) =
    quotesAfter? m more) rfl ?_ ?_ ?_ h
  · intro n d rest hd _ ih
    rw [List.cons_append, List.cons_append, quotesAfter?_escaped n hd, ih]
  · intro n rest hn _ ih
    rw [List.cons_append, quotesAfter?_mark hn, ih]
  · intro n c rest hs hm _ ih
    rw [List.cons_append, quotesAfter?_other n hs hm, ih]

/-- A count can be parted in front of a character that is neither a backslash
nor a mark. -/
theorem quotesAfter?_parted {n m : Nat} {front : List Char} {c : Char} {back : List Char}
    (hslash : c ≠ '\\') (hmark : c ≠ '"') (h : quotesAfter? n (front ++ c :: back) = some m) :
    (∃ k, quotesAfter? n front = some k) ∧ quotesAfter? 0 back = some m := by
  suffices hall : ∀ cs, quotesAfter? n cs = some m → ∀ front, cs = front ++ c :: back →
      (∃ k, quotesAfter? n front = some k) ∧ quotesAfter? 0 back = some m from
    hall _ h front rfl
  intro cs hcs
  refine quotesAfter?_induction (P := fun n cs => ∀ front, cs = front ++ c :: back →
      (∃ k, quotesAfter? n front = some k) ∧ quotesAfter? 0 back = some m) ?_ ?_ ?_ ?_ hcs
  · intro front hfront
    exact absurd hfront (by simp)
  · intro n d rest hd hrest ih front hfront
    match front with
    | [] => exact absurd (List.cons.inj hfront).1.symm hslash
    | [_] =>
      simp only [List.cons_append, List.nil_append, List.cons.injEq] at hfront
      obtain ⟨-, rfl, -⟩ := hfront
      rcases hd with hd | hd
      · exact absurd hd hslash
      · exact absurd hd hmark
    | e :: f :: front =>
      simp only [List.cons_append, List.cons.injEq] at hfront
      obtain ⟨rfl, rfl, hfront⟩ := hfront
      rw [quotesAfter?_escaped n hd]
      exact ih front hfront
  · intro n rest hn hrest ih front hfront
    cases front with
    | nil => exact absurd (List.cons.inj hfront).1.symm hmark
    | cons e front =>
      obtain ⟨rfl, hmore⟩ := List.cons.inj hfront
      rw [quotesAfter?_mark hn]
      exact ih front hmore
  · intro n d rest hs hm hrest ih front hfront
    cases front with
    | nil =>
      obtain ⟨rfl, rfl⟩ := List.cons.inj hfront
      exact ⟨⟨n, rfl⟩, hrest⟩
    | cons e front =>
      obtain ⟨rfl, hmore⟩ := List.cons.inj hfront
      rw [quotesAfter?_other n hs hm]
      exact ih front hmore

/-- A body at whose end no marks stand is closed by the marks behind it. -/
theorem tripleBody?_quiet {n : Nat} {body : List Char} (h : quotesAfter? n body = some 0)
    (rest : List Char) : tripleBody? '"' (body ++ '"' :: '"' :: '"' :: rest) = some body := by
  refine quotesAfter?_induction (P := fun _ body =>
    tripleBody? '"' (body ++ '"' :: '"' :: '"' :: rest) = some body) rfl ?_ ?_ ?_ h
  · intro n d more hd _ ih
    rw [List.cons_append, List.cons_append, tripleBody?.eq_def]
    simp [ih]
  · intro n more hn hmore ih
    -- of three marks in a row, the last would be counted as the third
    have hopen :
        ['"', '"', '"'].isPrefixOf ('"' :: (more ++ '"' :: '"' :: '"' :: rest)) = false := by
      match more with
      | [] => cases hmore
      | [c] =>
        by_cases hc : c = '"'
        · subst hc
          rw [quotesAfter?.eq_def] at hmore
          by_cases hn : n + 1 < 2 <;> simp [hn, quotesAfter?] at hmore
        · simp [List.isPrefixOf, Ne.symm hc]
      | c :: d :: more =>
        by_cases hc : c = '"'
        · subst hc
          by_cases hd : d = '"'
          · subst hd
            rw [quotesAfter?.eq_def] at hmore
            simp only [if_neg (show ¬ '"' = '\\' by decide), if_true] at hmore
            by_cases hn : n + 1 < 2
            · rw [if_pos hn, quotesAfter?.eq_def] at hmore
              cases hmore
            · rw [if_neg hn] at hmore
              cases hmore
          · simp [List.isPrefixOf, Ne.symm hd]
        · simp [List.isPrefixOf, Ne.symm hc]
    rw [List.cons_append, tripleBody?.eq_def]
    simp only
    rw [if_neg (by decide), hopen, if_neg Bool.false_ne_true, ih]
    rfl
  · intro n c more hs hm _ ih
    have hopen : ['"', '"', '"'].isPrefixOf (c :: (more ++ '"' :: '"' :: '"' :: rest)) = false := by
      simp [List.isPrefixOf, Ne.symm hm]
    rw [List.cons_append, tripleBody?.eq_def]
    simp only
    rw [if_neg (by simpa using hs), hopen, if_neg Bool.false_ne_true, ih]
    rfl

theorem front?_quiet {body : List Char} (h : quotesAfter? 0 body = some 0) (rest : List Char) :
    front? [] ((Literal.mk [] '"' true body).spelling ++ rest) = some ⟨[], '"', true, body⟩ := by
  simp only [spelling, marks, if_true, List.nil_append, List.cons_append, List.append_assoc]
  rw [front?, if_neg (by decide), if_pos (by rfl)]
  simp only [List.drop_succ_cons, List.drop_zero]
  rw [tripleBody?_quiet h]
  rfl

/-- Whatever is counted can be read as a value. -/
theorem exists_unescapeFrom {n m : Nat} {body : List Char} (h : quotesAfter? n body = some m) :
    ∃ value, unescapeFrom 0 body = some value := by
  refine quotesAfter?_induction (P := fun _ body => ∃ value, unescapeFrom 0 body = some value)
    ⟨[], rfl⟩ ?_ ?_ ?_ h
  · rintro n d rest hd _ ⟨value, hvalue⟩
    refine ⟨d :: value, ?_⟩
    rw [unescapeFrom, if_pos (by decide)]
    rcases hd with rfl | rfl <;>
      simp [escape?, simpleEscapes, List.lookup_cons, unescapeFrom, hvalue]
  · rintro n rest hn _ ⟨value, hvalue⟩
    exact ⟨'"' :: value, by rw [unescapeFrom, if_neg (by decide), hvalue]; rfl⟩
  · rintro n c rest hs hm _ ⟨value, hvalue⟩
    exact ⟨c :: value, by rw [unescapeFrom, if_neg (by simpa using hs), hvalue]; rfl⟩

end Literal

end ControlSchema.Source
