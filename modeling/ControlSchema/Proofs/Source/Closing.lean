import ControlSchema.Proofs.Source.Docstring
import ControlSchema.Proofs.Text.Infix

/-!
# Closed docstrings

Marks are escaped three at a time from the left, and after that a mark at the very end is escaped
by itself. Where the marks at the end of a description make up whole threes, the last of them has
been escaped before, and escaping it again leaves it bare. On a line of its own that is harmless,
but a description of one line has the closing marks right behind it.
-/

namespace ControlSchema.Source.Docstring

open Text Literal

/-! ## Marks at the end -/

/-- The number of marks that stand at the end. -/
def marksAtEnd (cs : List Char) : Nat := (cs.reverse.takeWhile (· == '"')).length

theorem exists_front_marksAtEnd (cs : List Char) :
    ∃ front, cs = front ++ List.replicate (marksAtEnd cs) '"' ∧ front.getLast? ≠ some '"' := by
  have hmarks : cs.reverse.takeWhile (· == '"') = List.replicate (marksAtEnd cs) '"' := by
    refine List.eq_replicate_iff.2 ⟨rfl, fun c hc => ?_⟩
    have hmark : (c == '"') = true := List.mem_takeWhile_imp (p := (· == '"')) hc
    exact beq_iff_eq.1 hmark
  refine ⟨(cs.reverse.dropWhile (· == '"')).reverse, ?_, fun hlast => ?_⟩
  · have hsplit := List.takeWhile_append_dropWhile (p := (· == '"')) (l := cs.reverse)
    rw [hmarks] at hsplit
    rw [← List.reverse_replicate, ← List.reverse_append, hsplit, List.reverse_reverse]
  · have hhead := List.head?_dropWhile_not (· == '"') cs.reverse
    rw [List.getLast?_reverse] at hlast
    rw [hlast] at hhead
    cases hhead

theorem marksAtEnd_eq_zero_iff {cs : List Char} : marksAtEnd cs = 0 ↔ cs.getLast? ≠ some '"' := by
  rw [marksAtEnd, List.length_eq_zero_iff, ← List.head?_reverse]
  cases cs.reverse with
  | nil => exact ⟨fun _ => nofun, fun _ => rfl⟩
  | cons c rest =>
    rw [List.takeWhile_cons, List.head?_cons]
    by_cases hc : c = '"' <;> simp [hc]

/-- Threes do not reach over a character that is no mark. -/
theorem escaped_append {front : List Char} (h : front.getLast? ≠ some '"') (rest : List Char) :
    escaped (front ++ rest) = escaped front ++ escaped rest := by
  induction front using escaped.induct with
  | case1 more ih =>
    have hmore : more.getLast? ≠ some '"' := by
      cases more with
      | nil => exact absurd rfl h
      | cons c more => rwa [List.getLast?_cons_cons, List.getLast?_cons_cons,
          List.getLast?_cons_cons] at h
    simp only [List.cons_append, escaped, ih hmore]
  | case2 more ih =>
    have hmore : more.getLast? ≠ some '"' := by
      cases more with
      | nil =>
        intro hnil
        cases hnil
      | cons c more => rwa [List.getLast?_cons_cons] at h
    simp only [List.cons_append, escaped, ih hmore]
  | case3 c more hmarks hslash ih =>
    have hmore : more.getLast? ≠ some '"' := by
      cases more with
      | nil =>
        intro hnil
        cases hnil
      | cons d more => rwa [List.getLast?_cons_cons] at h
    have hthree : ∀ after, c = '"' → more ++ rest = '"' :: '"' :: after → False := by
      rintro after rfl heq
      cases more with
      | nil => exact h rfl
      | cons d more =>
        cases more with
        | nil =>
          obtain ⟨rfl, -⟩ := List.cons.inj heq
          exact h rfl
        | cons e more =>
          simp only [List.cons_append, List.cons.injEq] at heq
          obtain ⟨rfl, rfl, -⟩ := heq
          exact hmarks more rfl rfl
    rw [List.cons_append, escaped.eq_3 c (more ++ rest) hthree hslash, escaped.eq_3 c more hmarks
      hslash, ih hmore, List.cons_append]
  | case4 => rfl

/-! ## The count of a body -/

theorem quotesAfter?_escaped_marks (n : Nat) :
    quotesAfter? 0 (escaped (List.replicate n '"')) = some (n % 3) := by
  induction n using Nat.strongRecOn with
  | ind n ih =>
    match n with
    | 0 | 1 | 2 => rfl
    | n + 3 =>
      have hslash := quotesAfter?_escaped 0 (d := '"') (Or.inr rfl)
      rw [List.replicate_succ, List.replicate_succ, List.replicate_succ, escaped, hslash, hslash,
        hslash, ih n (by omega), Nat.add_mod_right]

/-- What is left of the marks at the end when the threes are escaped. -/
theorem quotesAfter?_escaped_eq (cs : List Char) :
    quotesAfter? 0 (escaped cs) = some (marksAtEnd cs % 3) := by
  obtain ⟨front, hcs, hfront⟩ := exists_front_marksAtEnd cs
  have hquiet : quotesAfter? 0 (escaped front) = some 0 := by
    obtain ⟨m, hm⟩ := @exists_quotesAfter?_escaped 0 front (Or.inl rfl)
    rw [hm]
    rcases List.eq_nil_or_concat' front with rfl | ⟨before, c, rfl⟩
    · cases hm
      rfl
    · have hlast := getLastD_escaped (before ++ [c]) 'x'
      rw [List.getLastD_concat] at hlast
      rcases List.eq_nil_or_concat' (escaped (before ++ [c])) with hnil | ⟨more, d, hmore⟩
      · rw [hnil] at hm
        cases hm
        rfl
      · rw [hmore, List.getLastD_concat] at hlast
        obtain rfl : d = c := hlast
        rw [hmore] at hm
        rw [List.getLast?_concat] at hfront
        rw [(quotesAfter?_concat hm).1 fun hd => hfront (by rw [hd])]
  calc quotesAfter? 0 (escaped cs)
      = quotesAfter? 0 (escaped front ++ escaped (List.replicate (marksAtEnd cs) '"')) := by
        rw [← escaped_append hfront, ← hcs]
    _ = some (marksAtEnd cs % 3) := by
        rw [quotesAfter?_append hquiet, quotesAfter?_escaped_marks]

theorem getLast?_escaped (cs : List Char) : (escaped cs).getLast? = cs.getLast? := by
  have h := getLastD_escaped cs
  simp only [List.getLastD_eq_getLast?] at h
  cases hescaped : (escaped cs).getLast? <;> cases hlast : cs.getLast? <;>
    rw [hescaped, hlast] at h
  · exact absurd ((h 'a').trans (h 'b').symm) (by decide)
  · exact absurd ((h 'a').symm.trans (h 'b')) (by decide)
  · exact congrArg some (h 'a')

/-- A body ends in a bare mark where the marks at the end make up whole threes. -/
theorem quotesAfter?_body (description : String) :
    quotesAfter? 0 (body description).toList = some 0 ↔
      (marksAtEnd (strip description).toList = 0 ∨
        marksAtEnd (strip description).toList % 3 ≠ 0) := by
  have hlast := getLast?_escaped (strip description).toList
  have hcount := quotesAfter?_escaped_eq (strip description).toList
  rw [body_eq, guardEnd, String.toList_ofList, hlast]
  by_cases hmark : (strip description).toList.getLast? = some '"'
  case neg =>
    rw [if_neg (by simpa using hmark), String.toList_ofList, hcount,
      marksAtEnd_eq_zero_iff.2 hmark]
    exact ⟨fun _ => Or.inl rfl, fun _ => rfl⟩
  have hpositive : marksAtEnd (strip description).toList ≠ 0 :=
    fun hzero => marksAtEnd_eq_zero_iff.1 hzero hmark
  have htail : "\\\"".toList = ['\\', '"'] := by decide
  rw [if_pos (by simpa using hmark), String.toList_append, String.toList_ofList, htail]
  obtain ⟨front, hfront⟩ : ∃ front, escaped (strip description).toList = front ++ ['"'] := by
    rw [hmark] at hlast
    exact ⟨_, (List.dropLast_append_getLast? _ hlast).symm⟩
  rw [hfront] at hcount
  rw [hfront, List.dropLast_concat]
  rcases (quotesAfter?_concat hcount).2 rfl with ⟨k, hk⟩ | ⟨before, k, rfl, hk⟩
  · -- the last mark is bare before it is escaped
    rw [quotesAfter?_append hk] at hcount
    rw [quotesAfter?_append hk, quotesAfter?_escaped k (Or.inr rfl)]
    refine ⟨fun _ => Or.inr fun hthree => ?_, fun _ => rfl⟩
    rw [hthree, quotesAfter?.eq_def] at hcount
    simp only [quotesAfter?] at hcount
    split at hcount <;> simp at hcount
  · -- the last mark has been escaped with its three
    rw [List.append_assoc, quotesAfter?_append hk, List.singleton_append,
      quotesAfter?_escaped k (Or.inr rfl)] at hcount
    rw [List.append_assoc, quotesAfter?_append hk, List.singleton_append,
      quotesAfter?_escaped k (Or.inl rfl)]
    have hthree : marksAtEnd (strip description).toList % 3 = 0 :=
      (Option.some.inj hcount).symm
    refine ⟨fun h => ?_, fun h => absurd (h.resolve_left hpositive) (not_not.2 hthree)⟩
    cases h

/-! ## Bodies of one line -/

theorem splitLines_eq_singleton_iff {cs : List Char} :
    splitLines cs = [cs] ↔ cs ≠ [] ∧ ∀ c ∈ cs, isLineBreak c = false := by
  constructor
  · intro h
    refine ⟨?_, not_break_of_mem_splitLines cs (by rw [h]; exact List.mem_singleton_self cs)⟩
    rintro rfl
    cases h
  · rintro ⟨hne, hcs⟩
    induction cs with
    | nil => exact absurd rfl hne
    | cons c cs ih =>
      rw [splitLines_other (hcs c List.mem_cons_self)]
      cases cs with
      | nil => rfl
      | cons d cs =>
        rw [ih (List.cons_ne_nil d cs) fun e he => hcs e (List.mem_cons_of_mem c he)]
        rfl

/-! ## Characters of a body -/

section

variable {c : Char} (hslash : c ≠ '\\') (hmark : c ≠ '"')
include hslash hmark

theorem mem_escaped_iff (cs : List Char) : c ∈ escaped cs ↔ c ∈ cs := by
  induction cs using escaped.induct with
  | case1 rest ih => simp [escaped, hslash, hmark, ih]
  | case2 rest ih => simp [escaped, hslash, ih]
  | case3 d rest hmarks hslashes ih =>
    rw [escaped.eq_3 d rest hmarks hslashes, List.mem_cons, List.mem_cons, ih]
  | case4 => rfl

/-- Other characters than backslashes and marks are those of the description. -/
theorem mem_body_iff (description : String) :
    c ∈ (body description).toList ↔ c ∈ (strip description).toList := by
  rw [← mem_escaped_iff hslash hmark (strip description).toList, body_eq, guardEnd,
    String.toList_ofList]
  split
  · rename_i hlast
    have htail : "\\\"".toList = ['\\', '"'] := by decide
    have hback : escaped (strip description).toList
        = (escaped (strip description).toList).dropLast ++ ['"'] :=
      (List.dropLast_append_getLast? _ (beq_iff_eq.1 hlast)).symm
    rw [String.toList_append, String.toList_ofList, htail, List.mem_append,
      or_iff_left (by simp [hslash, hmark])]
    conv_rhs => rw [hback, List.mem_append, or_iff_left (by simp [hmark])]
  · rw [String.toList_ofList]

end

theorem forall_not_break_body_iff (description : String) :
    (∀ c ∈ (body description).toList, isLineBreak c = false) ↔
      ∀ c ∈ (strip description).toList, isLineBreak c = false := by
  have hmem {c : Char} (hc : isLineBreak c = true) :
      c ∈ (body description).toList ↔ c ∈ (strip description).toList := by
    refine mem_body_iff ?_ ?_ description
    · rintro rfl
      cases hc
    · rintro rfl
      cases hc
  constructor <;> intro h c hc <;> rw [← Bool.not_eq_true] <;> intro hbreak
  · exact Bool.false_ne_true ((h c ((hmem hbreak).2 hc)).symm.trans hbreak)
  · exact Bool.false_ne_true ((h c ((hmem hbreak).1 hc)).symm.trans hbreak)

/-- A docstring is left open by a description of one line whose marks at the end make up whole
threes, and by no other. -/
theorem isClosed_eq_false_iff (description : String) : isClosed description = false ↔
    (∀ c ∈ (strip description).toList, isLineBreak c = false) ∧
      marksAtEnd (strip description).toList ≠ 0 ∧
      marksAtEnd (strip description).toList % 3 = 0 := by
  have hcount := quotesAfter?_body description
  rw [← forall_not_break_body_iff]
  constructor
  · intro h
    obtain ⟨line, hlines⟩ : ∃ line, lines (body description) = [line] := by
      rw [isClosed] at h
      generalize lines (body description) = many at h
      cases many with
      | nil => cases h
      | cons line more =>
        cases more with
        | nil => exact ⟨line, rfl⟩
        | cons _ _ => cases h
    obtain ⟨cs, hsplit, rfl⟩ := List.map_eq_singleton_iff.1 hlines
    have hcs : cs = (body description).toList :=
      (eq_of_splitLines_eq_singleton hsplit).resolve_right (not_break_getLastD_body description)
    rw [hcs] at hsplit
    rw [isClosed, hlines, areClosed, String.toList_ofList, hcs, beq_eq_false_iff_ne, ne_eq, hcount,
      not_or, not_not] at h
    exact ⟨(splitLines_eq_singleton_iff.1 hsplit).2, h⟩
  · rintro ⟨hbreaks, hmarks⟩
    have hbare : quotesAfter? 0 (body description).toList ≠ some 0 := by
      rw [ne_eq, hcount, not_or, not_not]
      exact hmarks
    have hne : (body description).toList ≠ [] := fun hnil => hbare (by rw [hnil]; rfl)
    have hlines : lines (body description) = [body description] := by
      rw [lines, splitLines_eq_singleton_iff.2 ⟨hne, hbreaks⟩, List.map_cons, List.map_nil,
        String.ofList_toList]
    rw [isClosed, hlines, areClosed]
    exact beq_eq_false_iff_ne.2 hbare

/-- The rows of a docstring are its lines at the margin, and the marks around them. -/
theorem cases_of_mem_rows {indent description row : String} (h : row ∈ rows indent description) :
    row = indent ++ tripleMark ∨ ∃ line ∈ lines (body description),
      row = indent ++ tripleMark ++ line ++ tripleMark ∨ row = stripRight (indent ++ line) := by
  unfold rows at h
  generalize lines (body description) = many at h ⊢
  match many, h with
  | [line], h => exact Or.inr ⟨line, List.mem_cons_self, Or.inl (List.mem_singleton.1 h)⟩
  | first :: second :: more, h =>
    rcases List.mem_append.1 h with h | h
    · rcases List.mem_cons.1 h with rfl | h
      · exact Or.inl rfl
      · obtain ⟨line, hline, rfl⟩ := List.mem_map.1 h
        exact Or.inr ⟨line, hline, Or.inr rfl⟩
    · exact Or.inl (List.mem_singleton.1 h)

end ControlSchema.Source.Docstring
