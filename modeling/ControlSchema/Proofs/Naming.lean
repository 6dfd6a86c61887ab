import ControlSchema.Proofs.Text.Ascii
import ControlSchema.Proofs.Text.Blank

/-!
# Spellings of names

A schema name is a letter followed by letters and digits, but for a line feed at
its end that the check does not look at. All spellings of a name without it are
ASCII words, and none that is written into source is a keyword: the constant's
name has no lower case letter, as every keyword has, and a member's name is
changed when it is a keyword.

In snake case, an underscore is only ever written in front of a letter: an upper
case letter, or what follows a digit and is none. So the pieces between the
underscores are words that begin with letters, except that the first of them
goes on with whatever was written before it; that is what the induction over the
characters keeps. Underscores and letter case are all that the spellings of a
name add to it, so what two names with one constant can differ in is letter case.
-/

namespace ControlSchema

open Text

namespace Naming

/-! ## Schema names -/

theorem isWordChar_of_isAlphanum {c : Char} (h : c.isAlphanum = true) : isWordChar c = true := by
  rw [isWordChar, h, Bool.true_or]

theorem isWordChar_of_isDigit {c : Char} (h : c.isDigit = true) : isWordChar c = true :=
  isWordChar_of_isAlphanum (by rw [Char.isAlphanum, h, Bool.or_true])

theorem not_isDigit_of_isAlpha {c : Char} (h : c.isAlpha = true) : c.isDigit = false := by
  have hall : ∀ n < 128, (Char.ofNat n).isAlpha = true → (Char.ofNat n).isDigit = false := by
    decide
  have hword : isWordChar c = true := isWordChar_of_isAlphanum (by rw [Char.isAlphanum, h,
    Bool.true_or])
  exact of_ascii (p := fun c => c.isAlpha = true → c.isDigit = false) hall
    (toNat_lt_of_isWordChar hword) h

theorem isPlainName_cons {cs : List Char} (h : isPlainName cs = true) :
    ∃ c rest, cs = c :: rest ∧ c.isAlpha = true ∧ ∀ d ∈ rest, d.isAlphanum = true := by
  cases cs with
  | nil => cases h
  | cons c rest =>
    rw [isPlainName, Bool.and_eq_true, List.all_eq_true] at h
    exact ⟨c, rest, rfl, h.1, h.2⟩

theorem isAlphanum_of_isPlainName {cs : List Char} (h : isPlainName cs = true) :
    ∀ c ∈ cs, c.isAlphanum = true := by
  obtain ⟨c, rest, rfl, hc, hrest⟩ := isPlainName_cons h
  intro d hd
  rcases List.mem_cons.1 hd with rfl | hd
  · rw [Char.isAlphanum, hc, Bool.true_or]
  · exact hrest d hd

theorem isAsciiName_of_isPlainName {cs : List Char} (h : isPlainName cs = true) :
    isAsciiName cs = true := by
  obtain ⟨c, rest, rfl, hc, hrest⟩ := isPlainName_cons h
  simp only [isAsciiName, Bool.and_eq_true, Bool.not_eq_true', List.all_eq_true]
  refine ⟨⟨isWordChar_of_isAlphanum ?_, not_isDigit_of_isAlpha hc⟩, fun d hd =>
    isWordChar_of_isAlphanum (hrest d hd)⟩
  rw [Char.isAlphanum, hc, Bool.true_or]

/-- A schema name is plain, or plain with a line feed behind it. -/
theorem isSchemaName_cases {s : String} (h : isSchemaName s = true) :
    isPlainName s.toList = true ∨ ∃ w, s.toList = w ++ ['\n'] ∧ isPlainName w = true := by
  rw [isSchemaName, Bool.or_eq_true, withoutFinalBreak] at h
  rcases h with h | h
  · exact Or.inl h
  · split at h
    · rename_i hlast
      refine Or.inr ⟨s.toList.dropLast, ?_, h⟩
      have hmem : '\n' ∈ s.toList.getLast? := beq_iff_eq.1 hlast
      exact (List.dropLast_append_getLast? _ hmem).symm
    · exact Or.inl h

theorem isSchemaName_chars {s : String} (h : isSchemaName s = true) :
    ∀ c ∈ s.toList, isWordChar c = true ∨ c = '\n' := by
  intro c hc
  rcases isSchemaName_cases h with hplain | ⟨w, hw, hplain⟩
  · exact Or.inl (isWordChar_of_isAlphanum (isAlphanum_of_isPlainName hplain c hc))
  · rw [hw] at hc
    rcases List.mem_append.1 hc with hc | hc
    · exact Or.inl (isWordChar_of_isAlphanum (isAlphanum_of_isPlainName hplain c hc))
    · exact Or.inr (List.mem_singleton.1 hc)

/-! ## Constants -/

/-- A character of a word in lower case, and in upper case. -/
theorem caseFacts {c : Char} (h : isWordChar c = true) :
    (∃ d, lowerChar c = [d] ∧ isWordChar d = true ∧ (c.isAlpha = true → d.isAlpha = true)) ∧
      ∃ d, upperChar c = [d] ∧ isWordChar d = true ∧ d.isLower = false ∧
        (c.isAlpha = true → d.isAlpha = true) := by
  have hlt := toNat_lt_of_isWordChar h
  have hall : ∀ n < 128, isWordChar (Char.ofNat n) = true →
      (isWordChar (Char.ofNat n).toLower = true ∧
        ((Char.ofNat n).isAlpha = true → (Char.ofNat n).toLower.isAlpha = true)) ∧
      isWordChar (Char.ofNat n).toUpper = true ∧ (Char.ofNat n).toUpper.isLower = false ∧
        ((Char.ofNat n).isAlpha = true → (Char.ofNat n).toUpper.isAlpha = true) := by
    decide
  have := of_ascii (p := fun c => isWordChar c = true →
      (isWordChar c.toLower = true ∧ (c.isAlpha = true → c.toLower.isAlpha = true)) ∧
      isWordChar c.toUpper = true ∧ c.toUpper.isLower = false ∧
        (c.isAlpha = true → c.toUpper.isAlpha = true)) hall hlt h
  obtain ⟨⟨h1, h2⟩, h3, h4, h5⟩ := this
  refine ⟨⟨c.toLower, ?_, h1, h2⟩, c.toUpper, ?_, h3, h4, h5⟩
  · rw [lowerChar, if_pos hlt]
  · rw [upperChar, if_pos hlt]

theorem mem_snakeAfter {previous : Option Char} {cs : List Char} {c : Char}
    (hc : c ∈ snakeAfter previous cs) : c = '_' ∨ ∃ d ∈ cs, c ∈ lowerChar d := by
  induction cs generalizing previous with
  | nil => cases hc
  | cons d rest ih =>
    have hword (hc : c ∈ lowerChar d ++ snakeAfter (some d) rest) :
        c = '_' ∨ ∃ e ∈ d :: rest, c ∈ lowerChar e := by
      rcases List.mem_append.1 hc with hc | hc
      · exact Or.inr ⟨d, List.mem_cons_self, hc⟩
      · exact (ih hc).imp_right fun ⟨e, he, hc⟩ => ⟨e, List.mem_cons_of_mem d he, hc⟩
    rw [snakeAfter] at hc
    split at hc
    · exact (List.mem_cons.1 hc).elim Or.inl hword
    · exact hword hc

theorem isWordChar_of_mem_snakeAfter {previous : Option Char} {cs : List Char}
    (h : ∀ c ∈ cs, isWordChar c = true) : ∀ c ∈ snakeAfter previous cs, isWordChar c = true := by
  intro c hc
  rcases mem_snakeAfter hc with rfl | ⟨d, hd, hc⟩
  · rfl
  · obtain ⟨e, he, hword, -⟩ := (caseFacts (h d hd)).1
    rw [he] at hc
    obtain rfl := List.mem_singleton.1 hc
    exact hword

theorem upper_word {cs : List Char} (h : ∀ c ∈ cs, isWordChar c = true) :
    ∀ c ∈ cs.flatMap upperChar, isWordChar c = true ∧ c.isLower = false := by
  intro c hc
  obtain ⟨d, hd, hc⟩ := List.mem_flatMap.1 hc
  obtain ⟨e, he, hword, hlower, -⟩ := (caseFacts (h d hd)).2
  rw [he] at hc
  obtain rfl := List.mem_singleton.1 hc
  exact ⟨hword, hlower⟩

theorem toList_linkageName (name : String) :
    (linkageName name).toList = (snakeAfter none name.toList).flatMap upperChar := by
  rw [linkageName, upper, String.toList_ofList, snakeCase, String.toList_ofList]

theorem linkageName_ofList (cs : List Char) :
    linkageName (String.ofList cs) = String.ofList ((snakeAfter none cs).flatMap upperChar) := by
  rw [← String.toList_inj, toList_linkageName, String.toList_ofList, String.toList_ofList]

/-- The line feed behind a name stays what it is. -/
theorem snakeCase_chars {name : String} (h : isSchemaName name = true) :
    ∀ c ∈ (snakeCase name).toList, isWordChar c = true ∨ c = '\n' := by
  rw [snakeCase, String.toList_ofList]
  intro c hc
  rcases mem_snakeAfter hc with rfl | ⟨d, hd, hc⟩
  · exact Or.inl rfl
  · rcases isSchemaName_chars h d hd with hword | rfl
    · obtain ⟨e, he, hword, -⟩ := (caseFacts hword).1
      rw [he] at hc
      exact Or.inl (List.mem_singleton.1 hc ▸ hword)
    · exact Or.inr (List.mem_singleton.1 hc)

theorem linkageName_chars_of_isSchemaName {name : String} (h : isSchemaName name = true) :
    ∀ c ∈ (linkageName name).toList, isWordChar c = true ∨ c = '\n' := by
  rw [linkageName, upper, String.toList_ofList]
  intro c hc
  obtain ⟨d, hd, hc⟩ := List.mem_flatMap.1 hc
  rcases snakeCase_chars h d hd with hword | rfl
  · obtain ⟨e, he, hword, -⟩ := (caseFacts hword).2
    rw [he] at hc
    exact Or.inl (List.mem_singleton.1 hc ▸ hword)
  · exact Or.inr (List.mem_singleton.1 hc)

theorem snakeAfter_first (c : Char) (rest : List Char) :
    snakeAfter none (c :: rest) = lowerChar c ++ snakeAfter (some c) rest := by
  rw [snakeAfter, Option.any_none, if_neg Bool.false_ne_true]

theorem isAsciiName_linkageName {name : String} (h : isPlainName name.toList = true) :
    isAsciiName (linkageName name).toList = true := by
  have hword := fun c hc => isWordChar_of_isAlphanum (isAlphanum_of_isPlainName h c hc)
  have hall := upper_word (@isWordChar_of_mem_snakeAfter none name.toList hword)
  rw [toList_linkageName]
  generalize name.toList = cs at h hword hall
  obtain ⟨c, rest, rfl, hc, -⟩ := isPlainName_cons h
  obtain ⟨d, hd, hdword, hdalpha⟩ := (caseFacts (hword c List.mem_cons_self)).1
  obtain ⟨e, he, heword, -, healpha⟩ := (caseFacts hdword).2
  have hcons : (snakeAfter none (c :: rest)).flatMap upperChar
      = e :: (snakeAfter (some c) rest).flatMap upperChar := by
    rw [snakeAfter_first, hd, List.singleton_append, List.flatMap_cons, he, List.singleton_append]
  rw [hcons] at hall ⊢
  have hdigit := not_isDigit_of_isAlpha (healpha (hdalpha hc))
  rw [isAsciiName, heword, hdigit, Bool.true_and, Bool.not_false, Bool.true_and, List.all_eq_true]
  exact fun f hf => (hall f (List.mem_cons_of_mem e hf)).1

theorem isKeyword_linkageName {name : String} (h : isPlainName name.toList = true) :
    isKeyword (linkageName name) = false := by
  have hword := fun c hc => isWordChar_of_isAlphanum (isAlphanum_of_isPlainName h c hc)
  have hall := upper_word (@isWordChar_of_mem_snakeAfter none name.toList hword)
  have hkeywords : ∀ w ∈ keywords, w.toList.any Char.isLower = true := by decide
  rw [← toList_linkageName] at hall
  generalize linkageName name = w at hall
  rw [← Bool.not_eq_true, isKeyword, List.contains_iff_mem]
  intro hkeyword
  obtain ⟨c, hc, hlower⟩ := List.any_eq_true.1 (hkeywords w hkeyword)
  rw [(hall c hc).2] at hlower
  cases hlower

/-! ## Members -/

theorem isAsciiName_of_isIdentifier {s : String} (hident : isIdentifier s = true)
    (hchars : ∀ c ∈ s.toList, isWordChar c = true ∨ c = '\n') : isAsciiName s.toList = true := by
  have hstart : ∀ n < 128, isNameStart (Char.ofNat n) = true →
      (Char.ofNat n).isDigit = false := by decide
  have hword : ∀ c, isNameRest c = true → isWordChar c = true ∨ c = '\n' → isWordChar c = true := by
    intro c hc h
    rcases h with h | rfl
    · exact h
    · cases hc
  rw [isIdentifier] at hident
  cases hs : s.toList with
  | nil =>
    rw [hs] at hident
    cases hident
  | cons c rest =>
    rw [hs] at hident hchars
    simp only [Bool.and_eq_true, List.all_eq_true] at hident
    have hc : isWordChar c = true := by
      rcases hchars c List.mem_cons_self with h | rfl
      · exact h
      · cases hident.1
    have hdigit := of_ascii (p := fun c => isNameStart c = true → c.isDigit = false) hstart
      (toNat_lt_of_isWordChar hc) hident.1
    simp only [isAsciiName, Bool.and_eq_true, Bool.not_eq_true', List.all_eq_true]
    exact ⟨⟨hc, hdigit⟩, fun d hd =>
      hword d (hident.2 d hd) (hchars d (List.mem_cons_of_mem c hd))⟩

/-- A schema name has no underscore in it. -/
theorem not_underscore_of_isSchemaName {s : String} (h : isSchemaName s = true) :
    '_' ∉ s.toList := by
  rcases isSchemaName_cases h with hplain | ⟨w, hw, hplain⟩
  · intro hmem
    cases isAlphanum_of_isPlainName hplain _ hmem
  · rw [hw, List.mem_append, List.mem_singleton]
    rintro (hmem | hmem)
    · cases isAlphanum_of_isPlainName hplain _ hmem
    · cases hmem

/-- A member is named by a part of its enumerator that is an identifier, as far as that is no
keyword. -/
theorem exists_of_variantName {enumerator control name : String}
    (h : variantName enumerator control = .ok name) : ∃ w : String, name = escapeKeyword w ∧
      isIdentifier w = true ∧ ∀ c ∈ w.toList, c ∈ enumerator.toList := by
  have hshort : ∀ c ∈ (withoutOwner enumerator control).toList, c ∈ enumerator.toList := by
    intro c hc
    rw [withoutOwner] at hc
    split at hc
    · rw [String.toList_ofList] at hc
      exact List.mem_of_mem_drop hc
    · exact hc
  have hcandidate : ∃ w : String, (∀ c ∈ w.toList, c ∈ enumerator.toList) ∧
      (if isIdentifier w then Except.ok (escapeKeyword w)
        else Except.error (NamingError.notIdentifier enumerator control)) = Except.ok name := by
    rw [variantName] at h
    by_cases hfull : (isIdentifier (withoutOwner enumerator control) &&
        !startsWithUnderscore (withoutOwner enumerator control)) = true
    · simp only [hfull, if_true] at h
      exact ⟨_, hshort, h⟩
    · simp only [hfull] at h
      exact ⟨_, fun _ hc => hc, h⟩
  obtain ⟨w, hw, hname⟩ := hcandidate
  by_cases hident : isIdentifier w = true
  · rw [if_pos hident] at hname
    cases hname
    exact ⟨w, rfl, hident, hw⟩
  · rw [if_neg hident] at hname
    cases hname

/-- What holds of a word, and with an underscore behind it if it is a keyword, holds of the word
with keywords escaped. -/
theorem escapeKeyword_of_append {P : String → Prop} {w : String}
    (happend : w ∈ keywords → P (w ++ "_")) (hw : P w) : P (escapeKeyword w) := by
  rw [escapeKeyword]
  split
  · next hkeyword => exact happend (List.contains_iff_mem.1 hkeyword)
  · exact hw

theorem isIdentifier_append_underscore {w : String} (h : isIdentifier w = true) :
    isIdentifier (w ++ "_") = true := by
  have hunderscore : "_".toList = ['_'] ∧ isNameRest '_' = true := by decide
  rw [isIdentifier] at h ⊢
  rw [String.toList_append, hunderscore.1]
  cases hw : w.toList with
  | nil =>
    rw [hw] at h
    cases h
  | cons c rest =>
    rw [hw] at h
    simpa [hunderscore.2] using h

theorem isKeyword_escapeKeyword (w : String) : isKeyword (escapeKeyword w) = false := by
  have hall : ∀ w ∈ keywords, isKeyword (w ++ "_") = false := by decide
  rw [escapeKeyword]
  split
  · next hkeyword => exact hall w (List.contains_iff_mem.1 hkeyword)
  · next hkeyword => exact Bool.eq_false_iff.2 hkeyword

theorem variantName_facts {enumerator control name : String}
    (henumerator : isSchemaName enumerator = true)
    (h : variantName enumerator control = .ok name) :
    isAsciiName name.toList = true ∧ isKeyword name = false := by
  obtain ⟨w, rfl, hident, hw⟩ := exists_of_variantName h
  have hascii : isAsciiName w.toList = true := isAsciiName_of_isIdentifier hident fun c hc =>
    isSchemaName_chars henumerator c (hw c hc)
  have hkeywords : ∀ w ∈ keywords, isAsciiName (w ++ "_").toList = true := by decide
  exact ⟨escapeKeyword_of_append (P := fun w => isAsciiName w.toList = true) (hkeywords w) hascii,
    isKeyword_escapeKeyword w⟩

/-- A name that a member can have without further ado. -/
structure IsMemberName (name : String) : Prop where
  identifier : isIdentifier name = true
  not_keyword : isKeyword name = false
  not_underscored : startsWithUnderscore name = false

theorem isMemberName_of_variantName {enumerator control name : String}
    (henumerator : isSchemaName enumerator = true)
    (h : variantName enumerator control = .ok name) : IsMemberName name := by
  obtain ⟨w, rfl, hident, hw⟩ := exists_of_variantName h
  have hstart : startsWithUnderscore w = false := by
    rw [startsWithUnderscore, beq_eq_false_iff_ne]
    intro hhead
    exact not_underscore_of_isSchemaName henumerator (hw _ (List.mem_of_head? hhead))
  have hkeywords : ∀ w ∈ keywords, startsWithUnderscore (w ++ "_") = false := by decide
  exact ⟨escapeKeyword_of_append (P := fun w => isIdentifier w = true)
      (fun _ => isIdentifier_append_underscore hident) hident,
    isKeyword_escapeKeyword w,
    escapeKeyword_of_append (P := fun w => startsWithUnderscore w = false) (hkeywords w) hstart⟩

/-! ## Features -/

theorem mem_splitOn {separator : Char} {cs : List Char} {c : Char} (hc : c ∈ cs) :
    c = separator ∨ ∃ piece ∈ splitOn separator cs, c ∈ piece := by
  induction cs with
  | nil => cases hc
  | cons d rest ih =>
    rw [splitOn]
    by_cases hd : (d == separator) = true
    · rw [if_pos hd]
      rcases List.mem_cons.1 hc with rfl | hc
      · exact Or.inl (beq_iff_eq.1 hd)
      · rcases ih hc with h | ⟨piece, hpiece, hmem⟩
        · exact Or.inl h
        · exact Or.inr ⟨piece, List.mem_cons_of_mem _ hpiece, hmem⟩
    · rw [if_neg hd]
      rcases List.mem_cons.1 hc with rfl | hc
      · refine Or.inr ?_
        split
        · exact ⟨[c], List.mem_cons_self, List.mem_cons_self⟩
        · rename_i piece pieces _
          exact ⟨c :: piece, List.mem_cons_self, List.mem_cons_self⟩
      · rcases ih hc with h | ⟨piece, hpiece, hmem⟩
        · exact Or.inl h
        · refine Or.inr ?_
          split
          · rename_i hnone
            rw [hnone] at hpiece
            cases hpiece
          · rename_i first pieces hsome
            rw [hsome] at hpiece
            rcases List.mem_cons.1 hpiece with rfl | hpiece
            · exact ⟨d :: piece, List.mem_cons_self, List.mem_cons_of_mem d hmem⟩
            · exact ⟨piece, List.mem_cons_of_mem _ hpiece, hmem⟩

theorem isPlainSnake_chars {cs : List Char} (h : isPlainSnake cs = true) :
    ∀ c ∈ cs, isWordChar c = true := by
  intro c hc
  rcases @mem_splitOn '_' cs c hc with rfl | ⟨piece, hpiece, hmem⟩
  · rfl
  · have hword := List.all_eq_true.1 h piece hpiece
    rw [isSnakeWord, Bool.and_eq_true, List.all_eq_true] at hword
    have hchar := hword.2 c hmem
    refine isWordChar_of_isAlphanum ?_
    rw [Bool.or_eq_true] at hchar
    rcases hchar with h | h
    · rw [Char.isAlphanum, h, Bool.or_true]
    · have halpha : c.isAlpha = true := (Bool.or_eq_true _ _).mpr (Or.inr h)
      rw [Char.isAlphanum, halpha, Bool.true_or]

/-! ## Characters of snake case -/

/-- What the words of snake case are made of. -/
def isSnakeChar (c : Char) : Bool := c.isDigit || c.isLower

theorem isWordChar_of_isSnakeChar {c : Char} (h : isSnakeChar c = true) : isWordChar c = true := by
  rcases (Bool.or_eq_true _ _).mp h with h | h
  · exact isWordChar_of_isDigit h
  · have halpha : c.isAlpha = true := (Bool.or_eq_true _ _).mpr (Or.inr h)
    exact isWordChar_of_isAlphanum (by rw [Char.isAlphanum, halpha, Bool.true_or])

theorem ne_underscore_of_isSnakeChar {c : Char} (h : isSnakeChar c = true) : c ≠ '_' := by
  rintro rfl
  cases h

/-- A letter or digit in lower case is one character, and a letter stays a letter. -/
theorem lowerChar_of_isAlphanum {c : Char} (h : c.isAlphanum = true) :
    ∃ d, lowerChar c = [d] ∧ isSnakeChar d = true ∧ (c.isDigit = false → d.isLower = true) := by
  have hlt := toNat_lt_of_isWordChar (isWordChar_of_isAlphanum h)
  have hall : ∀ n < 128, (Char.ofNat n).isAlphanum = true →
      isSnakeChar (Char.ofNat n).toLower = true ∧
        ((Char.ofNat n).isDigit = false → (Char.ofNat n).toLower.isLower = true) := by
    decide
  have hlower := of_ascii (p := fun c => c.isAlphanum = true → isSnakeChar c.toLower = true ∧
    (c.isDigit = false → c.toLower.isLower = true)) hall hlt h
  exact ⟨c.toLower, if_pos hlt, hlower⟩

/-- Letters of lower case, digits and underscores come back from upper case. -/
theorem flatMap_lowerChar_upperChar {c : Char} (h : c = '_' ∨ isSnakeChar c = true) :
    (upperChar c).flatMap lowerChar = [c] := by
  rcases h with rfl | h
  · rfl
  · have hall : ∀ n < 128, isSnakeChar (Char.ofNat n) = true →
        (upperChar (Char.ofNat n)).flatMap lowerChar = [Char.ofNat n] := by
      decide
    exact of_ascii (p := fun c => isSnakeChar c = true → (upperChar c).flatMap lowerChar = [c])
      hall (toNat_lt_of_isWordChar (isWordChar_of_isSnakeChar h)) h

/-- No word begins at a digit. -/
theorem not_isDigit_of_startsWord {previous current : Char} {next : Option Char}
    (hc : current.isAlphanum = true) (h : startsWord previous current next = true) :
    current.isDigit = false := by
  have hall : ∀ n < 128, (isUpper (Char.ofNat n) || !isDigit (Char.ofNat n)) = true →
      (Char.ofNat n).isDigit = false := by
    decide
  refine of_ascii (p := fun c => (isUpper c || !isDigit c) = true → c.isDigit = false) hall
    (toNat_lt_of_isWordChar (isWordChar_of_isAlphanum hc)) ?_
  simp only [startsWord, Bool.or_eq_true, Bool.and_eq_true] at h ⊢
  rcases h with (⟨h, -⟩ | ⟨h, -⟩) | ⟨h, -⟩
  · exact .inl h
  · exact .inl h
  · exact .inr h

/-! ## Words of snake case -/

/-- Letters of lower case and digits, a letter first. -/
structure IsWord (word : List Char) : Prop where
  initial : ∃ c rest, word = c :: rest ∧ c.isLower = true
  chars : ∀ c ∈ word, isSnakeChar c = true

theorem IsWord.isSnakeWord {word : List Char} (h : IsWord word) : isSnakeWord word = true := by
  obtain ⟨c, rest, rfl, -⟩ := h.initial
  rw [Naming.isSnakeWord, List.isEmpty_cons, Bool.not_false, Bool.true_and]
  exact List.all_eq_true.2 h.chars

theorem splitOn_cons_of_isSnakeChar {c : Char} (hc : isSnakeChar c = true) {cs first : List Char}
    {more : List (List Char)} (h : splitOn '_' cs = first :: more) :
    splitOn '_' (c :: cs) = (c :: first) :: more := by
  rw [splitOn, if_neg (mt beq_iff_eq.1 (ne_underscore_of_isSnakeChar hc)), h]

section

variable {cs : List Char} (hcs : ∀ c ∈ cs, c.isAlphanum = true)
include hcs

/-- The first piece goes on with what was written before; every other piece is a word. -/
theorem splitOn_snakeAfter (previous : Option Char) : ∃ first more,
    splitOn '_' (snakeAfter previous cs) = first :: more ∧
      (∀ c ∈ first, isSnakeChar c = true) ∧ ∀ word ∈ more, IsWord word := by
  induction cs generalizing previous with
  | nil => exact ⟨[], [], rfl, nofun, nofun⟩
  | cons c rest ih =>
    obtain ⟨hc, hrest⟩ := List.forall_mem_cons.1 hcs
    obtain ⟨d, hd, hsnake, hletter⟩ := lowerChar_of_isAlphanum hc
    obtain ⟨first, more, hsplit, hfirst, hmore⟩ := ih hrest (some c)
    have hgrown := splitOn_cons_of_isSnakeChar hsnake hsplit
    have hchars : ∀ e ∈ d :: first, isSnakeChar e = true := List.forall_mem_cons.2 ⟨hsnake, hfirst⟩
    rw [snakeAfter, hd, List.singleton_append]
    split
    · next hstarts =>
      obtain ⟨p, -, hp⟩ := (Option.any_eq_true _ _).1 hstarts
      have hword : IsWord (d :: first) :=
        ⟨⟨d, first, rfl, hletter (not_isDigit_of_startsWord hc hp)⟩, hchars⟩
      refine ⟨[], (d :: first) :: more, ?_, nofun, List.forall_mem_cons.2 ⟨hword, hmore⟩⟩
      rw [splitOn, if_pos (beq_self_eq_true '_'), hgrown]
    · exact ⟨d :: first, more, hgrown, hchars, hmore⟩

theorem filter_snakeAfter (previous : Option Char) :
    (snakeAfter previous cs).filter (· != '_') = cs.flatMap lowerChar := by
  induction cs generalizing previous with
  | nil => rfl
  | cons c rest ih =>
    obtain ⟨hc, hrest⟩ := List.forall_mem_cons.1 hcs
    obtain ⟨d, hd, hsnake, -⟩ := lowerChar_of_isAlphanum hc
    have hkept : (d != '_') = true := bne_iff_ne.2 (ne_underscore_of_isSnakeChar hsnake)
    have hword : (lowerChar c ++ snakeAfter (some c) rest).filter (· != '_')
        = (c :: rest).flatMap lowerChar := by
      rw [List.flatMap_cons, hd, List.singleton_append, List.filter_cons, if_pos hkept,
        ih hrest (some c), List.singleton_append]
    rw [snakeAfter]
    split
    · rw [List.filter_cons, if_neg (by decide), hword]
    · exact hword

end

/-! ## Spellings of a name -/

section

variable {name : String} (hname : isPlainName name.toList = true)
include hname

theorem isWord_of_mem_snakeCase : ∀ word ∈ splitOn '_' (snakeCase name).toList, IsWord word := by
  have halphanum := isAlphanum_of_isPlainName hname
  rw [snakeCase, String.toList_ofList]
  generalize name.toList = cs at hname halphanum
  obtain ⟨c, rest, rfl, hc, -⟩ := isPlainName_cons hname
  obtain ⟨hfirst, hrest⟩ := List.forall_mem_cons.1 halphanum
  obtain ⟨d, hd, hsnake, hletter⟩ := lowerChar_of_isAlphanum hfirst
  obtain ⟨first, more, hsplit, hchars, hmore⟩ := splitOn_snakeAfter hrest (some c)
  rw [snakeAfter_first, hd, List.singleton_append, splitOn_cons_of_isSnakeChar hsnake hsplit]
  refine List.forall_mem_cons.2 ⟨⟨⟨d, first, rfl, hletter (not_isDigit_of_isAlpha hc)⟩, ?_⟩, hmore⟩
  exact List.forall_mem_cons.2 ⟨hsnake, hchars⟩

theorem isPlainSnake_snakeCase : isPlainSnake (snakeCase name).toList = true :=
  List.all_eq_true.2 fun word hword => (isWord_of_mem_snakeCase hname word hword).isSnakeWord

theorem filter_snakeCase : (snakeCase name).toList.filter (· != '_') = (lower name).toList := by
  rw [snakeCase, String.toList_ofList, filter_snakeAfter (isAlphanum_of_isPlainName hname), lower,
    String.toList_ofList]

theorem lower_linkageName : lower (linkageName name) = snakeCase name := by
  have hchars : ∀ c ∈ (snakeCase name).toList, c = '_' ∨ isSnakeChar c = true := by
    intro c hc
    refine (mem_splitOn hc).imp_right ?_
    rintro ⟨word, hword, hmem⟩
    exact (isWord_of_mem_snakeCase hname word hword).chars c hmem
  have hback : (snakeCase name).toList.flatMap (fun c => (upperChar c).flatMap lowerChar)
      = (snakeCase name).toList := by
    rw [List.flatMap_congr fun c hc => flatMap_lowerChar_upperChar (hchars c hc),
      List.flatMap_singleton']
  rw [linkageName, lower, upper, String.toList_ofList, List.flatMap_assoc, hback,
    String.ofList_toList]

/-- The snake case of a name is words that each begin with a letter, and is the name itself in lower
case but for the underscores between them; the constant's name is its upper case. Names with one
constant are the same name in lower case. -/
theorem snakeCase_spells :
    isLowerSnake (snakeCase name) = true ∧
    (∀ word ∈ splitOn '_' (snakeCase name).toList, ∃ c rest, word = c :: rest ∧ c.isAlpha = true) ∧
    (snakeCase name).toList.filter (· != '_') = (lower name).toList ∧
    lower (linkageName name) = snakeCase name ∧
    ∀ other, isPlainName other.toList = true → linkageName name = linkageName other →
      lower name = lower other := by
  refine ⟨?_, fun word hword => ?_, filter_snakeCase hname, lower_linkageName hname,
    fun other hother heq => ?_⟩
  · rw [isLowerSnake, isPlainSnake_snakeCase hname, Bool.true_or]
  · obtain ⟨c, rest, rfl, hc⟩ := (isWord_of_mem_snakeCase hname word hword).initial
    exact ⟨c, rest, rfl, (Bool.or_eq_true _ _).mpr (Or.inr hc)⟩
  · have hsnake : snakeCase name = snakeCase other := by
      rw [← lower_linkageName hname, heq, lower_linkageName hother]
    rw [← String.toList_inj, ← filter_snakeCase hname, hsnake, filter_snakeCase hother]

end

/-- Two names with one constant; their words are divided behind digits and in front of a capital. -/
theorem snakeCase_spells_capitals :
    isPlainName "Hdr10AEMode".toList = true ∧ isPlainName "HDR10AeMode".toList = true ∧
    linkageName "Hdr10AEMode" = linkageName "HDR10AeMode" ∧
    snakeCase "Hdr10AEMode" = "hdr10_ae_mode" ∧ isLowerSnake "hdr10_ae_mode" = true ∧
    lower (linkageName "Hdr10AEMode") = "hdr10_ae_mode" ∧
    lower "Hdr10AEMode" = lower "HDR10AeMode" := by
  have hname : isPlainName "Hdr10AEMode".toList = true := by decide +kernel
  have hother : isPlainName "HDR10AeMode".toList = true := by decide +kernel
  have hlinkage : linkageName "Hdr10AEMode" = linkageName "HDR10AeMode" := by decide +kernel
  have hsnake : snakeCase "Hdr10AEMode" = "hdr10_ae_mode" := by decide +kernel
  obtain ⟨haccepted, -, -, hlower, hcase⟩ := snakeCase_spells hname
  rw [hsnake] at haccepted hlower
  exact ⟨hname, hother, hlinkage, hsnake, haccepted, hlower, hcase _ hother hlinkage⟩

end Naming

end ControlSchema
