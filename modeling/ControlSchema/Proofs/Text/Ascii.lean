import ControlSchema.Naming
import ControlSchema.Source.Lexeme

/-!
# ASCII words

Names in generated source are made of ASCII letters, digits and underscores.
Every character class of the library decides on such characters by a rule and
not by a table, so what is asked of them here is settled by going through the
first 128 characters once. Texts that are known in full are taken as lists of
characters before anything is asked of them.
-/

namespace ControlSchema.Text

/-! ## Literals -/

/-- Every character of a literal is as it should be. -/
theorem forall_mem_literal {p : Char → Bool} {s : String} {cs : List Char}
    (hs : s = String.ofList cs) (h : cs.all p = true) : ∀ c ∈ s.toList, p c = true := by
  rw [hs, String.toList_ofList]
  exact List.all_eq_true.1 h

theorem not_mem_literal {c : Char} {s : String} {cs : List Char} (hs : s = String.ofList cs)
    (h : c ∉ cs) : c ∉ s.toList := by
  rw [hs, String.toList_ofList]
  exact h

theorem not_mem_of_all {p : Char → Bool} {cs : List Char} (h : cs.all (fun c => !p c) = true)
    {c : Char} (hc : p c = true) : c ∉ cs := by
  intro hmem
  have hnot := List.all_eq_true.1 h c hmem
  rw [hc] at hnot
  cases hnot

/-- Texts of a table are told apart by their characters. -/
theorem toList_mem_of_eq_map {table : List String} {chars : List (List Char)}
    (h : table = chars.map String.ofList) {s : String} (hs : s ∈ table) : s.toList ∈ chars := by
  rw [h] at hs
  obtain ⟨cs, hcs, rfl⟩ := List.mem_map.1 hs
  rwa [String.toList_ofList]

theorem mem_of_toList_mem {table : List String} {chars : List (List Char)}
    (h : table = chars.map String.ofList) {s : String} (hs : s.toList ∈ chars) : s ∈ table := by
  rw [h]
  exact List.mem_map.2 ⟨_, hs, String.ofList_toList⟩

/-! ## Characters of words -/

theorem of_ascii {p : Char → Prop} (h : ∀ n < 128, p (Char.ofNat n)) {c : Char}
    (hc : c.toNat < 128) : p c := by
  have := h c.toNat hc
  rwa [Char.ofNat_toNat] at this

/-- ASCII letters, digits and the underscore. -/
def isWordChar (c : Char) : Bool := c.isAlphanum || c == '_'

/-- A word of such characters that does not begin with a digit. -/
def isAsciiName (cs : List Char) : Bool :=
  match cs with
  | [] => false
  | c :: rest => isWordChar c && !c.isDigit && rest.all isWordChar

theorem toNat_lt_of_isWordChar {c : Char} (h : isWordChar c) : c.toNat < 128 := by
  delta isWordChar Char.isAlphanum Char.isAlpha Char.isUpper Char.isLower Char.isDigit at h
  simp only [Bool.or_eq_true, Bool.and_eq_true, decide_eq_true_eq, beq_iff_eq,
    UInt32.le_iff_toNat_le, ge_iff_le] at h
  rcases h with ((⟨_, h⟩ | ⟨_, h⟩) | ⟨_, h⟩) | rfl
  · exact Nat.lt_of_le_of_lt h (by decide)
  · exact Nat.lt_of_le_of_lt h (by decide)
  · exact Nat.lt_of_le_of_lt h (by decide)
  · decide

/-- What a character of a word is, and what it is not. -/
structure WordCharFacts (c : Char) : Prop where
  nameRest : isNameRest c = true
  nameStart : c.isDigit = false → isNameStart c = true
  not_mark : Source.Literal.isMark c = false
  not_space : Source.Lexeme.isSpace c = false
  not_blank : isBlank c = false
  not_break : isLineBreak c = false
  not_hash : c ≠ '#'
  not_backslash : c ≠ '\\'

theorem isWordChar_facts {c : Char} (h : isWordChar c) : WordCharFacts c := by
  have hall : ∀ n < 128, isWordChar (Char.ofNat n) = true →
      isNameRest (Char.ofNat n) = true ∧
      ((Char.ofNat n).isDigit = false → isNameStart (Char.ofNat n) = true) ∧
      Source.Literal.isMark (Char.ofNat n) = false ∧
      Source.Lexeme.isSpace (Char.ofNat n) = false ∧
      isBlank (Char.ofNat n) = false ∧ isLineBreak (Char.ofNat n) = false ∧
      Char.ofNat n ≠ '#' ∧ Char.ofNat n ≠ '\\' := by decide
  have := of_ascii (p := fun c => isWordChar c = true → isNameRest c = true ∧
      (c.isDigit = false → isNameStart c = true) ∧ Source.Literal.isMark c = false ∧
      Source.Lexeme.isSpace c = false ∧ isBlank c = false ∧ isLineBreak c = false ∧
      c ≠ '#' ∧ c ≠ '\\') hall (toNat_lt_of_isWordChar h) h
  obtain ⟨h1, h2, h3, h4, h5, h6, h7, h8⟩ := this
  exact ⟨h1, h2, h3, h4, h5, h6, h7, h8⟩

end ControlSchema.Text
