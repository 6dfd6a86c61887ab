import ControlSchema.Proofs.Version.Precedence
import ControlSchema.Proofs.Version.RoundTrip
import Mathlib.Data.Prod.Lex

/-!
# Precedence by the standard

The standard of semantic versions tells precedence case by case. The numbers decide first, from the
left; a pre-release precedes its release; two pre-releases are compared identifier by identifier up
to the first difference, numbers by value, numbers before words, words by their characters; and a
list of identifiers precedes its extensions. For versions that are read from texts this is the order
that versions are compared and sorted by. It leaves versions level that differ in leading zeros, but
being level is an equivalence.

Comparing fails for a version whose identifiers have a number that is too long to be read, although
such a version is read from a text. So the order is there on versions without such numbers, and
there only.
-/

namespace ControlSchema

open Text

namespace Version

/-! ## The standard -/

/-- The numbers of a version, compared from the left. -/
def numbers (v : Version) : ℕ ×ₗ ℕ ×ₗ ℕ := toLex (v.major, toLex (v.minor, v.patch))

/-- An identifier that is compared as a number: digits only. -/
def IsNumeric (identifier : String) : Prop :=
  identifier ≠ "" ∧ ∀ c ∈ identifier.toList, c.isDigit = true

instance : DecidablePred IsNumeric := fun identifier =>
  inferInstanceAs (Decidable (identifier ≠ "" ∧ ∀ c ∈ identifier.toList, c.isDigit = true))

/-- The number that an identifier of digits stands for. -/
def identifierValue (identifier : String) : Nat := Number.natOfChars identifier.toList

/-- An identifier is below another one. -/
inductive IdentifierBelow (s t : String) : Prop
  | byValue (hs : IsNumeric s) (ht : IsNumeric t) (h : identifierValue s < identifierValue t)
  | number (hs : IsNumeric s) (ht : ¬ IsNumeric t)
  | byCharacters (hs : ¬ IsNumeric s) (ht : ¬ IsNumeric t) (h : s < t)

/-- Two identifiers make no difference: they are the same or stand for the same number. -/
def IdentifiersLevel (s t : String) : Prop :=
  s = t ∨ IsNumeric s ∧ IsNumeric t ∧ identifierValue s = identifierValue t

/-- The first difference between the identifiers of two pre-releases puts one before the other. -/
inductive IdentifiersPrecede : List String → List String → Prop
  | extension (t : String) (ts : List String) : IdentifiersPrecede [] (t :: ts)
  | difference {s t : String} (h : IdentifierBelow s t) (ss ts : List String) :
      IdentifiersPrecede (s :: ss) (t :: ts)
  | behind {s t : String} {ss ts : List String} (h : IdentifiersLevel s t)
      (hrest : IdentifiersPrecede ss ts) : IdentifiersPrecede (s :: ss) (t :: ts)

/-- A version precedes another one. -/
inductive Precedes (a b : Version) : Prop
  | byNumbers (h : a.numbers < b.numbers)
  | preRelease (h : a.numbers = b.numbers) (ha : a.pre ≠ []) (hb : b.pre = [])
  | byIdentifiers (h : a.numbers = b.numbers) (ha : a.pre ≠ []) (hb : b.pre ≠ [])
      (hpre : IdentifiersPrecede a.pre b.pre)

/-! ## Identifiers -/

/-- A character of identifiers is an ASCII character. -/
theorem toNat_lt_of_isIdentifierChar {c : Char} (h : isIdentifierChar c = true) :
    c.toNat < 0x80 := Nat.lt_of_le_of_lt (isIdentifierChar_range (.inr h)).2.1 (by decide)

section

variable {s t : String} (hs : s ≠ "") (hsChars : ∀ c ∈ s.toList, isIdentifierChar c = true)
  (ht : t ≠ "") (htChars : ∀ c ∈ t.toList, isIdentifierChar c = true)

include hs hsChars

theorem isNumeral_iff : IdentifierKey.isNumeral s = true ↔ IsNumeric s := by
  have hempty : s.isEmpty = false := by
    rw [← Bool.not_eq_true, String.isEmpty_iff]
    exact hs
  have hdigits : s.toList.all isDigit = true ↔ ∀ c ∈ s.toList, c.isDigit = true := by
    rw [List.all_eq_true]
    refine forall₂_congr fun c hc => ?_
    rw [isDigit, classify, if_pos (toNat_lt_of_isIdentifierChar (hsChars c hc))]
  rw [IdentifierKey.isNumeral, hempty, Bool.not_false, Bool.true_and, hdigits, IsNumeric]
  exact (and_iff_right hs).symm

theorem ofText_eq : IdentifierKey.ofText s
    = if IsNumeric s then .number (identifierValue s) else .word s := by
  rw [IdentifierKey.ofText]
  by_cases hnumeric : IsNumeric s
  · rw [if_pos ((isNumeral_iff hs hsChars).2 hnumeric), if_pos hnumeric,
      Number.ofDigits_of_isDigit hnumeric.2]
    rfl
  · rw [if_neg (mt (isNumeral_iff hs hsChars).1 hnumeric), if_neg hnumeric]

include ht htChars

theorem compare_ofText_eq_lt_iff :
    IdentifierKey.compare (.ofText s) (.ofText t) = .lt ↔ IdentifierBelow s t := by
  rw [ofText_eq hs hsChars, ofText_eq ht htChars]
  by_cases hsNumeric : IsNumeric s <;> by_cases htNumeric : IsNumeric t
  · rw [if_pos hsNumeric, if_pos htNumeric]
    refine Nat.compare_eq_lt.trans ⟨fun h => .byValue hsNumeric htNumeric h, fun h => ?_⟩
    cases h with
    | byValue _ _ h => exact h
    | number _ h => exact absurd htNumeric h
    | byCharacters h => exact absurd hsNumeric h
  · rw [if_pos hsNumeric, if_neg htNumeric]
    exact iff_of_true rfl (.number hsNumeric htNumeric)
  · rw [if_neg hsNumeric, if_pos htNumeric]
    refine iff_of_false (fun heq => ?_) fun h => ?_
    · cases heq
    · cases h with
      | byValue h => exact hsNumeric h
      | number h => exact hsNumeric h
      | byCharacters _ h => exact h htNumeric
  · rw [if_neg hsNumeric, if_neg htNumeric, IdentifierKey.compare_words]
    refine compareOfLessAndEq_eq_lt.trans ⟨.byCharacters hsNumeric htNumeric, fun h => ?_⟩
    cases h with
    | byValue h => exact absurd h hsNumeric
    | number h => exact absurd h hsNumeric
    | byCharacters _ _ h => exact h

theorem compare_ofText_eq_eq_iff :
    IdentifierKey.compare (.ofText s) (.ofText t) = .eq ↔ IdentifiersLevel s t := by
  rw [ofText_eq hs hsChars, ofText_eq ht htChars]
  by_cases hsNumeric : IsNumeric s <;> by_cases htNumeric : IsNumeric t
  · rw [if_pos hsNumeric, if_pos htNumeric]
    refine Nat.compare_eq_eq.trans ⟨fun h => .inr ⟨hsNumeric, htNumeric, h⟩, ?_⟩
    rintro (rfl | ⟨-, -, h⟩)
    · rfl
    · exact h
  · rw [if_pos hsNumeric, if_neg htNumeric]
    refine iff_of_false nofun ?_
    rintro (rfl | ⟨-, h, -⟩)
    · exact htNumeric hsNumeric
    · exact htNumeric h
  · rw [if_neg hsNumeric, if_pos htNumeric]
    refine iff_of_false nofun ?_
    rintro (rfl | ⟨h, -, -⟩)
    · exact hsNumeric htNumeric
    · exact hsNumeric h
  · rw [if_neg hsNumeric, if_neg htNumeric, IdentifierKey.compare_words,
      Std.LawfulEqOrd.compare_eq_iff_eq]
    refine ⟨.inl, ?_⟩
    rintro (rfl | ⟨h, -, -⟩)
    · rfl
    · exact absurd h hsNumeric

end

/-- Identifiers that texts give. -/
def AreIdentifiers (parts : List String) : Prop :=
  ∀ part ∈ parts, part ≠ "" ∧ ∀ c ∈ part.toList, isIdentifierChar c = true

theorem WellFormed.areIdentifiers {v : Version} (h : v.WellFormed) : AreIdentifiers v.pre :=
  fun part hpart => ⟨h.present part hpart, h.written part hpart⟩

/-- Comparing goes on behind identifiers that make no difference. -/
theorem compareKeys_eq_lt_iff {ss ts : List String} (hss : AreIdentifiers ss)
    (hts : AreIdentifiers ts) :
    compareKeys (ss.map .ofText) (ts.map .ofText) = .lt ↔ IdentifiersPrecede ss ts := by
  induction ss generalizing ts with
  | nil =>
    cases ts with
    | nil => exact iff_of_false nofun nofun
    | cons t ts => exact iff_of_true rfl (.extension t ts)
  | cons s ss ih =>
    cases ts with
    | nil => exact iff_of_false nofun nofun
    | cons t ts =>
      obtain ⟨⟨hs, hsChars⟩, hss⟩ := List.forall_mem_cons.1 hss
      obtain ⟨⟨ht, htChars⟩, hts⟩ := List.forall_mem_cons.1 hts
      rw [List.map_cons, List.map_cons, compareKeys, Ordering.then_eq_lt,
        compare_ofText_eq_lt_iff hs hsChars ht htChars,
        compare_ofText_eq_eq_iff hs hsChars ht htChars, ih hss hts]
      constructor
      · rintro (h | ⟨h, hrest⟩)
        · exact .difference h ss ts
        · exact .behind h hrest
      · intro h
        cases h with
        | difference h => exact .inl h
        | behind h hrest => exact .inr ⟨h, hrest⟩

/-! ## Versions -/

theorem precedence_eq_lt_iff {a b : Version} : precedence a b = .lt ↔
    a.numbers < b.numbers ∨ a.numbers = b.numbers ∧ comparePre a.pre b.pre = .lt := by
  simp only [precedence, Ordering.then_eq_lt, Nat.compare_eq_lt, Nat.compare_eq_eq, numbers,
    Prod.Lex.toLex_lt_toLex, toLex_inj, Prod.mk.injEq]
  tauto

theorem precedes_iff {a b : Version} (ha : a.WellFormed) (hb : b.WellFormed) :
    a.before b = true ↔ Precedes a b := by
  have hpre : comparePre a.pre b.pre = .lt ↔
      a.pre ≠ [] ∧ (b.pre = [] ∨ b.pre ≠ [] ∧ IdentifiersPrecede a.pre b.pre) := by
    rw [← compareKeys_eq_lt_iff ha.areIdentifiers hb.areIdentifiers]
    cases a.pre <;> cases b.pre <;> simp [comparePre]
  rw [before_eq_true_iff, precedence_eq_lt_iff, hpre]
  constructor
  · rintro (h | ⟨h, hne, hrelease | ⟨hne', hrest⟩⟩)
    · exact .byNumbers h
    · exact .preRelease h hne hrelease
    · exact .byIdentifiers h hne hne' hrest
  · intro h
    cases h with
    | byNumbers h => exact .inl h
    | preRelease h ha hb => exact .inr ⟨h, ha, .inl hb⟩
    | byIdentifiers h ha hb hpre => exact .inr ⟨h, ha, .inr ⟨hb, hpre⟩⟩

end Version

end ControlSchema
