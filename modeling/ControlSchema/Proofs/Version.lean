import ControlSchema.Proofs.Definition
import ControlSchema.Proofs.Text.Blank

/-!
# Versions written and read

What a text names is written in one way, and the text that is written names the same
version: its numbers have no leading zeros and are not too long, its identifiers are
not empty and have no points in them, and it has no blanks.
-/

namespace ControlSchema

open Text

namespace Version

/-! ## Identifiers -/

theorem identifiers?_eq_some {cs : List Char} {pre : List String} (h : identifiers? cs = some pre) :
    (∀ piece ∈ splitOn '.' cs, (!piece.isEmpty && piece.all isIdentifierChar) = true) ∧
      pre = (splitOn '.' cs).map String.ofList := by
  rw [identifiers?] at h
  split at h
  · rename_i hall
    cases h
    exact ⟨List.all_eq_true.1 hall, rfl⟩
  · cases h

/-- Identifiers that were read are read from what is written. -/
theorem identifiers?_intercalate {cs : List Char} {pre : List String}
    (h : identifiers? cs = some pre) : identifiers? (".".intercalate pre).toList = some pre := by
  obtain ⟨hall, rfl⟩ := identifiers?_eq_some h
  have hpoint : ".".toList = ['.'] := rfl
  have htexts : ((splitOn '.' cs).map String.ofList).map String.toList = splitOn '.' cs := by
    rw [List.map_map]
    exact List.map_id'' (fun piece => String.toList_ofList) _
  rw [identifiers?, String.toList_intercalate, hpoint, htexts,
    splitOn_intercalate (fun _ => not_mem_of_mem_splitOn) (splitOn_ne_nil '.' cs),
    if_pos (List.all_eq_true.2 hall)]

theorem identifiers?_of_suffix? {cs : List Char} {pre : List String} (h : suffix? cs = some pre) :
    pre = [] ∨ identifiers? (".".intercalate pre).toList = some pre := by
  rw [suffix?.eq_def] at h
  split at h
  · cases h
    exact Or.inl rfl
  · obtain ⟨found, hfound, h⟩ := Option.bind_eq_some_iff.1 h
    have hread := identifiers?_intercalate hfound
    simp only at h
    split at h
    · cases h
      exact Or.inr hread
    · obtain ⟨_, -, rfl⟩ := Option.map_eq_some_iff.1 h
      exact Or.inr hread
  · obtain ⟨_, -, rfl⟩ := Option.map_eq_some_iff.1 h
    exact Or.inl rfl
  · cases h

/-! ## Numbers -/

/-- Zero, or digits that begin with an ASCII digit other than zero; `digit` says what the others may
be. -/
def IsNumber (digit : Char → Bool) (cs : List Char) : Prop :=
  cs = ['0'] ∨ ∃ c rest, cs = c :: rest ∧ c.isDigit = true ∧ c ≠ '0' ∧ ∀ d ∈ rest, digit d = true

instance (digit : Char → Bool) : (cs : List Char) → Decidable (IsNumber digit cs)
  | [] => .isFalse (by simp [IsNumber])
  | c :: rest =>
    decidable_of_iff
      (c :: rest = ['0'] ∨ c.isDigit = true ∧ c ≠ '0' ∧ rest.all digit = true)
      (by simp [IsNumber])

theorem isDecimal_of_isDigit {c : Char} (h : c.isDigit = true) : isDecimal c = true := by
  rw [isDecimal, decimalValue?, if_pos h]
  rfl

theorem IsNumber.isDecimal {cs : List Char} (h : IsNumber Char.isDigit cs) :
    IsNumber isDecimal cs := by
  refine h.imp_right ?_
  rintro ⟨c, rest, hcons, hc, hzero, hrest⟩
  exact ⟨c, rest, hcons, hc, hzero, fun d hd => isDecimal_of_isDigit (hrest d hd)⟩

theorem IsNumber.isDigit {cs : List Char} (h : IsNumber Char.isDigit cs) :
    ∀ c ∈ cs, c.isDigit = true := by
  rcases h with rfl | ⟨c, rest, rfl, hc, -, hrest⟩
  · exact fun c hc => by rw [List.mem_singleton.1 hc]; rfl
  · exact List.forall_mem_cons.2 ⟨hc, hrest⟩

/-- A number is taken whole in front of what is no digit. -/
theorem takeNumber?_append {number rest : List Char} (h : IsNumber isDecimal number)
    (hrest : ∀ c, rest.head? = some c → isDecimal c = false) :
    takeNumber? (number ++ rest) = some (number, rest) := by
  rcases h with rfl | ⟨c, more, rfl, hdigit, hzero, hmore⟩
  · rfl
  · have htake : rest.takeWhile isDecimal = [] ∧ rest.dropWhile isDecimal = rest := by
      cases rest with
      | nil => exact ⟨rfl, rfl⟩
      | cons d rest =>
        have hd := hrest d rfl
        rw [List.takeWhile_cons, List.dropWhile_cons, hd]
        exact ⟨rfl, rfl⟩
    rw [List.cons_append, takeNumber?]
    · rw [if_pos hdigit, List.takeWhile_append_of_pos hmore, List.dropWhile_append_of_pos hmore,
        htake.1, htake.2, List.append_nil]
    · exact fun heq => hzero heq

theorem isNumber_digitsText (n : Nat) : IsNumber Char.isDigit (Number.digitsText n).toList := by
  by_cases hzero : n = 0
  · rw [hzero]
    exact .inl rfl
  · have hdigit := Number.isDigit_digitsText n
    have hhead := Number.head?_toDigits (Nat.pos_of_ne_zero hzero)
    rw [← Number.toList_digitsText] at hhead
    obtain ⟨c, cs, hcs⟩ := List.exists_cons_of_ne_nil (Number.digitsText_ne_nil n)
    rw [hcs] at hdigit hhead ⊢
    obtain ⟨hc, hcs⟩ := List.forall_mem_cons.1 hdigit
    exact .inr ⟨c, cs, rfl, hc, fun heq => hhead (congrArg some heq), hcs⟩

theorem numberValue_digitsText {n : Nat} (h : n < 10 ^ Number.digitLimit) :
    numberValue (Number.digitsText n).toList = .ok n := by
  have hlength := (Number.length_digitsText_le_iff (by decide : 0 < Number.digitLimit)).2 h
  rw [numberValue, if_neg (Nat.not_lt.2 hlength), Number.ofDigits_digitsText]

/-! ## Texts -/

/-- The characters of versions are no blanks, and none of them separates names in a
path. -/
theorem isIdentifierChar_range {c : Char} (h : c = '.' ∨ isIdentifierChar c = true) :
    0x2d ≤ c.toNat ∧ c.toNat ≤ 0x7a ∧ c ≠ '/' ∧ c ≠ '+' := by
  have hne {other : Char} (hother : other = '/' ∨ other = '+') (heq : c = other) : False := by
    rcases hother with rfl | rfl <;> rw [heq] at h <;> exact absurd h (by decide)
  refine ⟨?_, ?_, hne (Or.inl rfl), hne (Or.inr rfl)⟩ <;> rcases h with rfl | h
  · decide
  · delta isIdentifierChar Char.isAlphanum Char.isAlpha Char.isUpper Char.isLower Char.isDigit at h
    simp only [Bool.or_eq_true, Bool.and_eq_true, decide_eq_true_eq, beq_iff_eq] at h
    rcases h with ((⟨hlow, -⟩ | ⟨hlow, -⟩) | ⟨hlow, -⟩) | rfl
    · exact Nat.le_trans (by decide) hlow
    · exact Nat.le_trans (by decide) hlow
    · exact Nat.le_trans (by decide) hlow
    · decide
  · decide
  · delta isIdentifierChar Char.isAlphanum Char.isAlpha Char.isUpper Char.isLower Char.isDigit at h
    simp only [Bool.or_eq_true, Bool.and_eq_true, decide_eq_true_eq, beq_iff_eq] at h
    rcases h with ((⟨-, hhigh⟩ | ⟨-, hhigh⟩) | ⟨-, hhigh⟩) | rfl
    · exact Nat.le_trans hhigh (by decide)
    · exact Nat.le_trans hhigh (by decide)
    · exact Nat.le_trans hhigh (by decide)
    · decide

theorem strip_text {v : Version} (hv : v.IsWritten) : strip v.text = v.text := by
  refine strip_of_not_blank fun c hc => ?_
  obtain ⟨hlow, hhigh, -, -⟩ := isIdentifierChar_range (text_chars hv c hc)
  exact isBlank_eq_false_of_range (by omega) (by omega)

/-- What stands behind the numbers. -/
def tail (v : Version) : List Char :=
  if v.pre.isEmpty then [] else '-' :: (".".intercalate v.pre).toList

theorem toList_text (v : Version) : v.text.toList
    = (Number.digitsText v.major).toList ++ '.' :: ((Number.digitsText v.minor).toList
      ++ '.' :: ((Number.digitsText v.patch).toList ++ v.tail)) := by
  have hpoint : ".".toList = ['.'] := rfl
  have hhyphen : "-".toList = ['-'] := rfl
  have hcore : v.coreText.toList = (Number.digitsText v.major).toList ++ '.' ::
      ((Number.digitsText v.minor).toList ++ '.' :: (Number.digitsText v.patch).toList) := by
    simp only [coreText, String.intercalate_cons_cons, String.intercalate_singleton,
      String.toList_append, hpoint, List.append_assoc, List.singleton_append]
  rw [text, tail]
  split
  · rw [hcore, List.append_nil]
  · rw [String.toList_append, String.toList_append, hcore, hhyphen]
    simp only [List.append_assoc, List.cons_append, List.nil_append]

/-- Identifiers as they are read. -/
def HasIdentifiers (v : Version) : Prop :=
  v.pre = [] ∨ identifiers? (".".intercalate v.pre).toList = some v.pre

theorem suffix?_tail {v : Version} (hv : v.IsWritten) (hpre : v.HasIdentifiers) :
    suffix? v.tail = some v.pre := by
  rcases hpre with hpre | hpre
  · rw [tail, hpre]
    rfl
  · by_cases hempty : v.pre.isEmpty = true
    · rw [tail, if_pos hempty, List.isEmpty_iff.1 hempty]
      rfl
    · have hplus : ∀ c ∈ (".".intercalate v.pre).toList, (c != '+') = true := by
        intro c hc
        have hmem : c ∈ v.text.toList := by
          rw [toList_text, tail, if_neg hempty]
          simp only [List.mem_append, List.mem_cons, hc, or_true]
        rw [bne_iff_ne]
        exact (isIdentifierChar_range (text_chars hv c hmem)).2.2.2
      have htake : (".".intercalate v.pre).toList.takeWhile (· != '+')
          = (".".intercalate v.pre).toList := List.takeWhile_eq_self_iff.2 hplus
      have hdrop : (".".intercalate v.pre).toList.dropWhile (· != '+') = [] :=
        List.dropWhile_eq_nil_iff.2 hplus
      rw [tail, if_neg hempty, suffix?]
      simp only [htake, hdrop, hpre]
      rfl

theorem hasIdentifiers_of_parse {text : String} {v : Version} (h : parse text = .ok v) :
    v.HasIdentifiers := by
  rw [parse] at h
  cases hparts : parts? (strip text).toList with
  | none =>
    rw [hparts] at h
    cases h
  | some parts =>
    obtain ⟨⟨major, minor, patch⟩, pre⟩ := parts
    rw [hparts] at h
    simp only at h
    obtain ⟨a, -, h⟩ := Attempt.bind_eq_ok h
    obtain ⟨b, -, h⟩ := Attempt.bind_eq_ok h
    obtain ⟨c, -, h⟩ := Attempt.bind_eq_ok h
    cases h
    obtain ⟨rest, hrest⟩ := suffix?_of_parts? hparts
    exact identifiers?_of_suffix? hrest

/-- Three numbers with points between them, and what follows them, fall apart again. -/
theorem parts?_append {major minor patch tail : List Char} {pre : List String}
    (hmajor : IsNumber isDecimal major) (hminor : IsNumber isDecimal minor)
    (hpatch : IsNumber isDecimal patch)
    (htail : ∀ c, tail.head? = some c → isDecimal c = false) (hpre : suffix? tail = some pre) :
    parts? (major ++ '.' :: (minor ++ '.' :: (patch ++ tail)))
      = some ((major, minor, patch), pre) := by
  have hpoint (rest : List Char) : ∀ c, ('.' :: rest).head? = some c → isDecimal c = false := by
    intro c hc
    rw [← Option.some.inj hc]
    rfl
  rw [parts?, takeNumber?_append hmajor (hpoint _), Option.bind_eq_bind, Option.bind_some]
  simp only
  rw [takeNumber?_append hminor (hpoint _), Option.bind_eq_bind, Option.bind_some]
  simp only
  rw [takeNumber?_append hpatch htail, Option.bind_some, hpre]
  rfl

/-- A written version falls into the parts that it is written from. -/
theorem parts?_text {v : Version} (hv : v.IsWritten) (hpre : v.HasIdentifiers) :
    parts? v.text.toList = some (((Number.digitsText v.major).toList,
      (Number.digitsText v.minor).toList, (Number.digitsText v.patch).toList), v.pre) := by
  have hnumber (n : Nat) := (isNumber_digitsText n).isDecimal
  have htail : ∀ c, v.tail.head? = some c → isDecimal c = false := by
    rw [tail]
    split
    · intro c hc
      cases hc
    · intro c hc
      rw [← Option.some.inj hc]
      rfl
  rw [toList_text]
  exact parts?_append (hnumber _) (hnumber _) (hnumber _) htail (suffix?_tail hv hpre)

/-- What a version is read as from its own text. -/
theorem parse_text_eq {v : Version} (hv : v.IsWritten) (hpre : v.HasIdentifiers) :
    parse v.text = do
      return ⟨← numberValue (Number.digitsText v.major).toList,
        ← numberValue (Number.digitsText v.minor).toList,
        ← numberValue (Number.digitsText v.patch).toList, v.pre⟩ := by
  rw [parse, strip_text hv, parts?_text hv hpre]

/-- A version that was read is read from its text. -/
theorem parse_text {text : String} {v : Version} (h : parse text = .ok v) :
    parse v.text = .ok v := by
  obtain ⟨hmajor, hminor, hpatch⟩ := lt_of_parse h
  rw [parse_text_eq (isWritten_of_parse h) (hasIdentifiers_of_parse h),
    numberValue_digitsText hmajor, numberValue_digitsText hminor, numberValue_digitsText hpatch]
  rfl

end Version

end ControlSchema
