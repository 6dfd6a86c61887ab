import ControlSchema.Datum.Text
import ControlSchema.Number.Integer
import ControlSchema.Source.Expression
import Mathlib.Algebra.Group.Int.Defs
import Mathlib.Algebra.Group.Nat.Defs
import Mathlib.Data.List.Induction

/-!
# Decimal digits

The digits of a number have its value, and none of them is a leading zero, so
source that is given a number reads back the same number. Zeros in front of
digits do not count, and without them digits can be told from their value: two
rows of digits have the same value exactly when they differ in leading zeros only.

An integer with more digits than a limit is not written at all.
-/

namespace ControlSchema.Number

theorem toList_digitsText (n : Nat) : (digitsText n).toList = Nat.toDigits 10 n := by
  rw [digitsText, String.toList_ofList]

theorem isDigit_digitsText (n : Nat) : ∀ c ∈ (digitsText n).toList, c.isDigit = true := by
  intro c hc
  rw [toList_digitsText] at hc
  exact Nat.isDigit_of_mem_toDigits (by decide) (by decide) hc

theorem intText_chars (i : Int) :
    ∀ c ∈ (intText i).toList, c = '-' ∨ c.isDigit = true := by
  intro c hc
  rw [intText] at hc
  split at hc
  · rw [String.toList_append] at hc
    rcases List.mem_append.1 hc with hc | hc
    · exact Or.inl (List.mem_singleton.1 hc)
    · exact Or.inr (isDigit_digitsText _ c hc)
  · exact Or.inr (isDigit_digitsText _ c hc)

theorem digitsText_ne_nil (n : Nat) : (digitsText n).toList ≠ [] := by
  rw [toList_digitsText]
  exact Nat.toDigits_ne_nil

theorem head?_toDigits {n : Nat} (hn : 0 < n) : (Nat.toDigits 10 n).head? ≠ some '0' := by
  induction n using Nat.strongRecOn with
  | ind n ih =>
    by_cases hlt : n < 10
    · rw [Nat.toDigits_of_lt_base hlt]
      have hall : ∀ n < 10, 0 < n → [n.digitChar].head? ≠ some '0' := by decide
      exact hall n hlt hn
    · have hrest := ih (n / 10) (by omega) (by omega)
      rw [Nat.toDigits_of_base_le (by decide) (by omega)]
      cases hfront : Nat.toDigits 10 (n / 10) with
      | nil => exact absurd hfront Nat.toDigits_ne_nil
      | cons c cs =>
        rw [hfront] at hrest
        exact hrest

theorem natOfChars_digitsText (n : Nat) : natOfChars (digitsText n).toList = n := by
  rw [natOfChars, ofDigits, List.foldl_map, toList_digitsText]
  exact Nat.ofDigitChars_ten_toDigits

theorem decimal?_digitsText (n : Nat) : Source.Expr.decimal? (digitsText n) = some n := by
  have hdigits : (digitsText n).toList.all Char.isDigit = true :=
    List.all_eq_true.2 (isDigit_digitsText n)
  have hempty : (digitsText n).toList.isEmpty = false :=
    List.isEmpty_eq_false_iff.2 (digitsText_ne_nil n)
  have hzero : ((digitsText n).toList.head? == some '0' &&
      (digitsText n).toList.any (· != '0')) = false := by
    rw [toList_digitsText]
    by_cases hn : n = 0
    · subst hn
      rw [Nat.toDigits_zero]
      decide
    · have hhead : ((Nat.toDigits 10 n).head? == some '0') = false :=
        beq_eq_false_iff_ne.2 (head?_toDigits (Nat.pos_of_ne_zero hn))
      rw [hhead, Bool.false_and]
  have hvalue : (digitsText n).toList.foldl (fun m c => 10 * m + (c.toNat - 0x30)) 0 = n := by
    rw [toList_digitsText]
    exact Nat.ofDigitChars_ten_toDigits
  rw [Source.Expr.decimal?]
  simp only [hempty, hdigits, hzero, hvalue]
  rfl

theorem ofNumber?_digitsText (n : Nat) :
    Source.Expr.ofNumber? (digitsText n) = some (.number n) := by
  rw [Source.Expr.ofNumber?, decimal?_digitsText]

/-! ## Decimal digits of any script -/

theorem length_digitsText_le_iff {n limit : Nat} (hlimit : 0 < limit) :
    (digitsText n).toList.length ≤ limit ↔ n < 10 ^ limit := by
  rw [toList_digitsText]
  exact Nat.length_toDigits_le_iff (by decide) hlimit

/-- ASCII digits are read with the values that they have. -/
theorem ofDigits_of_isDigit {cs : List Char} (h : ∀ c ∈ cs, c.isDigit = true) :
    ofDigits (cs.filterMap Text.decimalValue?) = natOfChars cs := by
  have hvalues : cs.filterMap Text.decimalValue? = cs.map fun c => c.toNat - 0x30 := by
    induction cs with
    | nil => rfl
    | cons c cs ih =>
      obtain ⟨hc, hcs⟩ := List.forall_mem_cons.1 h
      have hvalue : Text.decimalValue? c = some (c.toNat - 0x30) := if_pos hc
      rw [List.filterMap_cons, hvalue, ih hcs, List.map_cons]
  rw [hvalues, natOfChars]

theorem ofDigits_digitsText (n : Nat) :
    ofDigits ((digitsText n).toList.filterMap Text.decimalValue?) = n := by
  rw [ofDigits_of_isDigit (isDigit_digitsText n), natOfChars_digitsText]

theorem toNat_of_isDigit {c : Char} (h : c.isDigit = true) : 0x30 ≤ c.toNat ∧ c.toNat ≤ 0x39 := by
  rw [Char.isDigit, Bool.and_eq_true, decide_eq_true_eq, decide_eq_true_eq] at h
  exact h

theorem decimalValue?_lt {c : Char} {value : Nat} (h : Text.decimalValue? c = some value) :
    value < 10 := by
  rw [Text.decimalValue?] at h
  split at h
  · next hdigit =>
    cases h
    have hle := (toNat_of_isDigit hdigit).2
    omega
  · split at h
    · cases h
    · obtain ⟨first, hfirst, rfl⟩ := Option.map_eq_some_iff.1 h
      have hin := Array.find?_some hfirst
      rw [Bool.and_eq_true, decide_eq_true_eq, decide_eq_true_eq] at hin
      omega

theorem ofDigits_lt {digits : List Nat} (h : ∀ d ∈ digits, d < 10) :
    ofDigits digits < 10 ^ digits.length := by
  have hfrom (start : Nat) : digits.foldl (fun value digit => 10 * value + digit) start
      < 10 ^ digits.length * (start + 1) := by
    induction digits generalizing start with
    | nil => simp only [List.foldl_nil, List.length_nil]; omega
    | cons d digits ih =>
      have hd := h d List.mem_cons_self
      have hrest := ih (fun e he => h e (List.mem_cons_of_mem d he)) (10 * start + d)
      refine Nat.lt_of_lt_of_le hrest ?_
      rw [List.length_cons, Nat.pow_succ, Nat.mul_assoc]
      exact Nat.mul_le_mul_left _ (by omega)
  have hzero := hfrom 0
  rwa [Nat.zero_add, Nat.mul_one] at hzero

/-! ## Leading zeros -/

theorem natOfChars_concat (cs : List Char) (c : Char) :
    natOfChars (cs ++ [c]) = 10 * natOfChars cs + (c.toNat - 0x30) := by
  rw [natOfChars, natOfChars, List.map_append, ofDigits, ofDigits, List.foldl_append]
  rfl

/-- A digit is the digit of its value. -/
theorem toDigits_of_isDigit {c : Char} (h : c.isDigit = true) :
    Nat.toDigits 10 (c.toNat - 0x30) = [c] := by
  obtain ⟨hlow, hhigh⟩ := toNat_of_isDigit h
  have hlt : c.toNat - 0x30 < 10 := by omega
  have hchar : (c.toNat - 0x30).digitChar = c := by
    refine Char.toNat_inj.1 ((Nat.toNat_digitChar_of_lt_ten hlt).trans ?_)
    omega
  rw [Nat.toDigits_of_lt_base hlt, hchar]

/-- Digits that do not begin with a zero are those of their number. -/
theorem toDigits_natOfChars {cs : List Char} (hdigits : ∀ c ∈ cs, c.isDigit = true) (hne : cs ≠ [])
    (hzero : cs.head? ≠ some '0') : Nat.toDigits 10 (natOfChars cs) = cs := by
  induction cs using List.reverseRecOn with
  | nil => exact absurd rfl hne
  | append_singleton front c ih =>
    have hc := hdigits c (List.mem_append_right front List.mem_cons_self)
    have hfront : ∀ d ∈ front, d.isDigit = true := fun d hd =>
      hdigits d (List.mem_append_left [c] hd)
    have hlast := toDigits_of_isDigit hc
    rw [natOfChars_concat]
    cases front with
    | nil => exact (Nat.zero_add (c.toNat - 0x30)).symm ▸ hlast
    | cons d front =>
      have hinit := ih hfront (List.cons_ne_nil d front) hzero
      have hpos : 0 < natOfChars (d :: front) := by
        refine Nat.pos_of_ne_zero fun heq => hzero ?_
        rw [heq, Nat.toDigits_zero] at hinit
        exact congrArg List.head? (congrArg (· ++ [c]) hinit.symm)
      have hlt : c.toNat - 0x30 < 10 := by
        have hhigh := (toNat_of_isDigit hc).2
        omega
      rw [← Nat.toDigits_append_toDigits (by decide) hpos hlt, hinit, hlast]

/-- The digits behind the zeros that a number begins with. -/
def dropZeros (cs : List Char) : List Char := cs.dropWhile (· == '0')

theorem natOfChars_dropZeros (cs : List Char) : natOfChars (dropZeros cs) = natOfChars cs := by
  induction cs with
  | nil => rfl
  | cons c cs ih =>
    rw [dropZeros, List.dropWhile_cons]
    by_cases hc : (c == '0') = true
    · rw [if_pos hc, beq_iff_eq.1 hc]
      exact ih
    · rw [if_neg hc]

theorem head?_dropZeros (cs : List Char) : (dropZeros cs).head? ≠ some '0' := by
  intro h
  have hnot := List.head?_dropWhile_not (fun c => c == '0') cs
  rw [dropZeros] at h
  rw [h] at hnot
  exact absurd hnot (by decide)

/-- Digits have the same value exactly when they differ in leading zeros only. -/
theorem dropZeros_eq_iff {cs ds : List Char} (hcs : ∀ c ∈ cs, c.isDigit = true)
    (hds : ∀ c ∈ ds, c.isDigit = true) :
    dropZeros cs = dropZeros ds ↔ natOfChars cs = natOfChars ds := by
  refine ⟨fun h => ?_, fun h => ?_⟩
  · rw [← natOfChars_dropZeros cs, h, natOfChars_dropZeros]
  · have hdigits {cs : List Char} (hcs : ∀ c ∈ cs, c.isDigit = true) (hne : dropZeros cs ≠ []) :
        Nat.toDigits 10 (natOfChars cs) = dropZeros cs := by
      rw [← natOfChars_dropZeros cs]
      exact toDigits_natOfChars (fun c hc => hcs c (List.dropWhile_subset _ hc)) hne
        (head?_dropZeros cs)
    -- Zero is the value of no digits, so the digits of zero are told apart from it by their zero.
    have hzero {cs : List Char} (hcs : ∀ c ∈ cs, c.isDigit = true) :
        dropZeros cs = [] ↔ natOfChars cs = 0 := by
      refine ⟨fun hnil => ?_, fun heq => Classical.by_contradiction fun hne =>
        head?_dropZeros cs ?_⟩
      · rw [← natOfChars_dropZeros cs, hnil]
        rfl
      · rw [← hdigits hcs hne, heq, Nat.toDigits_zero, List.head?_cons]
    by_cases hnil : dropZeros cs = []
    · rw [hnil, eq_comm, hzero hds, ← h, ← hzero hcs, hnil]
    · have hnil' : dropZeros ds ≠ [] := by
        rw [Ne, hzero hds, ← h, ← hzero hcs]
        exact hnil
      rw [← hdigits hcs hnil, h, hdigits hds hnil']

/-! ## Integers that are too long -/

theorem isWritable_iff {i : Int} : isWritable i = true ↔ i.natAbs < 10 ^ digitLimit := by
  rw [isWritable, decide_eq_true_iff]
  exact Nat.length_toDigits_le_iff (by decide) (by decide)

theorem natOfGroups?_lt {cs : List Char} {n : Nat} (h : natOfGroups? cs = some n) :
    n < 10 ^ digitLimit := by
  have hvalues {cs : List Char} {digits : List Nat} (h : cs.mapM Text.decimalValue? = some digits) :
      ∀ digit ∈ digits, digit < 10 := by
    induction cs generalizing digits with
    | nil =>
      cases h
      exact nofun
    | cons c cs ih =>
      rw [List.mapM_cons] at h
      obtain ⟨digit, hdigit, h⟩ := Option.bind_eq_some_iff.1 h
      obtain ⟨rest, hrest, h⟩ := Option.bind_eq_some_iff.1 h
      cases h
      exact List.forall_mem_cons.2 ⟨decimalValue?_lt hdigit, ih hrest⟩
  simp only [natOfGroups?, Option.bind_eq_bind] at h
  split at h
  · cases h
  · obtain ⟨digits, hdigits, h⟩ := Option.bind_eq_some_iff.1 h
    split at h
    · cases h
    · next hlong =>
      cases h
      exact Nat.lt_of_lt_of_le (ofDigits_lt (hvalues hdigits))
        (Nat.pow_le_pow_right (by decide) (Nat.not_lt.1 hlong))

/-- No text writes an integer that is too long to be written. -/
theorem isWritable_of_integerOfText? {s : String} {i : Int} (h : integerOfText? s = some i) :
    isWritable i = true := by
  have hnatural {cs : List Char} {f : Nat → Int} (hf : ∀ n, (f n).natAbs = n)
      (h : (natOfGroups? cs).map f = some i) : isWritable i = true := by
    obtain ⟨n, hn, rfl⟩ := Option.map_eq_some_iff.1 h
    rw [isWritable_iff, hf]
    exact natOfGroups?_lt hn
  rw [integerOfText?, integerOfChars?] at h
  split at h
  · exact hnatural (fun n => (Int.natAbs_neg n).trans (Int.natAbs_natCast n)) h
  · exact hnatural Int.natAbs_natCast h
  · exact hnatural Int.natAbs_natCast h

theorem isWritable_pow_digitLimit : isWritable (10 ^ digitLimit) = false := by
  have hlarge (digits : Nat) : 10 ^ digits ≤ (10 ^ digits : Int).natAbs :=
    Nat.le_of_eq (Int.natAbs_pow 10 digits).symm
  rw [← Bool.not_eq_true, isWritable_iff]
  exact Nat.not_lt.2 (hlarge _)

end ControlSchema.Number

namespace ControlSchema

/-- An integer with more digits than are written. -/
def Datum.IsLong (d : Datum) : Prop := ∃ n, d = .int n ∧ 10 ^ Number.digitLimit ≤ n.natAbs

theorem Datum.IsLong.exists_int {d : Datum} (h : d.IsLong) : ∃ n, d = .int n := by
  obtain ⟨n, hn, -⟩ := h
  exact ⟨n, hn⟩

theorem isLong_int_iff (n : Int) : (Datum.int n).IsLong ↔ ¬ Number.isWritable n = true := by
  simp only [Datum.IsLong, Datum.int.injEq, exists_eq_left', Number.isWritable_iff, Nat.not_lt]

end ControlSchema
