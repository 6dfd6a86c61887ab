import ControlSchema.Linkage.Header
import Mathlib.Data.List.Infix

/-!
# Scanning a header

Constants and the numbers of the version are found in the same way. A reader is
tried at every character, what it takes is skipped, and the scan goes on behind
it. The scan of a whole text follows from scans of its parts when they end in a
character that no reader ever gets past: readers then see a part as they would
see it alone, and the next part as if it stood at the beginning.

So a header need not be read as a whole. Each of its pieces ends in such a
character, and what is found in it is the concatenation of what is found in each.
-/

namespace ControlSchema

open Number Text

namespace HeaderText

/-! ## One scan for both readers -/

/-- A reader is told whether it stands inside a word, and answers what it found
with the number of characters. -/
abbrev Reader (α : Type) := Bool → List Char → Option (α × Nat)

def scanFrom {α : Type} (reader : Reader α) : Bool → Nat → List Char → List α
  | _, _, [] => []
  | _, taken + 1, c :: rest => scanFrom reader (isWord c) taken rest
  | insideWord, 0, c :: rest =>
    match reader insideWord (c :: rest) with
    | some (found, length) => found :: scanFrom reader (isWord c) (length - 1) rest
    | none => scanFrom reader (isWord c) 0 rest

def constantReader : Reader Constant := fun insideWord cs =>
  if insideWord then none else constantAt? cs

def componentReader : Reader (Component × Numeral) := fun _ => componentAt?

theorem constantsFrom_eq_scanFrom (insideWord : Bool) (taken : Nat) (cs : List Char) :
    constantsFrom insideWord taken cs = scanFrom constantReader insideWord taken cs := by
  induction cs generalizing insideWord taken with
  | nil => cases taken <;> rfl
  | cons c rest ih =>
    cases taken with
    | succ taken => exact ih (isWord c) taken
    | zero =>
      rw [constantsFrom, scanFrom]
      simp only [ih, constantReader]
      cases (if insideWord then none else constantAt? (c :: rest)) <;> rfl

theorem componentsFrom_eq_scanFrom (insideWord : Bool) (taken : Nat) (cs : List Char) :
    componentsFrom taken cs = scanFrom componentReader insideWord taken cs := by
  induction cs generalizing insideWord taken with
  | nil => cases taken <;> rfl
  | cons c rest ih =>
    cases taken with
    | succ taken => exact ih (isWord c) taken
    | zero =>
      rw [componentsFrom, scanFrom]
      simp only [ih (isWord c), componentReader]
      cases componentAt? (c :: rest) <;> rfl

section

variable {α : Type} {reader : Reader α}

theorem scanFrom_cons_of_none {insideWord : Bool} {c : Char} {rest : List Char}
    (h : reader insideWord (c :: rest) = none) :
    scanFrom reader insideWord 0 (c :: rest) = scanFrom reader (isWord c) 0 rest := by
  rw [scanFrom, h]

theorem scanFrom_cons_of_some {insideWord : Bool} {c : Char} {rest : List Char} {found : α}
    {length : Nat} (h : reader insideWord (c :: rest) = some (found, length)) :
    scanFrom reader insideWord 0 (c :: rest)
      = found :: scanFrom reader (isWord c) (length - 1) rest := by
  rw [scanFrom, h]

theorem scanFrom_of_length_le (insideWord : Bool) {taken : Nat} {cs : List Char}
    (h : cs.length ≤ taken) : scanFrom reader insideWord taken cs = [] := by
  induction cs generalizing insideWord taken with
  | nil => cases taken <;> rfl
  | cons c rest ih =>
    cases taken with
    | zero => cases h
    | succ taken => exact ih (isWord c) (Nat.le_of_succ_le_succ h)

theorem scanFrom_eq_singleton {insideWord : Bool} {cs : List Char} {found : α} (hne : cs ≠ [])
    (h : reader insideWord cs = some (found, cs.length)) :
    scanFrom reader insideWord 0 cs = [found] := by
  obtain ⟨c, rest, rfl⟩ := List.exists_cons_of_ne_nil hne
  rw [scanFrom_cons_of_some h, List.length_cons, Nat.add_sub_cancel,
    scanFrom_of_length_le (isWord c) (Nat.le_refl rest.length)]

/-- Nothing is found where the reader fails at every place. -/
theorem scanFrom_eq_nil {cs : List Char}
    (h : ∀ suffix, suffix <:+ cs → ∀ insideWord, reader insideWord suffix = none)
    (insideWord : Bool) (taken : Nat) : scanFrom reader insideWord taken cs = [] := by
  induction cs generalizing insideWord taken with
  | nil => cases taken <;> rfl
  | cons c rest ih =>
    have hrest := ih fun suffix hsuffix => h suffix (hsuffix.trans (List.suffix_cons c rest))
    cases taken with
    | succ taken => exact hrest (isWord c) taken
    | zero =>
      rw [scanFrom_cons_of_none (h _ List.suffix_rfl insideWord)]
      exact hrest (isWord c) 0

/-! ## Parts of a text -/

/-- The reader never gets past the character, and what it finds in front of it
is what it would find at the end of a text. -/
structure Reader.StopsAt (reader : Reader α) (b : Char) : Prop where
  append : ∀ insideWord cs rest, reader insideWord (cs ++ b :: rest) = reader insideWord cs
  nil : ∀ insideWord, reader insideWord [] = none
  le_length : ∀ insideWord cs found length, reader insideWord cs = some (found, length) →
    length ≤ cs.length

theorem scanFrom_append_cons {b : Char} (hb : reader.StopsAt b) (insideWord : Bool) {taken : Nat}
    {cs : List Char} (h : taken ≤ cs.length) (rest : List Char) :
    scanFrom reader insideWord taken (cs ++ b :: rest)
      = scanFrom reader insideWord taken cs ++ scanFrom reader (isWord b) 0 rest := by
  induction cs generalizing insideWord taken with
  | nil =>
    obtain rfl := Nat.le_zero.1 h
    exact scanFrom_cons_of_none ((hb.append insideWord [] rest).trans (hb.nil insideWord))
  | cons c cs ih =>
    cases taken with
    | succ taken => exact ih (isWord c) (Nat.le_of_succ_le_succ h)
    | zero =>
      have happend := hb.append insideWord (c :: cs) rest
      rw [List.cons_append] at happend ⊢
      cases hfound : reader insideWord (c :: cs) with
      | none =>
        rw [hfound] at happend
        rw [scanFrom_cons_of_none hfound, scanFrom_cons_of_none happend]
        exact ih (isWord c) (Nat.zero_le _)
      | some found =>
        obtain ⟨found, length⟩ := found
        have hlength := hb.le_length _ _ _ _ hfound
        rw [hfound] at happend
        rw [List.length_cons] at hlength
        rw [scanFrom_cons_of_some hfound, scanFrom_cons_of_some happend, List.cons_append,
          ih (isWord c) (by omega)]

/-- What is found in the part does not depend on what follows, and what follows
is scanned as if it stood alone. -/
def Separated (reader : Reader α) (part : List Char) : Prop :=
  ∀ rest, scanFrom reader false 0 (part ++ rest)
    = scanFrom reader false 0 part ++ scanFrom reader false 0 rest

theorem separated_nil : Separated reader [] := fun _ => rfl

theorem Separated.append {part other : List Char} (h : Separated reader part)
    (h' : Separated reader other) : Separated reader (part ++ other) := by
  intro rest
  rw [List.append_assoc, h, h', h, List.append_assoc]

theorem separated_concat {b : Char} (hb : reader.StopsAt b) (hword : isWord b = false)
    (cs : List Char) : Separated reader (cs ++ [b]) := by
  have hscan := fun rest => scanFrom_append_cons hb false (Nat.zero_le cs.length) rest
  rw [hword] at hscan
  intro rest
  rw [List.append_assoc, List.singleton_append, hscan, hscan, List.append_assoc]
  rfl

/-- A character that begins nothing may stand anywhere between parts. -/
theorem Separated.cons {c : Char} (hc : ∀ rest, reader false (c :: rest) = none)
    (hword : isWord c = false) {part : List Char} (h : Separated reader part) :
    Separated reader (c :: part) := by
  intro rest
  rw [List.cons_append, scanFrom_cons_of_none (hc _), scanFrom_cons_of_none (hc _), hword]
  exact h rest

theorem Separated.flatMap {β : Type} {parts : List β} {chars : β → List Char}
    (h : ∀ part ∈ parts, Separated reader (chars part)) :
    Separated reader (parts.flatMap chars) ∧
      scanFrom reader false 0 (parts.flatMap chars)
        = parts.flatMap fun part => scanFrom reader false 0 (chars part) := by
  induction parts with
  | nil => exact ⟨separated_nil, rfl⟩
  | cons part parts ih =>
    have hpart := h part List.mem_cons_self
    obtain ⟨hseparated, hscan⟩ := ih fun other hother => h other (List.mem_cons_of_mem part hother)
    rw [List.flatMap_cons, List.flatMap_cons]
    exact ⟨hpart.append hseparated, by rw [hpart, hscan]⟩

end

/-! ## Characters that stop both readers -/

/-- The marks that end the pieces of a header. -/
def isBarrier (c : Char) : Bool := c == ',' || c == ';' || c == '/' || c == '\x7b'

structure BarrierFacts (b : Char) : Prop where
  not_word : isWord b = false
  not_constant : isConstantChar b = false
  not_blank : isBlank b = false
  not_decimal : isDecimal b = false
  not_hex : Numeral.isHexDigit b = false
  not_define : b ∉ "#define".toList
  not_sign : b ≠ '=' ∧ b ≠ 'x' ∧ b ≠ 'X'

theorem isBarrier_facts {b : Char} (hb : isBarrier b = true) : BarrierFacts b := by
  rw [isBarrier, Bool.or_eq_true, Bool.or_eq_true, Bool.or_eq_true, beq_iff_eq, beq_iff_eq,
    beq_iff_eq, beq_iff_eq] at hb
  rcases hb with ((rfl | rfl) | rfl) | rfl <;>
    exact ⟨by decide, by decide, by decide, by decide, by decide, by decide, by decide⟩

end HeaderText

end ControlSchema
