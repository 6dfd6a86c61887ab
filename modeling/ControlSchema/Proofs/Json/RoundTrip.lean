import ControlSchema.Json.Reader
import ControlSchema.Json.Writer
import ControlSchema.Proofs.Number.Digits
import ControlSchema.Proofs.Text.Infix
import ControlSchema.Proofs.Text.Order
import Mathlib.Tactic.IntervalCases

/-!
# Canonical JSON is read back

A text is read back whatever characters it has, since those that would end it or are
not allowed in it are escaped. A number is read back when nothing follows that it
could go on with, and an object when its keys are different texts: its members come
in the order of the keys then. No level of nesting needs more of the reader's bound
than the characters it is written with.
-/

namespace ControlSchema.Json

open Number Text

/-! ## Characters -/

theorem readUnit_hexDigits {n : Nat} (h : n < 0x20) (next : Char) (rest : List Char) :
    readUnit (hexDigits 4 n ++ next :: rest) = .ok (n, next :: rest) := by
  interval_cases n <;> rfl

/-- How a text goes on behind a character of it. -/
def consed (c : Char) (found : Result (List Nat × List Char)) :
    Result (List Nat × List Char) := do
  let (codes, rest) ← found
  return (c.toNat :: codes, rest)

/-- A control character is written by its number, if it has no letter. -/
theorem readText_unit (opening fuel : Nat) {c : Char} (h : c.toNat < 0x20) {rest : List Char}
    (hrest : rest ≠ []) :
    readText opening (fuel + 1) ('\\' :: 'u' :: hexDigits 4 c.toNat ++ rest)
      = consed c (readText opening fuel rest) := by
  obtain ⟨next, rest, rfl⟩ := List.exists_cons_of_ne_nil hrest
  have hunit : readEscapedUnit (hexDigits 4 c.toNat ++ next :: rest)
      = .ok (c.toNat, next :: rest) := by
    rw [readEscapedUnit, readUnit_hexDigits h]
    have hlow : ¬ (0xd800 ≤ c.toNat && c.toNat < 0xdc00) = true := by
      rw [Bool.and_eq_true, decide_eq_true_eq, decide_eq_true_eq]
      omega
    simp only [bind, Except.bind, if_neg hlow]
    rfl
  show (readEscapedUnit (hexDigits 4 c.toNat ++ next :: rest) >>= fun found => do
    let (codes, final) ← readText opening fuel found.2
    return (found.1 :: codes, final)) = _
  rw [hunit]
  rfl

theorem readText_plain (opening fuel : Nat) {c : Char} (hquote : c ≠ '"') (hback : c ≠ '\\')
    (hplain : ¬ c.toNat < 0x20) (rest : List Char) :
    readText opening (fuel + 1) (c :: rest) = consed c (readText opening fuel rest) := by
  rw [readText, if_neg hplain]
  · rfl
  · exact fun heq _ => hback heq
  · exact fun heq => hquote heq
  · exact fun _ heq _ => hback heq
  · exact fun _ _ heq _ => hback heq

theorem readText_escapeChar (opening fuel : Nat) (c : Char) {rest : List Char} (h : rest ≠ []) :
    readText opening (fuel + 1) (escapeChar c ++ rest) = consed c (readText opening fuel rest) := by
  have hcode {code : Nat} (hc : (c.toNat == code) = true) : c = Char.ofNat code := by
    rw [← beq_iff_eq.1 hc, Char.ofNat_toNat]
  rw [escapeChar]
  split
  · rename_i hspecial
    rw [Bool.or_eq_true, beq_iff_eq, beq_iff_eq] at hspecial
    rcases hspecial with rfl | rfl <;> rfl
  · rename_i hspecial
    rw [Bool.or_eq_true, beq_iff_eq, beq_iff_eq, not_or] at hspecial
    -- The control characters that have a letter, then the others.
    split
    · rename_i hc
      rw [beq_iff_eq.1 hc]
      rfl
    split
    · rename_i hc
      rw [beq_iff_eq.1 hc]
      rfl
    split
    · rename_i hc
      rw [beq_iff_eq.1 hc]
      rfl
    split
    · rename_i hc
      rw [hcode hc]
      rfl
    split
    · rename_i hc
      rw [hcode hc]
      rfl
    split
    · rename_i hcontrol
      exact readText_unit opening fuel hcontrol h
    · rename_i hplain
      exact readText_plain opening fuel hspecial.1 hspecial.2 hplain rest

/-! ## Texts -/

theorem escapeChar_ne_nil (c : Char) : escapeChar c ≠ [] := by
  rw [escapeChar]
  repeat' split
  all_goals exact List.cons_ne_nil _ _

theorem length_le_flatMap_escapeChar (cs : List Char) :
    cs.length ≤ (cs.flatMap escapeChar).length := by
  induction cs with
  | nil => exact Nat.le_refl 0
  | cons c cs ih =>
    have hfirst := List.length_pos_iff.2 (escapeChar_ne_nil c)
    rw [List.flatMap_cons, List.length_append, List.length_cons]
    omega

theorem readText_flatMap (opening : Nat) {fuel : Nat} {cs : List Char} (h : cs.length < fuel)
    (rest : List Char) :
    readText opening fuel (cs.flatMap escapeChar ++ '"' :: rest)
      = .ok (cs.map Char.toNat, rest) := by
  induction cs generalizing fuel with
  | nil =>
    obtain ⟨fuel, rfl⟩ := Nat.exists_eq_succ_of_ne_zero (Nat.ne_of_gt h)
    rfl
  | cons c cs ih =>
    obtain ⟨fuel, rfl⟩ := Nat.exists_eq_succ_of_ne_zero (Nat.ne_of_gt (Nat.zero_lt_of_lt h))
    rw [List.flatMap_cons, List.append_assoc, readText_escapeChar opening fuel c (by simp),
      ih (Nat.lt_of_succ_lt_succ h)]
    rfl

/-- No character is half of one. -/
theorem isHalf_toNat (c : Char) : Words.isHalf c.toNat = false := by
  have hvalid : c.toNat < 0xd800 ∨ 0xdfff < c.toNat ∧ c.toNat < 0x110000 := c.valid
  rw [Words.isHalf, Bool.and_eq_false_iff, decide_eq_false_iff_not, decide_eq_false_iff_not]
  omega

theorem ofCodes_toNat (cs : List Char) :
    Words.ofCodes (cs.map Char.toNat) = .whole (String.ofList cs) := by
  have hhalf : ¬ (cs.map Char.toNat).any Words.isHalf = true := by
    rw [List.any_map, List.any_eq_true]
    rintro ⟨c, -, hc⟩
    exact absurd (isHalf_toNat c) (by simpa using hc)
  have hchars : (cs.map Char.toNat).map Char.ofNat = cs := by
    rw [List.map_map]
    exact (List.map_congr_left fun c _ => Char.ofNat_toNat c).trans (List.map_id cs)
  rw [Words.ofCodes, if_neg hhalf, hchars]

theorem readQuoted_writeText (s : String) (rest : List Char) :
    readQuoted (s.toList.flatMap escapeChar ++ '"' :: rest) = .ok (.whole s, rest) := by
  have hlength := length_le_flatMap_escapeChar s.toList
  rw [readQuoted, readText_flatMap]
  · refine congrArg (fun text => Except.ok (text, rest)) ?_
    rw [ofCodes_toNat, String.ofList_toList]
  · rw [List.length_append]
    omega

/-! ## Numbers -/

/-- What may follow a value: no number goes on with it. -/
def Follows (rest : List Char) : Prop :=
  ∀ c, rest.head? = some c → c.isDigit = false ∧ c ≠ '.' ∧ c ≠ 'e' ∧ c ≠ 'E'

theorem takeDigits_append {digits rest : List Char} (h : ∀ c ∈ digits, c.isDigit = true)
    (hrest : Follows rest) : takeDigits (digits ++ rest) = (digits, rest) := by
  have htake : rest.takeWhile Char.isDigit = [] ∧ rest.dropWhile Char.isDigit = rest := by
    cases rest with
    | nil => exact ⟨rfl, rfl⟩
    | cons c rest =>
      rw [List.takeWhile_cons, List.dropWhile_cons, (hrest c rfl).1]
      exact ⟨rfl, rfl⟩
  rw [takeDigits, List.takeWhile_append_of_pos h, List.dropWhile_append_of_pos h, htake.1, htake.2,
    List.append_nil]

theorem readFraction_of_follows {rest : List Char} (h : Follows rest) :
    readFraction rest = ([], rest) := by
  rw [readFraction]
  rintro more rfl
  exact (h '.' rfl).2.1 rfl

theorem readPower_of_follows {rest : List Char} (h : Follows rest) :
    readPower rest = ([], rest) := by
  cases rest with
  | nil => rfl
  | cons c rest =>
    obtain ⟨-, -, hlower, hupper⟩ := h c rfl
    refine (if_neg ?_ : readPower (c :: rest) = _)
    rw [Bool.or_eq_true, beq_iff_eq, beq_iff_eq, not_or]
    exact ⟨hlower, hupper⟩

/-- The sign of a number, and what follows it. -/
def signOf (cs : List Char) : List Char × List Char :=
  match cs with
  | '-' :: rest => (['-'], rest)
  | _ => ([], cs)

/-- The digits of a number in front of its point. -/
def wholeOf (body : List Char) : List Char × List Char :=
  match body with
  | '0' :: rest => (['0'], rest)
  | _ => takeDigits body

theorem readNumber_eq (cs : List Char) : readNumber cs =
    let (whole, afterWhole) := wholeOf (signOf cs).2
    if whole.isEmpty then fail .noValue cs
    else
      let (fraction, afterFraction) := readFraction afterWhole
      let (power, rest) := readPower afterFraction
      if fraction.isEmpty && power.isEmpty then
        if digitLimit < whole.length then fail (.tooLong whole.length) cs
        else
          let value : Int := natOfChars whole
          .ok (.int (if (signOf cs).1.isEmpty then value else -value), rest)
      else
        match doubleOfText? ((signOf cs).1 ++ whole ++ fraction ++ power) with
        | some value => .ok (.float value, rest)
        | none => fail .noValue cs := rfl

/-- The digits of a number are taken whole: none but zero begins with a zero. -/
theorem wholeOf_digitsText (n : Nat) {rest : List Char} (hrest : Follows rest) :
    wholeOf ((digitsText n).toList ++ rest) = ((digitsText n).toList, rest) := by
  by_cases hzero : n = 0
  · rw [hzero]
    rfl
  · have hhead := head?_toDigits (Nat.pos_of_ne_zero hzero)
    have htake := takeDigits_append (isDigit_digitsText n) hrest
    rw [← toList_digitsText] at hhead
    obtain ⟨c, cs, hcs⟩ := List.exists_cons_of_ne_nil (digitsText_ne_nil n)
    rw [hcs] at hhead htake ⊢
    rw [List.cons_append] at htake ⊢
    rw [wholeOf, htake]
    exact fun _ heq => hhead (congrArg some (List.cons.inj heq).1)

/-- An integer is read back, unless it is too long to be read at all. -/
theorem readNumber_intText {i : Int} (h : i.natAbs < 10 ^ digitLimit) {rest : List Char}
    (hrest : Follows rest) :
    readNumber ((intText i).toList ++ rest) = .ok (.int i, rest) := by
  have hlong : ¬ digitLimit < (digitsText i.natAbs).toList.length :=
    Nat.not_lt.2 ((length_digitsText_le_iff (by decide : 0 < digitLimit)).2 h)
  have hempty : ¬ (digitsText i.natAbs).toList.isEmpty = true := fun heq =>
    digitsText_ne_nil _ (List.isEmpty_iff.1 heq)
  have hdigits {sign cs : List Char}
      (hcs : signOf cs = (sign, (digitsText i.natAbs).toList ++ rest)) :
      readNumber cs
        = .ok (.int (if sign.isEmpty then (i.natAbs : Int) else -(i.natAbs : Int)), rest) := by
    simp only [readNumber_eq, hcs, wholeOf_digitsText _ hrest, readFraction_of_follows hrest,
      readPower_of_follows hrest, natOfChars_digitsText, if_neg hempty, if_neg hlong]
    rfl
  rw [intText]
  split
  · rename_i hneg
    have hcs : ("-" ++ digitsText i.natAbs).toList ++ rest
        = '-' :: ((digitsText i.natAbs).toList ++ rest) := by
      rw [String.toList_append]
      rfl
    rw [hcs, @hdigits ['-'] _ rfl]
    have hvalue : -(i.natAbs : Int) = i := by omega
    exact congrArg (fun value => Except.ok (Value.int value, rest)) hvalue
  · rename_i hneg
    have hsign : signOf ((digitsText i.natAbs).toList ++ rest)
        = ([], (digitsText i.natAbs).toList ++ rest) := by
      obtain ⟨c, cs, hcs⟩ := List.exists_cons_of_ne_nil (digitsText_ne_nil i.natAbs)
      have hdigit := isDigit_digitsText i.natAbs c (hcs ▸ List.mem_cons_self)
      rw [hcs, List.cons_append, signOf]
      intro _ heq
      rw [(List.cons.inj heq).1] at hdigit
      exact absurd hdigit (by decide)
    have hvalue : (i.natAbs : Int) = i := by omega
    rw [hdigits hsign]
    exact congrArg (fun value => Except.ok (Value.int value, rest)) hvalue

/-- No word begins as an integer does. -/
theorem readWord?_intText (i : Int) (rest : List Char) :
    readWord? ((intText i).toList ++ rest) = none := by
  -- Every word but the last begins with a letter, and the last has one behind its sign.
  have hwords : ∀ word ∈ words.map Prod.fst,
      (∃ letter more, word = letter :: more ∧ letter.isDigit = false ∧ letter ≠ '-') ∨
        ∃ letter more, word = '-' :: letter :: more ∧ letter.isDigit = false := by
    have hall : words.map Prod.fst = [['n', 'u', 'l', 'l'], ['t', 'r', 'u', 'e'],
        ['f', 'a', 'l', 's', 'e'], ['N', 'a', 'N'], "Infinity".toList, "-Infinity".toList] := rfl
    rw [hall]
    simp only [List.forall_mem_cons]
    exact ⟨Or.inl ⟨_, _, rfl, rfl, by decide⟩, Or.inl ⟨_, _, rfl, rfl, by decide⟩,
      Or.inl ⟨_, _, rfl, rfl, by decide⟩, Or.inl ⟨_, _, rfl, rfl, by decide⟩,
      Or.inl ⟨_, _, rfl, rfl, by decide⟩, Or.inr ⟨_, _, rfl, rfl⟩, List.forall_mem_nil _⟩
  obtain ⟨c, cs, hcs⟩ := List.exists_cons_of_ne_nil (digitsText_ne_nil i.natAbs)
  have hdigit := isDigit_digitsText i.natAbs c (hcs ▸ List.mem_cons_self)
  have hshape : (intText i).toList ++ rest = '-' :: c :: (cs ++ rest) ∨
      (intText i).toList ++ rest = c :: (cs ++ rest) := by
    rw [intText]
    split
    · rw [String.toList_append, hcs]
      exact Or.inl rfl
    · rw [hcs]
      exact Or.inr rfl
  refine List.findSome?_eq_none_iff.2 fun entry hentry => if_neg fun hfront => ?_
  rw [List.isPrefixOf_iff_prefix] at hfront
  rcases hwords entry.1 (List.mem_map_of_mem hentry) with
    ⟨letter, more, hword, hletter, hsign⟩ | ⟨letter, more, hword, hletter⟩ <;>
    rcases hshape with hcs | hcs <;> rw [hword, hcs, List.cons_prefix_cons] at hfront
  · exact hsign hfront.1
  · rw [hfront.1, hdigit] at hletter
    cases hletter
  · rw [List.cons_prefix_cons] at hfront
    rw [hfront.2.1, hdigit] at hletter
    cases hletter
  · rw [← hfront.1] at hdigit
    exact absurd hdigit (by decide)

/-! ## Values -/

theorem follows_cons {c : Char} (h : c ∈ [',', '\x7d', ']', '\n']) (rest : List Char) :
    Follows (c :: rest) := by
  intro d hd
  rw [← Option.some.inj hd]
  simp only [List.mem_cons, List.not_mem_nil, or_false] at h
  rcases h with rfl | rfl | rfl | rfl <;> decide

/-- A text is read as a value, whatever follows it. -/
structure Reads (text : List Char) (value : Value) : Prop where
  /-- It begins with neither a blank nor a byte order mark. -/
  first : ∃ c cs, text = c :: cs ∧ isSpace c = false ∧ c ≠ '\ufeff'
  reads : ∀ fuel rest, text.length < fuel → Follows rest →
    readValue fuel (text ++ rest) = .ok (value, rest)

theorem Reads.skipSpace_append {text : List Char} {value : Value} (h : Reads text value)
    (rest : List Char) : skipSpace (text ++ rest) = text ++ rest := by
  obtain ⟨c, cs, rfl, hc, -⟩ := h.first
  rw [List.cons_append, skipSpace, List.dropWhile_cons, hc]
  rfl

theorem writeText_append (s : String) (rest : List Char) :
    writeText s ++ rest = '"' :: (s.toList.flatMap escapeChar ++ '"' :: rest) := by
  simp only [writeText, List.cons_append, List.append_assoc, List.nil_append]

theorem reads_writeText (s : String) : Reads (writeText s) (.text (.whole s)) where
  first := ⟨'"', _, rfl, rfl, by decide⟩
  reads := by
    intro fuel rest hfuel _
    obtain ⟨fuel, rfl⟩ := Nat.exists_eq_succ_of_ne_zero (Nat.ne_of_gt (Nat.zero_lt_of_lt hfuel))
    rw [writeText_append, readValue, readQuoted_writeText]
    rfl

theorem reads_intText {i : Int} (h : i.natAbs < 10 ^ digitLimit) :
    Reads (intText i).toList (.int i) := by
  have hchars := intText_chars i
  obtain ⟨c, cs, hcs⟩ : ∃ c cs, (intText i).toList = c :: cs := by
    refine List.exists_cons_of_ne_nil fun hnil => digitsText_ne_nil i.natAbs ?_
    rw [intText] at hnil
    split at hnil
    · rw [String.toList_append] at hnil
      exact (List.append_eq_nil_iff.1 hnil).2
    · exact hnil
  have hothers : ∀ other ∈ [' ', '\t', '\n', '\r', '"', '[', '\x7b', '\ufeff'], c ≠ other := by
    have hall : [' ', '\t', '\n', '\r', '"', '[', '\x7b', '\ufeff'].all
        (fun other => other != '-' && !other.isDigit) = true := by decide
    rintro other hother rfl
    have hother := List.all_eq_true.1 hall c hother
    rw [Bool.and_eq_true, bne_iff_ne, Bool.not_eq_true'] at hother
    rcases hchars c (hcs ▸ List.mem_cons_self) with heq | hdigit
    · exact hother.1 heq
    · rw [hother.2] at hdigit
      cases hdigit
  simp only [List.forall_mem_cons] at hothers
  obtain ⟨hblank, htab, hfeed, hreturn, hquote, hbracket, hbrace, hmark, -⟩ := hothers
  have hspace : isSpace c = false := by
    rw [isSpace, beq_false_of_ne hblank, beq_false_of_ne htab, beq_false_of_ne hfeed,
      beq_false_of_ne hreturn]
    rfl
  refine ⟨⟨c, cs, hcs, hspace, hmark⟩, fun fuel rest hfuel hrest => ?_⟩
  obtain ⟨fuel, rfl⟩ := Nat.exists_eq_succ_of_ne_zero (Nat.ne_of_gt (Nat.zero_lt_of_lt hfuel))
  have hplain : readValue (fuel + 1) ((intText i).toList ++ rest)
      = readPlain ((intText i).toList ++ rest) := by
    rw [hcs, List.cons_append, readValue]
    · exact fun _ heq => hquote (List.cons.inj heq).1
    · exact fun _ heq => hbracket (List.cons.inj heq).1
    · exact fun _ heq => hbrace (List.cons.inj heq).1
  rw [hplain, readPlain, readWord?_intText, readNumber_intText h hrest]

/-! ## Objects -/

/-- The text of a member, given its key and the text of its value. -/
def memberText (key : String) (text : List Char) : List Char := writeText key ++ ':' :: text

section

variable {key : String} {text tail rest : List Char} {value : Value} {fuel : Nat}

theorem readMembers_last (h : Reads text value) (hfuel : text.length < fuel) :
    readMembers (fuel + 1) (memberText key text ++ '\x7d' :: rest)
      = .ok ([(.text (.whole key), value)], rest) := by
  rw [memberText, List.append_assoc, writeText_append, readMembers, readQuoted_writeText]
  show (readValue fuel (skipSpace (text ++ '\x7d' :: rest)) >>= _) = _
  rw [h.skipSpace_append, h.reads fuel _ hfuel (follows_cons (by decide) rest)]
  rfl

theorem readMembers_more (h : Reads text value) (hfuel : text.length < fuel)
    {members : List (Value × Value)} (htail : skipSpace tail = tail)
    (hmembers : readMembers fuel tail = .ok (members, rest)) :
    readMembers (fuel + 1) (memberText key text ++ ',' :: tail)
      = .ok ((.text (.whole key), value) :: members, rest) := by
  rw [memberText, List.append_assoc, writeText_append, readMembers, readQuoted_writeText]
  show (readValue fuel (skipSpace (text ++ ',' :: tail)) >>= _) = _
  rw [h.skipSpace_append, h.reads fuel _ hfuel (follows_cons (by decide) tail)]
  show (readMembers fuel (skipSpace tail) >>= _) = _
  rw [htail, hmembers]
  rfl

end

/-- Members begin with a quotation mark. -/
theorem exists_intercalate (key : String) (text : List Char) (more : List (List Char))
    (rest : List Char) :
    ∃ cs, [','].intercalate (memberText key text :: more) ++ rest = '"' :: cs := by
  cases more <;> exact ⟨_, rfl⟩

/-- Members that are separated by commas are read one after another. -/
theorem readMembers_intercalate {members : List (String × List Char × Value)} (hne : members ≠ [])
    (hreads : ∀ member ∈ members, Reads member.2.1 member.2.2) {fuel : Nat}
    (hfuel : ([','].intercalate (members.map fun member => memberText member.1 member.2.1)).length
      < fuel) (rest : List Char) :
    readMembers fuel ([','].intercalate
        (members.map fun member => memberText member.1 member.2.1) ++ '\x7d' :: rest)
      = .ok (members.map fun member => (.text (.whole member.1), member.2.2), rest) := by
  induction members generalizing fuel with
  | nil => exact absurd rfl hne
  | cons member members ih =>
    obtain ⟨hfirst, hrest⟩ := List.forall_mem_cons.1 hreads
    obtain ⟨fuel, rfl⟩ := Nat.exists_eq_succ_of_ne_zero (Nat.ne_of_gt (Nat.zero_lt_of_lt hfuel))
    have hlength : member.2.1.length < (memberText member.1 member.2.1).length := by
      simp only [memberText, List.length_append, List.length_cons]
      omega
    cases members with
    | nil =>
      simp only [List.map_cons, List.map_nil, List.intercalate_singleton] at hfuel ⊢
      exact readMembers_last hfirst (by omega)
    | cons next members =>
      simp only [List.map_cons, List.intercalate_cons_cons] at hfuel ih ⊢
      rw [List.append_assoc, List.append_assoc, List.singleton_append]
      have htail := @ih (List.cons_ne_nil _ _) hrest fuel
      obtain ⟨cs, hcs⟩ := exists_intercalate next.1 next.2.1
        (members.map fun member => memberText member.1 member.2.1) ('\x7d' :: rest)
      rw [hcs] at htail ⊢
      refine readMembers_more hfirst ?_ rfl (htail ?_)
      · simp only [List.length_append, List.length_singleton] at hfuel
        omega
      · simp only [List.length_append, List.length_singleton] at hfuel
        omega

end ControlSchema.Json

namespace ControlSchema.Json.Value

/-! ## Dictionaries of texts -/

theorem insert_of_not_mem {fields : List (String × Value)} {key : String}
    (h : key ∉ fields.map Prod.fst) (value : Value) :
    insert (entriesOf fields) (.text (.whole key)) value
      = entriesOf (fields ++ [(key, value)]) := by
  induction fields with
  | nil => rfl
  | cons field fields ih =>
    rw [List.map_cons, List.mem_cons, not_or] at h
    have hne : sameKey (.text (.whole field.1)) (.text (.whole key)) = false :=
      beq_false_of_ne fun heq => h.1 (Words.whole.inj heq).symm
    show (if sameKey (.text (.whole field.1)) (.text (.whole key)) then _ else
      (_ : Value × Value) :: insert (entriesOf fields) _ _) = _
    rw [hne, if_neg Bool.false_ne_true, ih h.2]
    rfl

/-- Nothing is written over where the keys are different. -/
theorem ofPairs_of_nodup {fields : List (String × Value)} (h : (fields.map Prod.fst).Nodup) :
    ofPairs (entriesOf fields) = entriesOf fields := by
  induction fields using List.reverseRecOn with
  | nil => rfl
  | append_singleton fields field ih =>
    rw [List.map_append, List.nodup_append] at h
    have hnew : field.1 ∉ fields.map Prod.fst := fun hmem =>
      h.2.2 field.1 hmem field.1 (List.mem_singleton_self _) rfl
    have hentries : entriesOf (fields ++ [field])
        = entriesOf fields ++ [(.text (.whole field.1), field.2)] := List.map_append
    have hlast (pairs : List (Value × Value)) (pair : Value × Value) :
        ofPairs (pairs ++ [pair]) = insert (ofPairs pairs) pair.1 pair.2 := by
      rw [ofPairs, List.foldl_append]
      rfl
    rw [hentries, hlast, ih h.1, insert_of_not_mem hnew]
    exact hentries

theorem lookup?_entriesOf (fields : Table String Value) (key : String) :
    lookup? key (entriesOf fields) = fields.get? key := by
  induction fields with
  | nil => rfl
  | cons field fields ih =>
    obtain ⟨name, value⟩ := field
    rw [Table.get?_cons, ← ih, entriesOf, List.map_cons, lookup?, List.find?_cons]
    by_cases hname : name = key
    · rw [hname, if_pos (beq_self_eq_true key)]
      simp
    · have hwords : (Words.whole name == Words.whole key) = false :=
        beq_false_of_ne fun heq => hname (Words.whole.inj heq)
      rw [if_neg fun heq => hname (beq_iff_eq.1 heq).symm]
      simp only [hwords, lookup?, entriesOf]

end ControlSchema.Json.Value

namespace ControlSchema.Json

open Number Text

/-- An object is read back when its keys are different. -/
theorem reads_object {members : List (String × List Char × Value)}
    (hnodup : (members.map Prod.fst).Nodup)
    (hreads : ∀ member ∈ members, Reads member.2.1 member.2.2) :
    Reads ('\x7b' :: [','].intercalate (members.map fun member => memberText member.1 member.2.1)
        ++ ['\x7d'])
      (.ofRecord (members.map fun member => (member.1, member.2.2))) where
  first := ⟨'\x7b', _, rfl, rfl, by decide⟩
  reads := by
    intro fuel rest hfuel _
    obtain ⟨fuel, rfl⟩ := Nat.exists_eq_succ_of_ne_zero (Nat.ne_of_gt (Nat.zero_lt_of_lt hfuel))
    rw [List.cons_append, List.cons_append, List.append_assoc, List.singleton_append]
    cases members with
    | nil => rfl
    | cons member members =>
      have hmembers := @readMembers_intercalate (member :: members) (List.cons_ne_nil _ _) hreads
        fuel (by simp only [List.length_cons, List.length_append] at hfuel; omega) rest
      have hpairs := @Value.ofPairs_of_nodup
        ((member :: members).map fun member => (member.1, member.2.2))
        (by rw [List.map_map]; exact hnodup)
      rw [Value.entriesOf, List.map_map] at hpairs
      obtain ⟨cs, hcs⟩ := exists_intercalate member.1 member.2.1
        (members.map fun member => memberText member.1 member.2.1) ('\x7d' :: rest)
      rw [List.map_cons, hcs] at hmembers ⊢
      show (readMembers fuel ('"' :: cs) >>= fun found =>
        pure (Value.dict (Value.ofPairs found.1), found.2)) = _
      rw [hmembers, Value.ofRecord, Value.entriesOf, List.map_map]
      exact congrArg (fun entries => Except.ok (Value.dict entries, rest)) hpairs

/-! ## Canonical texts -/

theorem writeItems_eq_map (items : List Value) : writeItems items = items.map write := by
  induction items with
  | nil => rfl
  | cons item items ih => rw [writeItems, ih, List.map_cons]

theorem writeEntries_eq_map (entries : List (Value × Value)) :
    writeEntries entries = entries.map fun entry => (entry.1, write entry.2) := by
  induction entries with
  | nil => rfl
  | cons entry entries ih => rw [writeEntries, ih, List.map_cons, writeEntry]

theorem entryFaults_eq_map (entries : List (Value × Value)) :
    entryFaults entries
      = entries.map fun entry => (entry.1, (scalarFault? entry.1).or (fault? entry.2)) := by
  induction entries with
  | nil => rfl
  | cons entry entries ih => rw [entryFaults, ih, List.map_cons, entryFault]

/-- Entries under texts come in the order of the texts. -/
theorem inOrder_entriesOf {α : Type} (fields : Table String Value) (f : Value → α) :
    inOrder ((Value.entriesOf fields).map fun entry => (entry.1, f entry.2))
      = fields.sorted.map fun field => (.text (.whole field.1), f field.2) := by
  have hsorted := @List.map_mergeSort _ _ (fun a b : String × Value => textAtMost a.1 b.1)
    (fun a b : Value × α => keyAtMost a.1 b.1)
    (fun field => (.text (.whole field.1), f field.2)) fields fun _ _ _ _ => rfl
  rw [Value.entriesOf, List.map_map]
  exact hsorted.symm

theorem write_list (items : List Value) :
    write (.list items) = '[' :: [','].intercalate (items.map write) ++ [']'] := by
  rw [write, writeItems_eq_map]

/-- The members of an object stand in the order of their keys. -/
theorem write_ofRecord (fields : Table String Value) :
    write (.ofRecord fields) = '\x7b' :: [','].intercalate
      (fields.sorted.map fun field => memberText field.1 (write field.2)) ++ ['\x7d'] := by
  rw [Value.ofRecord, write, writeEntries_eq_map, joinMembers, inOrder_entriesOf, List.map_map]
  rfl

/-- Texts can be put in order, so only the values of an object can be at fault. -/
theorem fault?_ofRecord (fields : Table String Value) :
    fault? (.ofRecord fields) = fields.sorted.findSome? fun field => fault? field.2 := by
  have hcomparable : comparable ((Value.entriesOf fields).map Prod.fst) = true := by
    rw [comparable, Value.entriesOf, List.map_map, Bool.or_eq_true, Bool.or_eq_true]
    refine Or.inl (Or.inr (List.all_eq_true.2 fun key hkey => ?_))
    obtain ⟨field, -, rfl⟩ := List.mem_map.1 hkey
    rfl
  have hfaults : entryFaults (Value.entriesOf fields)
      = (Value.entriesOf fields).map fun entry => (entry.1, fault? entry.2) := by
    rw [entryFaults_eq_map, Value.entriesOf, List.map_map, List.map_map]
    rfl
  rw [Value.ofRecord, fault?, if_pos hcomparable, hfaults, inOrder_entriesOf, List.findSome?_map]
  rfl

/-- A value is written as a text that is read as a value, which may differ in the order
of its entries. -/
structure Stored (value found : Value) : Prop where
  written : canonical value = .ok (String.ofList (write value))
  reads : Reads (write value) found
  /-- The text is the same when line ends are unified. -/
  unbroken : '\r' ∉ write value

theorem canonical_eq {value : Value} (hfault : fault? value = none)
    (hwhole : value.isWhole = true) :
    canonical value = .ok (String.ofList (write value)) := by
  rw [canonical, hfault]
  exact if_pos hwhole

theorem canonical_eq_ok {value : Value} {text : String} (h : canonical value = .ok text) :
    fault? value = none ∧ value.isWhole = true ∧ text = String.ofList (write value) := by
  rw [canonical] at h
  split at h
  · cases h
  · next hfault =>
    split at h
    · next hwhole =>
      cases h
      exact ⟨hfault, hwhole, rfl⟩
    · cases h

theorem not_mem_escapeChar (c : Char) : '\r' ∉ escapeChar c := by
  have hhex : ∀ n < 0x20, '\r' ∉ hexDigits 4 n := by decide
  rw [escapeChar]
  split
  · rename_i hspecial
    rw [Bool.or_eq_true, beq_iff_eq, beq_iff_eq] at hspecial
    rcases hspecial with rfl | rfl <;> decide
  split
  · decide
  split
  · decide
  split
  · decide
  split
  · decide
  split
  · decide
  split
  · rename_i hcontrol
    simp only [List.mem_cons, not_or]
    exact ⟨by decide, by decide, hhex _ hcontrol⟩
  · rename_i hreturn _ _ _ _
    rw [List.mem_singleton]
    exact fun heq => hreturn (beq_iff_eq.2 heq.symm)

theorem not_mem_writeText (s : String) : '\r' ∉ writeText s := by
  intro hmem
  rw [writeText, List.mem_append, List.mem_cons, List.mem_flatMap, List.mem_singleton] at hmem
  rcases hmem with (heq | ⟨c, -, hc⟩) | heq
  · exact absurd heq (by decide)
  · exact not_mem_escapeChar c hc
  · exact absurd heq (by decide)

theorem stored_text (s : String) : Stored (.text (.whole s)) (.text (.whole s)) :=
  ⟨rfl, reads_writeText s, not_mem_writeText s⟩

theorem stored_int {i : Int} (h : i.natAbs < 10 ^ digitLimit) : Stored (.int i) (.int i) := by
  refine ⟨canonical_eq (if_pos (isWritable_iff.2 h)) ?_, reads_intText h, fun hmem => ?_⟩
  · rfl
  rcases intText_chars i _ hmem with heq | hdigit
  · exact absurd heq (by decide)
  · exact absurd hdigit (by decide)

theorem scalarsOfEntries_entriesOf (fields : Table String Value) :
    Value.scalarsOfEntries (Value.entriesOf fields)
      = fields.flatMap fun field => .text (.whole field.1) :: field.2.scalars := by
  induction fields with
  | nil => rfl
  | cons field fields ih =>
    have hentries : Value.entriesOf (field :: fields)
        = (.text (.whole field.1), field.2) :: Value.entriesOf fields := rfl
    rw [hentries, Value.scalarsOfEntries, ih, List.flatMap_cons, Value.scalarsOfEntry]
    rfl

/-- The texts of a dictionary are whole when those of its values are. -/
theorem isWhole_ofRecord {fields : Table String Value}
    (h : ∀ field ∈ fields, field.2.isWhole = true) : (Value.ofRecord fields).isWhole = true := by
  rw [Value.isWhole, Value.ofRecord, Value.scalars, scalarsOfEntries_entriesOf, List.all_flatMap,
    List.all_eq_true]
  intro field hfield
  rw [List.all_cons, Bool.and_eq_true]
  exact ⟨rfl, h field hfield⟩

/-- A dictionary of texts is written in the order of its keys and read back in it. -/
theorem stored_ofRecord {fields : Table String Value} (hnodup : fields.keys.Nodup)
    (hfields : ∀ field ∈ fields, Stored field.2 field.2) :
    Stored (.ofRecord fields) (.ofRecord fields.sorted) := by
  have hsorted : ∀ field ∈ fields.sorted, Stored field.2 field.2 :=
    fun field hfield => hfields field (Table.mem_sorted.1 hfield)
  refine ⟨canonical_eq ?_ (isWhole_ofRecord fun field hfield =>
    (canonical_eq_ok (hfields field hfield).written).2.1), ?_, ?_⟩
  · rw [fault?_ofRecord, List.findSome?_eq_none_iff]
    exact fun field hfield => (canonical_eq_ok (hsorted field hfield).written).1
  · have hobject := @reads_object (fields.sorted.map fun field => (field.1, write field.2, field.2))
      (by rw [List.map_map]; exact Table.nodup_keys_sorted hnodup) fun member hmember => by
        obtain ⟨field, hfield, rfl⟩ := List.mem_map.1 hmember
        exact (hsorted field hfield).reads
    have hfound : fields.sorted.map ((fun member : String × List Char × Value =>
        (member.1, member.2.2)) ∘ fun field => (field.1, write field.2, field.2)) = fields.sorted :=
      List.map_id fields.sorted
    rw [List.map_map, List.map_map, hfound] at hobject
    rw [write_ofRecord]
    exact hobject
  · intro hmem
    rw [write_ofRecord, List.mem_append, List.mem_cons, List.mem_singleton] at hmem
    rcases hmem with (heq | hmem) | heq
    · exact absurd heq (by decide)
    · refine absurd rfl (forall_mem_intercalate (P := (· ≠ '\r')) ?_ ?_ '\r' hmem)
      · exact List.forall_mem_singleton.2 (by decide)
      · intro piece hpiece c hc heq
        obtain ⟨field, hfield, rfl⟩ := List.mem_map.1 hpiece
        rw [heq, memberText, List.mem_append, List.mem_cons] at hc
        rcases hc with hc | heq | hc
        · exact not_mem_writeText _ hc
        · exact absurd heq (by decide)
        · exact (hsorted field hfield).unbroken hc
    · exact absurd heq (by decide)

/-- A text that a value was written as is read back, with a line end behind it. -/
theorem read_of_stored {value found : Value} (h : Stored value found) :
    read (String.ofList (write value) ++ "\n") = .ok found := by
  have hcs : (String.ofList (write value) ++ "\n").toList = write value ++ ['\n'] := by
    rw [String.toList_append, String.toList_ofList]
    rfl
  have hvalue := h.reads.reads (2 * (write value ++ ['\n']).length + 2) ['\n']
    (by rw [List.length_append]; omega) (follows_cons (by decide) [])
  obtain ⟨c, cs, htext, -, hmark⟩ := h.reads.first
  have hhead : ¬ ((write value ++ ['\n']).head? == some '\ufeff') = true := by
    rw [htext, beq_iff_eq]
    exact fun heq => hmark (Option.some.inj heq)
  simp only [read, hcs, if_neg hhead, h.reads.skipSpace_append, hvalue]
  rfl

end ControlSchema.Json
