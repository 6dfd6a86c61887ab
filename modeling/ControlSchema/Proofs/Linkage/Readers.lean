import ControlSchema.Proofs.Linkage.Scanning
import ControlSchema.Proofs.Text.Ascii
import ControlSchema.Proofs.Text.Infix

/-!
# What the readers of a header see

Both readers ask for a beginning, for runs of characters of a class, and for a
number, one behind the other. None of these gets past a mark that ends a piece of
a header, so neither does a reader. What a reader has found shows where it
looked: a constant has its prefix and an equals sign in it, a number of the
version has the two words of its definition.
-/

namespace ControlSchema.HeaderText

open Number Text

/-! ## Runs of characters -/

section

variable {α : Type} {p : α → Bool} {b : α}

theorem takeWhile_append_cons (hb : p b = false) (cs rest : List α) :
    (cs ++ b :: rest).takeWhile p = cs.takeWhile p := by
  induction cs with
  | nil => rw [List.nil_append, List.takeWhile_cons, hb]; rfl
  | cons c cs ih =>
    rw [List.cons_append, List.takeWhile_cons, List.takeWhile_cons, ih]

theorem drop_takeWhile_append (cs rest : List α) :
    (cs ++ rest).drop (cs.takeWhile p).length = cs.drop (cs.takeWhile p).length ++ rest :=
  List.drop_append_of_le_length (List.takeWhile_sublist p).length_le

theorem takeWhile_append_drop (p : α → Bool) (cs : List α) :
    cs.takeWhile p ++ cs.drop (cs.takeWhile p).length = cs :=
  List.prefix_iff_eq_append.1 (List.takeWhile_prefix p)

end

theorem after?_append_self (beginning : String) (rest : List Char) :
    after? beginning (beginning.toList ++ rest) = some rest := by
  rw [after?, if_pos (List.isPrefixOf_iff_prefix.2 (List.prefix_append _ _)),
    ← String.length_toList, List.drop_left]

theorem after?_eq_some_iff {beginning : String} {cs rest : List Char} :
    after? beginning cs = some rest ↔ cs = beginning.toList ++ rest := by
  refine ⟨fun h => ?_, ?_⟩
  · rw [after?] at h
    split at h
    · next hprefix =>
      obtain ⟨rest', rfl⟩ := List.isPrefixOf_iff_prefix.1 hprefix
      cases h
      rw [← String.length_toList, List.drop_left]
    · cases h
  · rintro rfl
    exact after?_append_self beginning rest

theorem after?_eq_none {beginning : String} {cs : List Char} (h : ¬ beginning.toList <+: cs) :
    after? beginning cs = none :=
  if_neg fun hprefix => h (List.isPrefixOf_iff_prefix.1 hprefix)

theorem after?_append_cons {beginning : String} {b : Char} (hb : b ∉ beginning.toList)
    (cs rest : List Char) :
    after? beginning (cs ++ b :: rest) = (after? beginning cs).map (· ++ b :: rest) := by
  cases hcs : after? beginning cs with
  | some tail =>
    obtain rfl := after?_eq_some_iff.1 hcs
    rw [List.append_assoc, after?_append_self]
    rfl
  | none =>
    refine after?_eq_none fun hprefix => ?_
    obtain ⟨tail, rfl⟩ := prefix_of_prefix_append_cons hb hprefix
    rw [after?_append_self] at hcs
    cases hcs

/-! ## Numbers -/

namespace Numeral

variable {b : Char}

theorem length_ofDecimal?_le {cs : List Char} {value : Numeral} (h : ofDecimal? cs = some value) :
    value.length ≤ cs.length := by
  rw [ofDecimal?] at h
  split at h
  · cases h
  · cases h
    exact (List.takeWhile_sublist isDecimal).length_le

theorem length_take?_le {cs : List Char} {value : Numeral} (h : take? cs = some value) :
    value.length ≤ cs.length := by
  rw [take?.eq_def] at h
  split at h
  · simp only at h
    split at h
    · cases h
      exact Nat.add_le_add_right (List.takeWhile_sublist isHexDigit).length_le 2
    · exact length_ofDecimal?_le h
  · exact length_ofDecimal?_le h

theorem ofDecimal?_append_cons (hb : BarrierFacts b) (cs rest : List Char) :
    ofDecimal? (cs ++ b :: rest) = ofDecimal? cs := by
  rw [ofDecimal?, ofDecimal?, takeWhile_append_cons hb.not_decimal]

/-- Only a zero can begin a number in base sixteen. -/
theorem take?_of_ne_zero {c : Char} (hc : c ≠ '0') (rest : List Char) :
    take? (c :: rest) = ofDecimal? (c :: rest) := by
  rw [take?.eq_def]
  split
  · next heq => exact absurd (List.cons.inj heq).1 hc
  · rfl

theorem take?_append_cons (hb : BarrierFacts b) (cs rest : List Char) :
    take? (cs ++ b :: rest) = take? cs := by
  have hdecimal := fun cs => ofDecimal?_append_cons hb cs rest
  match cs with
  | [] =>
    have hzero : b ≠ '0' := fun heq => by
      have hnot := hb.not_decimal
      rw [heq] at hnot
      cases hnot
    rw [List.nil_append, take?_of_ne_zero hzero]
    exact hdecimal []
  | [c] =>
    have hsigns : (b == 'x' || b == 'X') = false := by
      rw [Bool.or_eq_false_iff, beq_eq_false_iff_ne, beq_eq_false_iff_ne]
      exact hb.not_sign.2
    by_cases hc : c = '0'
    · subst hc
      have hshort : take? ['0'] = ofDecimal? ['0'] := rfl
      rw [hshort, ← hdecimal, List.singleton_append, take?, hsigns]
      rfl
    · rw [List.singleton_append, take?_of_ne_zero hc, take?_of_ne_zero hc]
      exact hdecimal [c]
  | c :: d :: cs =>
    by_cases hc : c = '0'
    · subst hc
      rw [List.cons_append, List.cons_append, take?, take?, takeWhile_append_cons hb.not_hex]
      simp only [← hdecimal ('0' :: d :: cs), List.cons_append]
    · rw [List.cons_append, take?_of_ne_zero hc, take?_of_ne_zero hc]
      exact hdecimal (c :: d :: cs)

end Numeral

/-! ## Constants -/

theorem constantOf?_append_cons {b : Char} (hb : BarrierFacts b) (category : Category)
    (cs rest : List Char) : constantOf? category (cs ++ b :: rest) = constantOf? category cs := by
  have hprefix : b ∉ category.headerPrefix.toList := by
    have hall : ∀ c ∈ category.headerPrefix.toList, isConstantChar c = true := by
      cases category <;> exact forall_mem_literal rfl (by decide)
    intro hmem
    have hchar := hall b hmem
    rw [hb.not_constant] at hchar
    cases hchar
  rw [constantOf?, constantOf?, after?_append_cons hprefix]
  cases after? category.headerPrefix cs with
  | none => rfl
  | some tail =>
    simp only [Option.map_some, bind, Option.bind, takeWhile_append_cons hb.not_constant,
      drop_takeWhile_append, takeWhile_append_cons hb.not_blank]
    generalize (tail.drop (tail.takeWhile isConstantChar).length).drop
      ((tail.drop (tail.takeWhile isConstantChar).length).takeWhile isBlank).length = signed
    split
    · rfl
    · match signed with
      | [] =>
        rw [List.nil_append]
        split
        · next heq => exact absurd (List.cons.inj heq).1 hb.not_sign.1
        · rfl
      | c :: more =>
        rw [List.cons_append]
        by_cases hc : c = '='
        · subst hc
          simp only [takeWhile_append_cons hb.not_blank, drop_takeWhile_append,
            Numeral.take?_append_cons hb]
        · split
          · next heq => exact absurd (List.cons.inj heq).1 hc
          · split
            · next heq => exact absurd (List.cons.inj heq).1 hc
            · rfl

theorem constantOf?_eq_some {category : Category} {cs : List Char} {found : Constant}
    {length : Nat} (h : constantOf? category cs = some (found, length)) :
    category.headerPrefix.toList <+: cs ∧ '=' ∈ cs ∧ length ≤ cs.length := by
  rw [constantOf?] at h
  obtain ⟨tail, htail, hfound⟩ := Option.bind_eq_some_iff.1 h
  clear h
  obtain rfl := after?_eq_some_iff.1 htail
  simp only at hfound
  split at hfound
  · cases hfound
  · have hname := takeWhile_append_drop isConstantChar tail
    have hblanks := takeWhile_append_drop isBlank
      (tail.drop (tail.takeWhile isConstantChar).length)
    split at hfound
    · next after hafter =>
      obtain ⟨value, hvalue, hpair⟩ := Option.bind_eq_some_iff.1 hfound
      cases hpair
      rw [hafter] at hblanks
      have hmore := takeWhile_append_drop isBlank after
      have hlength := Numeral.length_take?_le hvalue
      refine ⟨List.prefix_append _ _, ?_, ?_⟩
      · rw [← hname, ← hblanks]
        simp only [List.mem_append, List.mem_cons, true_or, or_true]
      · have h1 := congrArg List.length hname
        have h2 := congrArg List.length hblanks
        have h3 := congrArg List.length hmore
        simp only [List.length_append, List.length_cons, String.length_toList] at h1 h2 h3 ⊢
        omega
    · cases hfound

/-! ## Numbers of the version -/

/-- The word that names a component stands in front of a text or does not,
whatever follows the barrier. -/
theorem find?_components_append_cons {b : Char} (hb : isConstantChar b = false)
    (cs rest : List Char) :
    components.find? (fun entry => entry.1.toList.isPrefixOf (cs ++ b :: rest))
      = components.find? (fun entry => entry.1.toList.isPrefixOf cs) := by
  have hwords : ∀ entry ∈ components, entry.1.toList.all isConstantChar = true := by decide
  rw [← List.head?_filter, ← List.head?_filter]
  refine congrArg List.head? (List.filter_congr fun entry hentry => ?_)
  have hfresh : b ∉ entry.1.toList := fun hmem => by
    have hchar := List.all_eq_true.1 (hwords entry hentry) b hmem
    rw [hb] at hchar
    cases hchar
  rw [Bool.eq_iff_iff, List.isPrefixOf_iff_prefix, List.isPrefixOf_iff_prefix]
  exact ⟨prefix_of_prefix_append_cons hfresh, fun h => h.trans (List.prefix_append _ _)⟩

theorem componentAt?_append_cons {b : Char} (hb : BarrierFacts b) (cs rest : List Char) :
    componentAt? (cs ++ b :: rest) = componentAt? cs := by
  have hversion : b ∉ "LIBCAMERA_VERSION_".toList := by
    intro hmem
    have hchar := forall_mem_literal (p := isConstantChar) rfl (by decide) b hmem
    rw [hb.not_constant] at hchar
    cases hchar
  rw [componentAt?, componentAt?, after?_append_cons hb.not_define]
  cases after? "#define" cs with
  | none => rfl
  | some tail =>
    simp only [Option.map_some, bind, Option.bind, takeWhile_append_cons hb.not_blank,
      drop_takeWhile_append, after?_append_cons hversion]
    split
    · rfl
    · cases after? "LIBCAMERA_VERSION_" (tail.drop (tail.takeWhile isBlank).length) with
      | none => rfl
      | some named =>
        simp only [Option.map_some, find?_components_append_cons hb.not_constant]
        cases hword : components.find? fun entry => entry.1.toList.isPrefixOf named with
        | none => rfl
        | some entry =>
          have hfound := List.find?_some hword
          have hprefix : entry.1.toList <+: named := List.isPrefixOf_iff_prefix.1 hfound
          have hdrop : (named ++ b :: rest).drop entry.1.length
              = named.drop entry.1.length ++ b :: rest :=
            List.drop_append_of_le_length (String.length_toList ▸ hprefix.length_le)
          simp only [hdrop, takeWhile_append_cons hb.not_blank, drop_takeWhile_append,
            Numeral.ofDecimal?_append_cons hb, List.length_append, Nat.add_sub_add_right]

theorem componentAt?_eq_some {cs : List Char} {found : Component × Numeral} {length : Nat}
    (h : componentAt? cs = some (found, length)) :
    "#define".toList <+: cs ∧ "LIBCAMERA_VERSION_".toList <:+: cs ∧ length ≤ cs.length := by
  rw [componentAt?] at h
  obtain ⟨tail, htail, hfound⟩ := Option.bind_eq_some_iff.1 h
  clear h
  obtain rfl := after?_eq_some_iff.1 htail
  simp only at hfound
  split at hfound
  · cases hfound
  · obtain ⟨named, hnamed, hfound⟩ := Option.bind_eq_some_iff.1 hfound
    obtain ⟨entry, -, hfound⟩ := Option.bind_eq_some_iff.1 hfound
    split at hfound
    · cases hfound
    · obtain ⟨value, hvalue, hpair⟩ := Option.bind_eq_some_iff.1 hfound
      cases hpair
      have hsuffix : "LIBCAMERA_VERSION_".toList ++ named <:+ tail :=
        after?_eq_some_iff.1 hnamed ▸ List.drop_suffix _ tail
      have hlength := Numeral.length_ofDecimal?_le hvalue
      refine ⟨List.prefix_append _ _, ?_, ?_⟩
      · exact (List.prefix_append _ named).isInfix.trans
          (hsuffix.isInfix.trans (List.suffix_append _ tail).isInfix)
      · have h1 := hsuffix.length_le
        simp only [List.length_append, List.length_drop, String.length_toList] at h1 hlength ⊢
        omega

/-! ## Both readers stop -/

theorem constantReader_stopsAt {b : Char} (hb : isBarrier b = true) :
    Reader.StopsAt constantReader b := by
  have hfacts := isBarrier_facts hb
  refine ⟨fun insideWord cs rest => ?_, fun insideWord => ?_,
    fun insideWord cs found length h => ?_⟩
  · rw [constantReader, constantReader, constantAt?, constantAt?, constantOf?_append_cons hfacts,
      constantOf?_append_cons hfacts]
  · cases insideWord <;> rfl
  · rw [constantReader] at h
    split at h
    · cases h
    · rw [constantAt?] at h
      rcases Option.or_eq_some_iff.1 h with h | ⟨-, h⟩
      · exact (constantOf?_eq_some h).2.2
      · exact (constantOf?_eq_some h).2.2

theorem componentReader_stopsAt {b : Char} (hb : isBarrier b = true) :
    Reader.StopsAt componentReader b :=
  ⟨fun _ => componentAt?_append_cons (isBarrier_facts hb), fun _ => rfl,
    fun _ _ _ _ h => (componentAt?_eq_some h).2.2⟩

/-! ## Texts without a match -/

theorem constantReader_eq_none {cs : List Char}
    (h : ∀ category, constantOf? category cs = none) (insideWord : Bool) :
    constantReader insideWord cs = none := by
  rw [constantReader, constantAt?, h .controls, h .properties]
  cases insideWord <;> rfl

theorem constantOf?_eq_none_of_not_prefix {category : Category} {cs : List Char}
    (h : ¬ category.headerPrefix.toList <+: cs) : constantOf? category cs = none := by
  refine Option.eq_none_iff_forall_not_mem.2 ?_
  rintro ⟨found, length⟩ hfound
  exact h (constantOf?_eq_some hfound).1

/-- Where no constant begins, none is found. -/
theorem scanFrom_constantReader_eq_nil {cs : List Char}
    (h : ∀ category : Category, ¬ category.headerPrefix.toList <:+: cs) (insideWord : Bool) :
    scanFrom constantReader insideWord 0 cs = [] := by
  refine scanFrom_eq_nil (fun suffix hsuffix => constantReader_eq_none fun category => ?_) _ _
  refine constantOf?_eq_none_of_not_prefix fun hprefix => h category ?_
  exact hprefix.isInfix.trans hsuffix.isInfix

theorem scanFrom_constantReader_eq_nil_of_not_mem {cs : List Char} (h : '=' ∉ cs)
    (insideWord : Bool) : scanFrom constantReader insideWord 0 cs = [] := by
  refine scanFrom_eq_nil (fun suffix hsuffix => constantReader_eq_none fun category => ?_) _ _
  refine Option.eq_none_iff_forall_not_mem.2 ?_
  rintro ⟨found, length⟩ hfound
  exact h (hsuffix.subset (constantOf?_eq_some hfound).2.1)

theorem scanFrom_componentReader_eq_nil {cs : List Char}
    (h : "#define".toList <:+: cs → ¬ "LIBCAMERA_VERSION_".toList <:+: cs) (insideWord : Bool) :
    scanFrom componentReader insideWord 0 cs = [] := by
  refine scanFrom_eq_nil (fun suffix hsuffix _ => Option.eq_none_iff_forall_not_mem.2 ?_) _ _
  rintro ⟨found, length⟩ hfound
  obtain ⟨hdefine, hversion, -⟩ := componentAt?_eq_some hfound
  exact h (hdefine.isInfix.trans hsuffix.isInfix) (hversion.trans hsuffix.isInfix)

/-! ## Matches on their lines -/

/-- What is taken is passed over. -/
theorem componentsFrom_length_append (cs rest : List Char) :
    componentsFrom cs.length (cs ++ rest) = componentsFrom 0 rest := by
  induction cs with
  | nil => rfl
  | cons c cs ih => exact ih

/-- No constant begins inside a word. -/
theorem scanFrom_constantReader_word {word : List Char} (hword : ∀ c ∈ word, isWord c = true)
    (rest : List Char) :
    scanFrom constantReader true 0 (word ++ rest) = scanFrom constantReader true 0 rest := by
  induction word with
  | nil => rfl
  | cons c word ih =>
    rw [List.cons_append, scanFrom_cons_of_none rfl, hword c List.mem_cons_self]
    exact ih fun d hd => hword d (List.mem_cons_of_mem c hd)

section

variable {digits : List Char} (hdigits : ∀ c ∈ digits, c.isDigit = true) (hne : digits ≠ [])
include hdigits hne

theorem Numeral.ofDecimal?_digits : ofDecimal? digits = some (.decimal digits) := by
  have htake : digits.takeWhile isDecimal = digits := by
    refine List.takeWhile_eq_self_iff.2 fun c hc => ?_
    rw [isDecimal, decimalValue?, if_pos (hdigits c hc)]
    rfl
  rw [ofDecimal?, htake]
  exact if_neg fun hempty => hne (List.isEmpty_iff.1 hempty)

theorem Numeral.take?_digits : take? digits = some (.decimal digits) := by
  have hdecimal := ofDecimal?_digits hdigits hne
  rw [take?.eq_def]
  split
  · next x rest =>
    have hx : (x == 'x' || x == 'X') = false := by
      rw [Bool.or_eq_false_iff, beq_eq_false_iff_ne, beq_eq_false_iff_ne]
      have hdigit := hdigits x (List.mem_cons_of_mem _ List.mem_cons_self)
      constructor <;> rintro rfl <;> cases hdigit
    simp only [hx, Bool.false_and]
    exact hdecimal
  · exact hdecimal

theorem takeWhile_isBlank_digits (rest : List Char) :
    (' ' :: (digits ++ rest)).takeWhile isBlank = [' '] := by
  have hdigit : ∀ n < 128, (Char.ofNat n).isDigit = true → isBlank (Char.ofNat n) = false := by
    decide
  obtain ⟨c, more, rfl⟩ := List.exists_cons_of_ne_nil hne
  have hc := hdigits c List.mem_cons_self
  have hblank := of_ascii (p := fun c => c.isDigit = true → isBlank c = false) hdigit
    (toNat_lt_of_isWordChar (by rw [isWordChar, Char.isAlphanum, hc, Bool.or_true]; rfl)) hc
  rw [List.cons_append, List.takeWhile_cons, List.takeWhile_cons, hblank]
  rfl

/-- The constant takes its whole line up to the comma. -/
theorem constantOf?_line (category : Category) {name : List Char}
    (hname : ∀ c ∈ name, isConstantChar c = true) (hname_ne : name ≠ []) :
    constantOf? category (category.headerPrefix.toList ++ (name ++ ' ' :: '=' :: ' ' :: digits))
      = some (⟨category, name, .decimal digits⟩,
        (category.headerPrefix.toList ++ (name ++ ' ' :: '=' :: ' ' :: digits)).length) := by
  have htake : (name ++ ' ' :: '=' :: ' ' :: digits).takeWhile isConstantChar = name := by
    rw [takeWhile_append_cons rfl, List.takeWhile_eq_self_iff.2 hname]
  have hempty : name.isEmpty = false := List.isEmpty_eq_false_iff.2 hname_ne
  have hblanks : (' ' :: '=' :: ' ' :: digits).takeWhile isBlank = [' '] := rfl
  have hmore := takeWhile_isBlank_digits hdigits hne []
  rw [List.append_nil] at hmore
  rw [constantOf?, after?_append_self]
  simp only [bind, Option.bind, htake, hempty, List.drop_left, hblanks, List.length_singleton,
    List.drop_succ_cons, List.drop_zero, hmore, Numeral.take?_digits hdigits hne]
  rw [if_neg Bool.false_ne_true]
  refine congrArg (fun length => some (_, length)) ?_
  simp only [Numeral.length, List.length_append, List.length_cons, String.length_toList]
  omega

/-- A define takes everything up to the end of its line. -/
theorem componentAt?_line {entry : String × Component} (hentry : entry ∈ components)
    (rest : List Char) :
    componentAt? ("#define".toList ++ ' ' :: ("LIBCAMERA_VERSION_".toList ++ (entry.1.toList
      ++ ' ' :: (digits ++ '\n' :: rest))))
      = some ((entry.2, .decimal digits), ("#define".toList ++ ' ' :: ("LIBCAMERA_VERSION_".toList
        ++ (entry.1.toList ++ ' ' :: digits))).length) := by
  have hblank := takeWhile_isBlank_digits hdigits hne ('\n' :: rest)
  have hfind : components.find? (fun other => other.1.toList.isPrefixOf (entry.1.toList
      ++ ' ' :: (digits ++ '\n' :: rest))) = some entry := by
    simp only [components, List.mem_cons, List.not_mem_nil, or_false] at hentry
    rcases hentry with rfl | rfl | rfl <;> rfl
  have hvalue : Numeral.ofDecimal? (digits ++ '\n' :: rest) = some (.decimal digits) := by
    rw [Numeral.ofDecimal?, takeWhile_append_cons rfl]
    exact Numeral.ofDecimal?_digits hdigits hne
  have hfront : (' ' :: ("LIBCAMERA_VERSION_".toList ++ (entry.1.toList
      ++ ' ' :: (digits ++ '\n' :: rest)))).takeWhile isBlank = [' '] := rfl
  have hword : (entry.1.toList ++ ' ' :: (digits ++ '\n' :: rest)).drop entry.1.length
      = ' ' :: (digits ++ '\n' :: rest) := by
    rw [← String.length_toList, List.drop_left]
  rw [componentAt?, after?_append_self]
  simp only [bind, Option.bind, hfront, List.length_singleton, List.drop_succ_cons,
    List.drop_zero, after?_append_self, hfind, hword, hblank, hvalue]
  refine congrArg (fun length => some (_, length)) ?_
  simp only [Numeral.length, List.length_append, List.length_cons]
  omega

/-- After a define the search goes on with the next line. -/
theorem componentsFrom_line {entry : String × Component} (hentry : entry ∈ components)
    (rest : List Char) :
    componentsFrom 0 ("#define".toList ++ ' ' :: ("LIBCAMERA_VERSION_".toList ++ (entry.1.toList
      ++ ' ' :: (digits ++ '\n' :: rest))))
      = (entry.2, .decimal digits) :: componentsFrom 0 rest := by
  have hline := componentAt?_line hdigits hne hentry rest
  have htaken := componentsFrom_length_append ("define".toList ++ ' '
    :: ("LIBCAMERA_VERSION_".toList ++ (entry.1.toList ++ ' ' :: digits))) ('\n' :: rest)
  simp only [List.append_assoc, List.cons_append] at htaken
  have hhash : "#define".toList = '#' :: "define".toList := rfl
  rw [hhash] at hline ⊢
  rw [List.cons_append] at hline ⊢
  rw [componentsFrom, hline]
  exact congrArg (_ :: ·) htaken

end

end ControlSchema.HeaderText
