import ControlSchema.Proofs.Header.Tokens

/-!
# Words and numbers in a header

Outside of its directives a header is made of three kinds of lines: one that opens
an enumeration, one for each constant, and one that closes the enumeration. Their
tokens are the words, numbers and marks that were written. A name may have a line
feed behind it, which its check does not look at; the line is broken there, and
the tokens are the same.
-/

namespace ControlSchema

open Number Text

namespace Translation

/-! ## Lines that are not directives -/

def isDirective (line : List String) : Bool := line.head? == some "#"

/-- The tokens that are not part of a directive. -/
def plainTokens (lines : List (List String)) : List String :=
  (lines.filter fun line => !isDirective line).flatten

theorem plainTokens_append (front back : List (List String)) :
    plainTokens (front ++ back) = plainTokens front ++ plainTokens back := by
  rw [plainTokens, List.filter_append, List.flatten_append]
  rfl

theorem plainTokens_flatMap {α : Type} (f : α → List (List String)) (items : List α) :
    plainTokens (items.flatMap f) = items.flatMap fun item => plainTokens (f item) := by
  induction items with
  | nil => rfl
  | cons item items ih => rw [List.flatMap_cons, plainTokens_append, ih, List.flatMap_cons]

/-! ## Tokens of words and signs -/

theorem tokensFrom_eq_drop (skip : Nat) (cs : List Char) :
    tokensFrom skip cs = tokensFrom 0 (cs.drop skip) := by
  induction cs generalizing skip with
  | nil => cases skip <;> rfl
  | cons c cs ih =>
    cases skip with
    | zero => rfl
    | succ skip => exact ih skip

/-- A token is read where no more than its characters belong to it. -/
theorem tokensFrom_append {c : Char} {cs rest : List Char} (hspace : isSpace c = false)
    (hlength : tokenLength c (cs ++ rest) = cs.length + 1) :
    tokensFrom 0 (c :: cs ++ rest) = String.ofList (c :: cs) :: tokensFrom 0 rest := by
  have hrest : tokensFrom cs.length (cs ++ rest) = tokensFrom 0 rest := by
    rw [tokensFrom_eq_drop, List.drop_left]
  rw [List.cons_append, tokensFrom, hspace, if_neg Bool.false_ne_true, hlength]
  simp only [Nat.add_sub_cancel, List.take_succ_cons, List.take_left, hrest]

theorem tokensFrom_space (rest : List Char) : tokensFrom 0 (' ' :: rest) = tokensFrom 0 rest := rfl

theorem tokensFrom_spaces_append {cs : List Char} (h : ∀ c ∈ cs, c = ' ') (rest : List Char) :
    tokensFrom 0 (cs ++ rest) = tokensFrom 0 rest := by
  induction cs with
  | nil => rfl
  | cons c cs ih =>
    obtain rfl := h c List.mem_cons_self
    exact ih fun d hd => h d (List.mem_cons_of_mem _ hd)

/-- Whether a text goes on with something that is not part of a word or number. -/
def Ends (rest : List Char) : Prop :=
  ∀ c ∈ rest.head?, isWordChar c = false ∧ c ≠ '.' ∧ c ≠ '+' ∧ c ≠ '-'

theorem isSpace_of_isWordChar {c : Char} (h : isWordChar c = true) : isSpace c = false := by
  have hall : ∀ n < 128, isWordChar (Char.ofNat n) = true → isSpace (Char.ofNat n) = false := by
    decide
  exact of_ascii (p := fun c => isWordChar c = true → isSpace c = false) hall
    (toNat_lt_of_isWordChar h) h

theorem isAsciiName_chars {w : List Char} (h : isAsciiName w = true) :
    (∀ c ∈ w, isWordChar c = true) ∧ ∃ c cs, w = c :: cs ∧ c.isDigit = false := by
  cases w with
  | nil => cases h
  | cons c cs =>
    rw [isAsciiName, Bool.and_eq_true, Bool.and_eq_true, Bool.not_eq_true', List.all_eq_true] at h
    exact ⟨List.forall_mem_cons.2 ⟨h.1.1, h.2⟩, c, cs, rfl, h.1.2⟩

theorem isAsciiName_append {w v : List Char} (hw : isAsciiName w = true)
    (hv : ∀ c ∈ v, isWordChar c = true) : isAsciiName (w ++ v) = true := by
  obtain ⟨hchars, c, cs, rfl, hdigit⟩ := isAsciiName_chars hw
  obtain ⟨hc, hcs⟩ := List.forall_mem_cons.1 hchars
  rw [List.cons_append, isAsciiName, hc, hdigit, Bool.not_false, Bool.true_and, Bool.true_and,
    List.all_eq_true]
  exact fun d hd => (List.mem_append.1 hd).elim (hcs d) (hv d)

theorem tokensFrom_word {w rest : List Char} (hw : isAsciiName w = true) (hrest : Ends rest) :
    tokensFrom 0 (w ++ rest) = String.ofList w :: tokensFrom 0 rest := by
  obtain ⟨hchars, c, cs, rfl, hdigit⟩ := isAsciiName_chars hw
  obtain ⟨hc, hcs⟩ := List.forall_mem_cons.1 hchars
  have hpoint : (c == '.') = false := by
    refine beq_eq_false_iff_ne.2 ?_
    rintro rfl
    cases hc
  have hwhile : (cs ++ rest).takeWhile isWordChar = cs := by
    rw [List.takeWhile_append_of_pos hcs]
    cases rest with
    | nil => exact List.append_nil cs
    | cons d rest =>
      rw [List.takeWhile_cons_of_neg (Bool.eq_false_iff.1 (hrest d rfl).1), List.append_nil]
  refine tokensFrom_append (isSpace_of_isWordChar hc) ?_
  rw [tokenLength, hdigit, hpoint, Bool.false_and, Bool.false_or, if_neg Bool.false_ne_true,
    if_pos hc, hwhile, Nat.add_comm]

theorem numberLength_digits {previous : Char} {cs rest : List Char}
    (hcs : ∀ c ∈ cs, c.isDigit = true) (hrest : Ends rest) :
    numberLength previous (cs ++ rest) = cs.length := by
  induction cs generalizing previous with
  | nil =>
    cases rest with
    | nil => rfl
    | cons d rest =>
      obtain ⟨hword, hpoint, hplus, hminus⟩ := hrest d rfl
      rw [List.nil_append, numberLength]
      simp only [hword, beq_eq_false_iff_ne.2 hpoint, beq_eq_false_iff_ne.2 hplus,
        beq_eq_false_iff_ne.2 hminus, Bool.or_self, Bool.false_and]
      rfl
  | cons c cs ih =>
    have hword := Naming.isWordChar_of_isDigit (hcs c List.mem_cons_self)
    rw [List.cons_append, numberLength]
    simp only [hword, Bool.true_or, if_true]
    rw [ih fun d hd => hcs d (List.mem_cons_of_mem c hd), List.length_cons, Nat.add_comm]

theorem tokensFrom_digitsText (n : Nat) {rest : List Char} (hrest : Ends rest) :
    tokensFrom 0 ((digitsText n).toList ++ rest) = digitsText n :: tokensFrom 0 rest := by
  have hdigits := isDigit_digitsText n
  have htext : digitsText n = String.ofList (digitsText n).toList := String.ofList_toList.symm
  rw [htext, String.toList_ofList]
  cases hcs : (digitsText n).toList with
  | nil => exact absurd hcs (digitsText_ne_nil n)
  | cons c cs =>
    rw [hcs] at hdigits
    have hc := hdigits c List.mem_cons_self
    refine tokensFrom_append (isSpace_of_isWordChar (Naming.isWordChar_of_isDigit hc)) ?_
    rw [tokenLength, hc, Bool.true_or, if_pos rfl,
      numberLength_digits (fun d hd => hdigits d (List.mem_cons_of_mem c hd)) hrest, Nat.add_comm]

/-- A character that is a token of its own unless a longer mark begins with it. -/
def isMark (c : Char) : Bool :=
  !isSpace c && !c.isDigit && c != '.' && !isWordChar c && !isQuote c

theorem tokensFrom_mark {c : Char} {rest : List Char} (hc : isMark c = true)
    (hlong : ∀ mark ∈ longMarks, mark.toList.take 2 ≠ c :: rest.take 1) :
    tokensFrom 0 (c :: rest) = String.ofList [c] :: tokensFrom 0 rest := by
  simp only [isMark, Bool.and_eq_true, Bool.not_eq_true', bne_iff_ne] at hc
  obtain ⟨⟨⟨⟨hspace, hdigit⟩, hpoint⟩, hword⟩, hquote⟩ := hc
  have hlength : ∀ mark ∈ longMarks, (mark.toList.take 2).length = 2 := by decide
  have hnone : longMarks.find? (fun mark => mark.toList.isPrefixOf (c :: rest)) = none := by
    refine List.find?_eq_none.2 fun mark hmark hprefix => hlong mark hmark ?_
    have hfront := (List.isPrefixOf_iff_prefix.1 hprefix).take 2
    refine hfront.eq_of_length_le ?_
    rw [hlength mark hmark]
    exact List.length_take_le 2 (c :: rest)
  refine @tokensFrom_append c [] rest hspace ?_
  rw [List.nil_append, tokenLength, hdigit, beq_eq_false_iff_ne.2 hpoint, Bool.false_and,
    Bool.false_or, if_neg Bool.false_ne_true, hword, if_neg Bool.false_ne_true, hquote,
    if_neg Bool.false_ne_true, hnone]
  rfl

end Translation

namespace Header

open Translation

/-! ## Lines of code -/

/-- A name as it stands in code, where the line feed that may be behind it is a blank. -/
def spelled (name : String) : String := String.ofList (Naming.withoutFinalBreak name.toList)

/-- Word characters, and maybe a line feed behind them. -/
def IsSpelt (name : String) : Prop :=
  ∃ w, (∀ c ∈ w, isWordChar c = true) ∧ (name.toList = w ∨ name.toList = w ++ ['\n'])

theorem spelled_of_toList {name : String} {w : List Char} (hw : ∀ c ∈ w, isWordChar c = true)
    (h : name.toList = w ∨ name.toList = w ++ ['\n']) : spelled name = String.ofList w := by
  rcases h with h | h
  · rw [spelled, h, Naming.withoutFinalBreak, if_neg]
    intro hbreak
    cases hw '\n' (List.mem_of_getLast? (beq_iff_eq.1 hbreak))
  · rw [spelled, h, Naming.withoutFinalBreak, List.getLast?_concat, List.dropLast_concat]
    exact congrArg _ (if_pos rfl)

theorem isAsciiName_spelled {front name : String} (hfront : isAsciiName front.toList = true)
    (hname : IsSpelt name) : isAsciiName (front ++ spelled name).toList = true := by
  obtain ⟨w, hw, hbreak⟩ := hname
  rw [spelled_of_toList hw hbreak, String.toList_append, String.toList_ofList]
  exact isAsciiName_append hfront hw

theorem ne_mark {s mark : String} (hs : isAsciiName s.toList = true)
    (hmark : isAsciiName mark.toList = false) : s ≠ mark := by
  rintro rfl
  rw [hs] at hmark
  cases hmark

/-- The tokens of a line of code. -/
def lineCode (line : String) : List String := plainTokens (lineTokens line.toList)

theorem plainTokens_lineTokens {cs : List Char} (hfeed : '\n' ∉ cs)
    (hhash : "#" ∉ tokensFrom 0 cs) : plainTokens (lineTokens cs) = tokensFrom 0 cs := by
  have hdirective : isDirective (tokensFrom 0 cs) = false :=
    beq_eq_false_iff_ne.2 fun heq => hhash (List.mem_of_head? heq)
  rw [lineTokens, splitOn_of_not_mem hfeed, List.map_singleton]
  cases htokens : tokensFrom 0 cs with
  | nil => rfl
  | cons token rest =>
    rw [htokens] at hdirective
    simp [plainTokens, hdirective]

theorem lineCode_of_directive {line : String} (hfeed : '\n' ∉ line.toList)
    (hhash : (tokensFrom 0 line.toList).head? = some "#") : lineCode line = [] := by
  rw [lineCode, lineTokens, splitOn_of_not_mem hfeed, List.map_singleton]
  cases htokens : tokensFrom 0 line.toList with
  | nil => rfl
  | cons token rest =>
    rw [htokens] at hhash
    simp [plainTokens, isDirective, hhash]

/-- A name is one token, be the line broken behind it or not. -/
theorem lineCode_spelt {before front name back : String} {seen : List String}
    (hfront : isAsciiName front.toList = true) (hname : IsSpelt name)
    (hbefore : ∀ rest, tokensFrom 0 (before.toList ++ rest) = seen ++ tokensFrom 0 rest)
    (hback : Ends back.toList) (hfeed : '\n' ∉ before.toList ∧ '\n' ∉ back.toList)
    (hhash : "#" ∉ seen ∧ "#" ∉ tokensFrom 0 back.toList) :
    lineCode (before ++ (front ++ name) ++ back)
      = seen ++ (front ++ spelled name) :: tokensFrom 0 back.toList := by
  obtain ⟨v, hv, hbreak⟩ := hname
  have hword := isAsciiName_append hfront hv
  have hspelled : front ++ spelled name = String.ofList (front.toList ++ v) := by
    rw [spelled_of_toList hv hbreak, String.ofList_append, String.ofList_toList]
  have hbreak : (front ++ name).toList = front.toList ++ v
      ∨ (front ++ name).toList = (front.toList ++ v) ++ ['\n'] := by
    rw [String.toList_append, List.append_assoc]
    exact hbreak.imp (congrArg _) (congrArg _)
  rw [hspelled]
  generalize front.toList ++ v = w at hword hbreak ⊢
  have hwhash : String.ofList w ≠ "#" := ne_mark (by rwa [String.toList_ofList]) (by decide)
  have hwfeed : '\n' ∉ before.toList ++ w := by
    rw [List.mem_append, not_or]
    exact ⟨hfeed.1, fun hmem => by cases (isAsciiName_chars hword).1 _ hmem⟩
  rw [lineCode, String.toList_append, String.toList_append]
  rcases hbreak with hbreak | hbreak
  · have htokens : tokensFrom 0 (before.toList ++ w ++ back.toList)
        = seen ++ String.ofList w :: tokensFrom 0 back.toList := by
      rw [List.append_assoc, hbefore, tokensFrom_word hword hback]
    rw [hbreak, ← htokens]
    refine plainTokens_lineTokens ?_ ?_
    · rw [List.mem_append, not_or]
      exact ⟨hwfeed, hfeed.2⟩
    · rw [htokens, List.mem_append, List.mem_cons, not_or, not_or]
      exact ⟨hhash.1, hwhash.symm, hhash.2⟩
  · have htokens : tokensFrom 0 (before.toList ++ w) = seen ++ [String.ofList w] := by
      rw [hbefore]
      refine congrArg _ ?_
      rw [← List.append_nil w, tokensFrom_word hword (fun c hc => by cases hc), List.append_nil]
      rfl
    have hfirst : "#" ∉ tokensFrom 0 (before.toList ++ w) := by
      rw [htokens, List.mem_append, List.mem_singleton, not_or]
      exact ⟨hhash.1, hwhash.symm⟩
    have hsplit : before.toList ++ (w ++ ['\n']) ++ back.toList
        = (before.toList ++ w) ++ '\n' :: back.toList := by
      simp only [List.append_assoc, List.cons_append, List.nil_append]
    rw [hbreak, hsplit, lineTokens_append, plainTokens_append, plainTokens_lineTokens hwfeed hfirst,
      plainTokens_lineTokens hfeed.2 hhash.2, htokens, List.append_assoc]
    rfl

/-! ## Values -/

/-- The tokens of a number, whose sign is a token of its own. -/
def valueTokens (n : Int) : List String :=
  if n < 0 then ["-", digitsText n.natAbs] else [digitsText n.natAbs]

theorem tokensFrom_value (n : Int) :
    tokensFrom 0 (" = " ++ intText n ++ ",").toList = "=" :: (valueTokens n ++ [","]) := by
  have hcomma : ∀ mark ∈ longMarks, mark.toList.take 2 ≠ [','] := by decide
  have hequal : ∀ mark ∈ longMarks, mark.toList.take 2 ≠ ['=', ' '] := by decide
  have hmarks : ∀ mark ∈ longMarks, mark.toList.all (fun c => !c.isDigit) = true := by
    decide
  have hends : Ends ",".toList := by
    intro c hc
    obtain rfl := Option.some.inj hc
    decide
  have hdigits (k : Nat) :
      tokensFrom 0 ((digitsText k).toList ++ ",".toList) = [digitsText k, ","] := by
    rw [tokensFrom_digitsText k hends]
    exact congrArg _ (@tokensFrom_mark ',' [] rfl hcomma)
  have hnumber : tokensFrom 0 ((intText n).toList ++ ",".toList) = valueTokens n ++ [","] := by
    rw [intText, valueTokens]
    split
    · have hminus : ∀ mark ∈ longMarks,
          mark.toList.take 2 ≠ '-' :: ((digitsText n.natAbs).toList ++ ",".toList).take 1 := by
        intro mark hmark heq
        obtain ⟨c, cs, hcs⟩ := List.exists_cons_of_ne_nil (digitsText_ne_nil n.natAbs)
        have hdigit : c.isDigit = true :=
          isDigit_digitsText n.natAbs c (by rw [hcs]; exact List.mem_cons_self)
        rw [hcs] at heq
        have hmem : c ∈ mark.toList.take 2 := by
          rw [heq]
          exact List.mem_cons_of_mem _ List.mem_cons_self
        exact not_mem_of_all (hmarks mark hmark) hdigit (List.mem_of_mem_take hmem)
      rw [String.toList_append, List.append_assoc]
      refine (@tokensFrom_mark '-' _ rfl hminus).trans ?_
      rw [hdigits]
      rfl
    · exact hdigits _
  rw [String.toList_append, String.toList_append, List.append_assoc]
  refine (tokensFrom_space _).trans ((@tokensFrom_mark '=' (' ' :: _) rfl hequal).trans ?_)
  exact congrArg (List.cons "=") ((tokensFrom_space _).trans hnumber)

theorem valueTokens_ne {n : Int} :
    ∀ token ∈ valueTokens n, token ≠ "," ∧ token ≠ "\x7d" ∧ token ≠ "#" := by
  have hdigits (k : Nat) {mark : String} (h : mark.toList.all Char.isDigit = false) :
      digitsText k ≠ mark := by
    rintro rfl
    rw [List.all_eq_true.2 (isDigit_digitsText k)] at h
    cases h
  have hall (k : Nat) :
      digitsText k ≠ "," ∧ digitsText k ≠ "\x7d" ∧ digitsText k ≠ "#" :=
    ⟨hdigits k (by decide), hdigits k (by decide), hdigits k (by decide)⟩
  intro token htoken
  rw [valueTokens] at htoken
  split at htoken
  · rcases List.mem_cons.1 htoken with rfl | htoken
    · decide
    · rw [List.mem_singleton.1 htoken]
      exact hall _
  · rw [List.mem_singleton.1 htoken]
    exact hall _

/-! ## Lines with names and numbers -/

theorem lineCode_constant {front name : String} (hfront : isAsciiName front.toList = true)
    (hname : IsSpelt name) (n : Int) :
    lineCode (innerIndent ++ (front ++ name) ++ " = " ++ intText n ++ ",")
      = (front ++ spelled name) :: "=" :: (valueTokens n ++ [","]) := by
  have hback : (" = " ++ intText n ++ ",").toList
      = ' ' :: '=' :: ' ' :: ((intText n).toList ++ [',']) := by
    rw [String.toList_append, String.toList_append, String.toList_ofList, String.toList_ofList]
    rfl
  have hends : Ends (" = " ++ intText n ++ ",").toList := by
    intro c hc
    rw [hback] at hc
    obtain rfl := Option.some.inj hc
    decide
  have hfeed : '\n' ∉ (" = " ++ intText n ++ ",").toList := by
    intro hmem
    have hnumber : '\n' ∉ (intText n).toList := fun hmem => by
      rcases intText_chars n _ hmem with h | h <;> cases h
    rw [hback] at hmem
    simp [hnumber] at hmem
  have hhash : "#" ∉ tokensFrom 0 (" = " ++ intText n ++ ",").toList := by
    rw [tokensFrom_value, List.mem_cons, List.mem_append, List.mem_singleton, not_or, not_or]
    exact ⟨by decide, fun hmem => (valueTokens_ne _ hmem).2.2 rfl, by decide⟩
  have hline : innerIndent ++ (front ++ name) ++ " = " ++ intText n ++ ","
      = innerIndent ++ (front ++ name) ++ (" = " ++ intText n ++ ",") := by
    simp only [String.append_assoc]
  have hindent := eq_space_of_mem_innerIndent
  have hbefore (rest : List Char) :
      tokensFrom 0 (innerIndent.toList ++ rest) = [] ++ tokensFrom 0 rest :=
    tokensFrom_spaces_append hindent rest
  rw [hline, lineCode_spelt hfront hname hbefore hends
    ⟨fun hmem => absurd (hindent _ hmem) (by decide), hfeed⟩ ⟨List.not_mem_nil, hhash⟩,
    tokensFrom_value]
  rfl

theorem lineCode_define {front : String} (hfront : front.toList.take 2 = ['#', 'd'])
    (hfeed : '\n' ∉ front.toList) (n : Nat) : lineCode (front ++ digitsText n) = [] := by
  have hlong : ∀ mark ∈ longMarks, mark.toList.take 2 ≠ ['#', 'd'] := by decide
  obtain ⟨rest, hrest⟩ : ∃ rest, front.toList = '#' :: 'd' :: rest :=
    ⟨_, (List.take_append_drop 2 front.toList).symm.trans (by rw [hfront]; rfl)⟩
  refine lineCode_of_directive ?_ ?_
  · rw [String.toList_append, List.mem_append, not_or]
    exact ⟨hfeed, fun hmem => by cases isDigit_digitsText n _ hmem⟩
  · rw [String.toList_append, hrest, List.cons_append, tokensFrom_mark rfl hlong]
    rfl

end Header

end ControlSchema
