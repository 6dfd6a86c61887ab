import ControlSchema.Proofs.Text.Ascii
import Mathlib.Data.List.Chain

/-!
# Reading back typeset tokens

Generated source is set in one way: a blank stands behind a comma or a colon,
around a sign of equality or an arrow, between two words, and nowhere else.
`typeset` says so, and the theorem about it is that the reader finds the same
tokens again, with the blanks between them.

Each lexeme is the longest that begins where it does, so a token is found again
when the character behind it cannot belong to it. For words and numbers that
is a character class; for a symbol it is the question whether a longer symbol
begins with it, and the table of symbols answers it because no symbol stands
behind one that it begins with.
-/

namespace ControlSchema.Source

open Text

/-! ## One lexeme after another -/

namespace Lexeme

theorem readFrom_eq_drop (taken : Nat) (cs : List Char) :
    readFrom taken cs = readFrom 0 (cs.drop taken) := by
  induction taken generalizing cs with
  | zero => rfl
  | succ taken ih =>
    cases cs with
    | nil => rw [List.drop_nil, readFrom, readFrom]
    | cons c rest => rw [readFrom, List.drop_succ_cons, ih]

/-- A lexeme that is found in front of a text is taken off it. -/
theorem readFrom_append {l : Lexeme} {rest : List Char} (hne : l.spelling ≠ [])
    (h : front? (l.spelling ++ rest) = some l) :
    readFrom 0 (l.spelling ++ rest) = (readFrom 0 rest).map (l :: ·) := by
  obtain ⟨c, cs, hspell⟩ := List.exists_cons_of_ne_nil hne
  have hdrop : (cs ++ rest).drop (l.spelling.length - 1) = rest := by
    rw [hspell]
    exact List.drop_left
  rw [hspell, List.cons_append] at h ⊢
  rw [readFrom, h]
  simp only [Option.bind_eq_bind, Option.bind_some, Option.pure_def]
  rw [readFrom_eq_drop, hdrop]
  cases readFrom 0 rest <;> rfl

theorem readFrom_lineBreak (rest : List Char) :
    readFrom 0 ('\n' :: rest) = (readFrom 0 rest).map (.lineBreak :: ·) :=
  @readFrom_append .lineBreak rest (List.cons_ne_nil _ _) rfl

theorem takeWhile_append_of_head {p : Char → Bool} {cs rest : List Char}
    (hcs : ∀ c ∈ cs, p c = true) (hrest : ∀ c ∈ rest.head?, p c = false) :
    (cs ++ rest).takeWhile p = cs := by
  rw [List.takeWhile_append_of_pos hcs]
  cases rest with
  | nil => simp
  | cons c rest => simp [hrest c rfl]

theorem readFrom_blanks {cs rest : List Char} (hne : cs ≠ []) (hcs : ∀ c ∈ cs, c = ' ')
    (hrest : ∀ c ∈ rest.head?, isSpace c = false) :
    readFrom 0 (cs ++ rest) = (readFrom 0 rest).map (.blanks cs :: ·) := by
  have hspace : ∀ c ∈ cs, isSpace c = true := fun c hc => by rw [hcs c hc]; rfl
  refine @readFrom_append (.blanks cs) rest hne ?_
  show front? (cs ++ rest) = _
  obtain ⟨c, more, rfl⟩ := List.exists_cons_of_ne_nil hne
  obtain rfl := hcs c List.mem_cons_self
  have htake := takeWhile_append_of_head hspace hrest
  show some (Lexeme.blanks ((' ' :: more ++ rest).takeWhile isSpace)) = _
  rw [htake]

/-- A comment takes up the rest of its line. -/
theorem readFrom_comment {cs : List Char} (hcs : '\n' ∉ cs) (rest : List Char) :
    readFrom 0 ('#' :: cs ++ '\n' :: rest)
      = (readFrom 0 ('\n' :: rest)).map (.comment ('#' :: cs) :: ·) := by
  refine @readFrom_append (.comment ('#' :: cs)) ('\n' :: rest) (List.cons_ne_nil _ _) ?_
  have hline : ∀ c ∈ '#' :: cs, (c != '\n') = true := by
    intro c hc
    rcases List.mem_cons.1 hc with rfl | hc
    · rfl
    · exact bne_iff_ne.2 fun h => hcs (h ▸ hc)
  have htake := @takeWhile_append_of_head (· != '\n') ('#' :: cs) ('\n' :: rest) hline (by simp)
  show some (Lexeme.comment (('#' :: cs ++ '\n' :: rest).takeWhile (· != '\n'))) = _
  rw [htake]

end Lexeme

/-! ## Symbols -/

/-- Whether some symbol goes on behind another with the character. -/
def extendsSymbol (s : String) (c : Char) : Bool :=
  Lexeme.symbols.any fun t => (s.toList ++ [c]).isPrefixOf t.toList

/-- The table of symbols, character by character. -/
def symbolChars : List (List Char) := [
  ['.', '.', '.'], ['*', '*', '='], ['/', '/', '='], ['<', '<', '='], ['>', '>', '='], ['-', '>'],
  ['=', '='], ['!', '='], ['<', '='], ['>', '='], [':', '='], ['+', '='], ['-', '='], ['*', '='],
  ['/', '='], ['%', '='], ['@', '='], ['&', '='], ['|', '='], ['^', '='], ['*', '*'], ['/', '/'],
  ['<', '<'], ['>', '>'], ['('], [')'], ['['], [']'], ['\x7b'], ['\x7d'], [','], [':'], ['.'],
  [';'], ['@'], ['='], ['+'], ['-'], ['*'], ['/'], ['%'], ['&'], ['|'], ['^'], ['~'], ['<'], ['>']]

theorem mem_symbolChars {s : String} (hs : s ∈ Lexeme.symbols) : s.toList ∈ symbolChars :=
  toList_mem_of_eq_map rfl hs

theorem symbols_pairwise :
    Lexeme.symbols.Pairwise fun s t => ¬ s.toList <+: t.toList := by
  have hchars : symbolChars.Pairwise fun cs ds => ¬ cs <+: ds := by decide
  have htable : Lexeme.symbols = symbolChars.map String.ofList := rfl
  rw [htable, List.pairwise_map]
  simpa only [String.toList_ofList] using hchars

theorem find?_symbol {s : String} (hs : s ∈ Lexeme.symbols) {rest : List Char}
    (hrest : ∀ c ∈ rest.head?, extendsSymbol s c = false) :
    (Lexeme.symbols.find? fun t => t.toList.isPrefixOf (s.toList ++ rest)) = some s := by
  obtain ⟨front, back, hsplit⟩ := List.append_of_mem hs
  rw [List.find?_eq_some_iff_append]
  refine ⟨List.isPrefixOf_iff_prefix.2 (List.prefix_append _ _), front, back, hsplit, ?_⟩
  intro t ht
  have hbefore : ¬ t.toList <+: s.toList := by
    have hpair := symbols_pairwise
    rw [hsplit] at hpair
    exact (List.pairwise_append.1 hpair).2.2 t ht s List.mem_cons_self
  rw [Bool.not_eq_true', Bool.eq_false_iff, ne_eq, List.isPrefixOf_iff_prefix]
  intro hprefix
  rcases List.prefix_or_prefix_of_prefix hprefix (List.prefix_append _ _) with h | ⟨more, hmore⟩
  · exact hbefore h
  -- the earlier symbol goes on behind this one, with what stands there
  cases more with
  | nil => exact hbefore ⟨[], by rw [List.append_nil, ← hmore, List.append_nil]⟩
  | cons c more =>
    rw [← hmore, List.prefix_append_right_inj] at hprefix
    obtain ⟨after, rfl⟩ := hprefix
    have hext : extendsSymbol s c = true := by
      refine List.any_eq_true.2 ⟨t, hsplit ▸ List.mem_append_left _ ht, ?_⟩
      rw [List.isPrefixOf_iff_prefix, ← hmore]
      exact ⟨more, by simp⟩
    rw [hrest c rfl] at hext
    cases hext

/-! ## Tokens -/

/-- The tokens that generated source is made of, apart from the symbols' table. -/
inductive Token.Sound : Token → Prop
  | word {w : String} (hw : isAsciiName w.toList = true) : Token.Sound (.word w)
  | number {n : String} (hne : n.toList ≠ []) (hn : ∀ c ∈ n.toList, c.isDigit = true) :
    Token.Sound (.number n)
  | literal {l : Literal} (hletters : l.letters = []) (hmark : Literal.isMark l.mark = true)
    (hclosed : ∀ rest, Literal.front? [] (l.spelling ++ rest) = some l)
    (hreturn : '\r' ∉ l.body) : Token.Sound (.literal l)
  | symbol {s : String} (hs : s ∈ Lexeme.symbols) : Token.Sound (.symbol s)

/-- Whether a token ends in front of the character. -/
def Token.ends (t : Token) (c : Char) : Bool :=
  match t with
  | .word _ => !isNameRest c && !Literal.isMark c
  | .number _ => !Lexeme.isNumberChar c
  | .literal _ => true
  | .symbol s => !extendsSymbol s c

theorem Lexeme.front?_of_plain {c : Char} (hbreak : c ≠ '\n') (hslash : c ≠ '\\')
    (hspace : isSpace c = false) (hhash : c ≠ '#') (rest : List Char) :
    front? (c :: rest) = (frontToken? (c :: rest)).map .token := by
  rw [front?]
  · rw [hspace, if_neg Bool.false_ne_true, if_neg]
    rwa [beq_iff_eq]
  · exact hbreak
  · intro more h
    exact absurd h hslash

/-- What the first character of a symbol is not. -/
structure SymbolHeadFacts (c : Char) : Prop where
  not_break : c ≠ '\n'
  not_backslash : c ≠ '\\'
  not_space : Lexeme.isSpace c = false
  not_hash : c ≠ '#'
  not_mark : Literal.isMark c = false
  not_digit : c.isDigit = false
  not_start : isNameStart c = false
  not_rest : isNameRest c = false

theorem symbolHead_facts {s : String} (hs : s ∈ Lexeme.symbols) :
    ∃ c cs, s.toList = c :: cs ∧ SymbolHeadFacts c := by
  have hall : ∀ cs ∈ symbolChars, cs.head?.any (fun c => c != '\n' && c != '\\' &&
      !Lexeme.isSpace c && c != '#' && !Literal.isMark c && !c.isDigit && !isNameStart c &&
      !isNameRest c) = true := by decide
  have hhead := hall _ (mem_symbolChars hs)
  cases hlist : s.toList with
  | nil => rw [hlist] at hhead; cases hhead
  | cons c cs =>
    rw [hlist] at hhead
    simp only [List.head?_cons, Option.any_some, Bool.and_eq_true, bne_iff_ne, ne_eq,
      Bool.not_eq_true'] at hhead
    obtain ⟨⟨⟨⟨⟨⟨⟨h1, h2⟩, h3⟩, h4⟩, h5⟩, h6⟩, h7⟩, h8⟩ := hhead
    exact ⟨c, cs, rfl, ⟨h1, h2, h3, h4, h5, h6, h7, h8⟩⟩

theorem isAsciiName_cons {w : List Char} (h : isAsciiName w = true) :
    ∃ c cs, w = c :: cs ∧ isWordChar c = true ∧ c.isDigit = false ∧
      ∀ d ∈ cs, isWordChar d = true := by
  cases w with
  | nil => cases h
  | cons c cs =>
    simp only [isAsciiName, Bool.and_eq_true, Bool.not_eq_true', List.all_eq_true] at h
    exact ⟨c, cs, rfl, h.1.1, h.1.2, h.2⟩

theorem nameRest_of_isAsciiName {w : List Char} (h : isAsciiName w = true) :
    ∀ c ∈ w, isNameRest c = true := by
  obtain ⟨c, cs, rfl, hc, -, hcs⟩ := isAsciiName_cons h
  intro d hd
  rcases List.mem_cons.1 hd with rfl | hd
  · exact (isWordChar_facts hc).nameRest
  · exact (isWordChar_facts (hcs d hd)).nameRest

theorem isWordChar_of_isDigit {c : Char} (h : c.isDigit = true) : isWordChar c = true := by
  simp [isWordChar, Char.isAlphanum, h]

theorem Token.Sound.spelling_ne_nil {t : Token} (ht : t.Sound) : t.spelling ≠ [] := by
  cases ht with
  | word hw =>
    obtain ⟨c, cs, h, -⟩ := isAsciiName_cons hw
    rw [Token.spelling, h]
    exact List.cons_ne_nil _ _
  | number hne hn => exact hne
  | @literal l hletters hmark hclosed hreturn =>
    rw [Token.spelling, Literal.spelling, Literal.marks]
    split <;> simp
  | symbol hs =>
    obtain ⟨c, cs, h, -⟩ := symbolHead_facts hs
    rw [Token.spelling, h]
    exact List.cons_ne_nil _ _

theorem frontToken?_word {w : String} (hw : isAsciiName w.toList = true) {rest : List Char}
    (hrest : ∀ c ∈ rest.head?, Token.ends (.word w) c = true) :
    Lexeme.frontToken? (w.toList ++ rest) = some (.word w) := by
  have hends : ∀ c ∈ rest.head?, isNameRest c = false ∧ Literal.isMark c = false := by
    intro c hc
    have := hrest c hc
    rwa [Token.ends, Bool.and_eq_true, Bool.not_eq_true', Bool.not_eq_true'] at this
  have htake : (w.toList ++ rest).takeWhile isNameRest = w.toList :=
    Lexeme.takeWhile_append_of_head (nameRest_of_isAsciiName hw) fun c hc => (hends c hc).1
  have hmark : rest.head?.any Literal.isMark = false := by
    cases rest with
    | nil => rfl
    | cons c rest => exact (hends c rfl).2
  obtain ⟨c, cs, hcons, hc, hdigit, -⟩ := isAsciiName_cons hw
  have hfacts := isWordChar_facts hc
  rw [hcons, List.cons_append] at htake
  rw [hcons, List.cons_append, Lexeme.frontToken?]
  simp only [hfacts.not_mark, hdigit, hfacts.nameStart hdigit, Lexeme.word, htake,
    Bool.false_eq_true, if_false, if_true]
  rw [← List.cons_append, List.drop_left, hmark, Bool.and_false, if_neg Bool.false_ne_true,
    ← hcons, String.ofList_toList]

theorem frontToken?_number {n : String} (hne : n.toList ≠ [])
    (hn : ∀ c ∈ n.toList, c.isDigit = true) {rest : List Char}
    (hrest : ∀ c ∈ rest.head?, Token.ends (.number n) c = true) :
    Lexeme.frontToken? (n.toList ++ rest) = some (.number n) := by
  have hchars : ∀ c ∈ n.toList, Lexeme.isNumberChar c = true := by
    intro c hc
    rw [Lexeme.isNumberChar, (isWordChar_facts (isWordChar_of_isDigit (hn c hc))).nameRest,
      Bool.true_or]
  have htake := Lexeme.takeWhile_append_of_head hchars fun c hc => by
    have := hrest c hc
    rwa [Token.ends, Bool.not_eq_true'] at this
  obtain ⟨c, cs, hcons⟩ := List.exists_cons_of_ne_nil hne
  have hdigit : c.isDigit = true := hn c (by rw [hcons]; exact List.mem_cons_self)
  rw [hcons, List.cons_append] at htake
  rw [hcons, List.cons_append, Lexeme.frontToken?]
  simp only [(isWordChar_facts (isWordChar_of_isDigit hdigit)).not_mark, hdigit, htake,
    Bool.false_eq_true, if_false, if_true]
  rw [← hcons, String.ofList_toList]

/-- A sound token is found in front of any text that it ends before. -/
theorem front?_token {t : Token} (ht : t.Sound) {rest : List Char}
    (hrest : ∀ c ∈ rest.head?, t.ends c = true) :
    Lexeme.front? (t.spelling ++ rest) = some (.token t) := by
  cases ht with
  | @word w hw =>
    obtain ⟨c, cs, hcons, hc, -⟩ := isAsciiName_cons hw
    have hfacts := isWordChar_facts hc
    have hfront := frontToken?_word hw hrest
    rw [hcons, List.cons_append] at hfront
    rw [Token.spelling, hcons, List.cons_append, Lexeme.front?_of_plain
      (fun h => by rw [h] at hfacts; exact absurd hfacts.not_break (by decide))
      hfacts.not_backslash hfacts.not_space hfacts.not_hash, hfront]
    rfl
  | @number n hne hn =>
    obtain ⟨c, cs, hcons⟩ := List.exists_cons_of_ne_nil hne
    have hdigit : c.isDigit = true := hn c (by rw [hcons]; exact List.mem_cons_self)
    have hfacts := isWordChar_facts (isWordChar_of_isDigit hdigit)
    have hfront := frontToken?_number hne hn hrest
    rw [hcons, List.cons_append] at hfront
    rw [Token.spelling, hcons, List.cons_append, Lexeme.front?_of_plain
      (fun h => by rw [h] at hfacts; exact absurd hfacts.not_break (by decide))
      hfacts.not_backslash hfacts.not_space hfacts.not_hash, hfront]
    rfl
  | @literal l hletters hmark hclosed hreturn =>
    have hspell : ∃ cs, l.spelling ++ rest = l.mark :: cs := by
      rw [Literal.spelling, hletters, Literal.marks]
      split <;> exact ⟨_, rfl⟩
    obtain ⟨cs, hcons⟩ := hspell
    have hfront := hclosed rest
    have hplain : l.mark ≠ '\n' ∧ l.mark ≠ '\\' ∧ Lexeme.isSpace l.mark = false ∧ l.mark ≠ '#' := by
      rw [Literal.isMark, Bool.or_eq_true, beq_iff_eq, beq_iff_eq] at hmark
      rcases hmark with h | h <;> rw [h] <;> decide
    rw [hcons] at hfront
    rw [Token.spelling, hcons, Lexeme.front?_of_plain hplain.1 hplain.2.1 hplain.2.2.1 hplain.2.2.2,
      Lexeme.frontToken?, if_pos hmark, hfront]
    rfl
  | @symbol s hs =>
    obtain ⟨c, cs, hcons, hfacts⟩ := symbolHead_facts hs
    have hfind := find?_symbol hs fun c hc => by
      have := hrest c hc
      rwa [Token.ends, Bool.not_eq_true'] at this
    rw [hcons, List.cons_append] at hfind
    rw [Token.spelling, hcons, List.cons_append, Lexeme.front?_of_plain hfacts.not_break
      hfacts.not_backslash hfacts.not_space hfacts.not_hash, Lexeme.frontToken?]
    simp only [hfacts.not_mark, hfacts.not_digit, hfacts.not_start, Bool.false_eq_true, if_false,
      hfind]
    rfl

/-! ## Setting tokens -/

/-- Whether a blank stands between two tokens. -/
def gap : Token → Token → Bool
  | .word _, .word _ => true
  | .symbol s, .symbol t => [",", ":", "=", "->"].contains s
      || ([")", "]"].contains s && ["=", "->"].contains t)
  | .symbol s, _ => [",", ":", "=", "->"].contains s
  | _, .symbol s => ["=", "->"].contains s
  | _, _ => false

/-- Whether two tokens that stand side by side are told apart. -/
def joins : Token → Token → Bool
  | .word _, .symbol _ | .literal _, .symbol _ => true
  | .number _, .symbol s => !([".", "..."].contains s)
  | .symbol _, .word _ | .symbol _, .number _ | .symbol _, .literal _ => true
  | .symbol s, .symbol _ => ["(", ")", "[", "]", "\x7b", "\x7d", "..."].contains s
  | _, _ => false

/-- The characters of some tokens. -/
def typeset : List Token → List Char
  | [] => []
  | [t] => t.spelling
  | t :: u :: rest => t.spelling ++ (if gap t u then [' '] else []) ++ typeset (u :: rest)

/-- The lexemes that such characters are. -/
def typesetLexemes : List Token → List Lexeme
  | [] => []
  | [t] => [.token t]
  | t :: u :: rest =>
    .token t :: (if gap t u then [.blanks [' ']] else []) ++ typesetLexemes (u :: rest)

/-- Whether all neighbours are told apart. -/
def allJoined : List Token → Bool
  | t :: u :: rest => (gap t u || joins t u) && allJoined (u :: rest)
  | _ => true

theorem extendsSymbol_of_not_mem {s : String} {c : Char}
    (h : ∀ cs ∈ symbolChars, c ∉ cs.tail) (hs : s ∈ Lexeme.symbols) :
    extendsSymbol s c = false := by
  rw [extendsSymbol, List.any_eq_false]
  intro t ht hprefix
  obtain ⟨d, cs, hcons, -⟩ := symbolHead_facts hs
  obtain ⟨more, hmore⟩ := List.isPrefixOf_iff_prefix.1 hprefix
  refine h _ (mem_symbolChars ht) ?_
  rw [← hmore, hcons]
  simp

/-- A blank ends everything. -/
theorem ends_blank {t : Token} (ht : t.Sound) : t.ends ' ' = true := by
  cases ht with
  | word => rfl
  | number => rfl
  | literal => rfl
  | symbol hs =>
    rw [Token.ends, extendsSymbol_of_not_mem (by decide) hs]
    rfl

theorem ends_lineBreak {t : Token} (ht : t.Sound) : t.ends '\n' = true := by
  cases ht with
  | word => rfl
  | number => rfl
  | literal => rfl
  | symbol hs =>
    rw [Token.ends, extendsSymbol_of_not_mem (by decide) hs]
    rfl

/-- No word, number or literal goes on with a symbol's second character. -/
theorem extendsSymbol_of_head {s : String} (hs : s ∈ Lexeme.symbols) {c : Char}
    (hc : isWordChar c = true ∨ Literal.isMark c = true) : extendsSymbol s c = false := by
  refine extendsSymbol_of_not_mem (fun cs hcs hmem => ?_) hs
  have hall : (symbolChars.all fun cs => cs.tail.all fun c =>
      !isWordChar c && !Literal.isMark c) = true := by decide
  have := List.all_eq_true.1 (List.all_eq_true.1 hall cs hcs) c hmem
  rw [Bool.and_eq_true, Bool.not_eq_true', Bool.not_eq_true'] at this
  rcases hc with hc | hc
  · rw [hc] at this
    exact Bool.noConfusion this.1
  · rw [hc] at this
    exact Bool.noConfusion this.2

/-- Nothing goes on behind a bracket. -/
theorem extendsSymbol_bracket {s : String}
    (hs : ["(", ")", "[", "]", "\x7b", "\x7d", "..."].contains s = true) (c : Char) :
    extendsSymbol s c = false := by
  have hall : ∀ cs ∈ [['('], [')'], ['['], [']'], ['\x7b'], ['\x7d'], ['.', '.', '.']],
      ∀ ds ∈ symbolChars, cs.isPrefixOf ds = true → ds.length = cs.length := by decide
  rw [extendsSymbol, List.any_eq_false]
  intro t ht hprefix
  have hprefix := List.isPrefixOf_iff_prefix.1 hprefix
  have hlength := hall _ (toList_mem_of_eq_map rfl (List.contains_iff_mem.1 hs)) _
    (mem_symbolChars ht) (List.isPrefixOf_iff_prefix.2 ((List.prefix_append _ _).trans hprefix))
  have hle := hprefix.length_le
  rw [List.length_append, hlength, List.length_singleton] at hle
  omega

theorem ends_of_joins {t u : Token} (ht : t.Sound) (hu : u.Sound) (hjoins : joins t u = true) :
    ∀ c ∈ u.spelling.head?, t.ends c = true := by
  intro c hc
  cases ht with
  | literal => rfl
  | word hw =>
    cases hu with
    | word | number | literal => cases hjoins
    | symbol hs =>
      obtain ⟨d, cs, hcons, hfacts⟩ := symbolHead_facts hs
      rw [Token.spelling, hcons] at hc
      cases hc
      rw [Token.ends, hfacts.not_rest, hfacts.not_mark]
      rfl
  | number hne hn =>
    cases hu with
    | word | number | literal => cases hjoins
    | @symbol s hs =>
      have hall : ∀ cs ∈ symbolChars, cs ∉ [['.'], ['.', '.', '.']] →
          cs.head?.all (fun c => !Lexeme.isNumberChar c) = true := by decide
      have hpoints : s.toList ∉ [['.'], ['.', '.', '.']] := by
        intro hmem
        have hpoint : [".", "..."].contains s = true :=
          List.contains_iff_mem.2 (mem_of_toList_mem rfl hmem)
        rw [joins, hpoint] at hjoins
        cases hjoins
      have hhead := hall _ (mem_symbolChars hs) hpoints
      rw [Token.spelling] at hc
      rw [Option.mem_def.1 hc] at hhead
      exact hhead
  | @symbol s hs =>
    rw [Token.ends, Bool.not_eq_true']
    cases hu with
    | word hw =>
      obtain ⟨d, cs, hcons, hd, -⟩ := isAsciiName_cons hw
      rw [Token.spelling, hcons] at hc
      cases hc
      exact extendsSymbol_of_head hs (Or.inl hd)
    | number hne hn =>
      exact extendsSymbol_of_head hs
        (Or.inl (isWordChar_of_isDigit (hn c (List.mem_of_mem_head? hc))))
    | @literal l hletters hmark hclosed hreturn =>
      have hhead : l.spelling.head? = some l.mark := by
        rw [Literal.spelling, hletters, Literal.marks]
        split <;> rfl
      rw [Token.spelling, hhead] at hc
      cases hc
      exact extendsSymbol_of_head hs (Or.inr hmark)
    | symbol hu => exact extendsSymbol_bracket hjoins c

theorem head?_typeset {t : Token} (ht : t.Sound) (rest : List Token) :
    (typeset (t :: rest)).head? = t.spelling.head? := by
  obtain ⟨c, cs, hcons⟩ := List.exists_cons_of_ne_nil ht.spelling_ne_nil
  cases rest with
  | nil => rw [typeset]
  | cons u rest => rw [typeset, hcons, List.append_assoc, List.cons_append, List.head?_cons,
      List.head?_cons]

theorem Token.Sound.head_not_space {t : Token} (ht : t.Sound) :
    ∀ c ∈ t.spelling.head?, Lexeme.isSpace c = false := by
  intro c hc
  cases ht with
  | word hw =>
    obtain ⟨d, cs, hcons, hd, -⟩ := isAsciiName_cons hw
    rw [Token.spelling, hcons] at hc
    cases hc
    exact (isWordChar_facts hd).not_space
  | number hne hn =>
    exact (isWordChar_facts (isWordChar_of_isDigit (hn c (List.mem_of_mem_head? hc)))).not_space
  | @literal l hletters hmark hclosed hreturn =>
    have hhead : l.spelling.head? = some l.mark := by
      rw [Literal.spelling, hletters, Literal.marks]
      split <;> rfl
    rw [Token.spelling, hhead] at hc
    cases hc
    rw [Literal.isMark, Bool.or_eq_true, beq_iff_eq, beq_iff_eq] at hmark
    rcases hmark with h | h <;> rw [h] <;> rfl
  | symbol hs =>
    obtain ⟨d, cs, hcons, hfacts⟩ := symbolHead_facts hs
    rw [Token.spelling, hcons] at hc
    cases hc
    exact hfacts.not_space

theorem readFrom_token {t : Token} (ht : t.Sound) {rest : List Char}
    (hrest : ∀ c ∈ rest.head?, t.ends c = true) :
    Lexeme.readFrom 0 (t.spelling ++ rest) = (Lexeme.readFrom 0 rest).map (.token t :: ·) :=
  @Lexeme.readFrom_append (.token t) rest ht.spelling_ne_nil (front?_token ht hrest)

/-- Tokens are read back as they were set, in front of a line break. -/
theorem readFrom_typeset {ts : List Token} (hsound : ∀ t ∈ ts, t.Sound)
    (hjoined : allJoined ts = true) (rest : List Char) :
    Lexeme.readFrom 0 (typeset ts ++ '\n' :: rest)
      = (Lexeme.readFrom 0 rest).map (typesetLexemes ts ++ .lineBreak :: ·) := by
  induction ts with
  | nil =>
    rw [typeset, List.nil_append, Lexeme.readFrom_lineBreak]
    rfl
  | cons t more ih =>
    have ht := hsound t List.mem_cons_self
    cases more with
    | nil =>
      have hends : ∀ c ∈ ('\n' :: rest).head?, t.ends c = true := by
        rintro c hc
        cases hc
        exact ends_lineBreak ht
      rw [typeset, readFrom_token ht hends, Lexeme.readFrom_lineBreak, Option.map_map]
      rfl
    | cons u more =>
      have hu := hsound u (List.mem_cons_of_mem t List.mem_cons_self)
      rw [allJoined, Bool.and_eq_true, Bool.or_eq_true] at hjoined
      have ih := ih (fun v hv => hsound v (List.mem_cons_of_mem t hv)) hjoined.2
      have hhead : (typeset (u :: more) ++ '\n' :: rest).head? = u.spelling.head? := by
        obtain ⟨c, hc⟩ := Option.ne_none_iff_exists'.1
          (mt List.head?_eq_none_iff.1 hu.spelling_ne_nil)
        rw [List.head?_append, head?_typeset hu, hc]
        rfl
      rw [typeset, typesetLexemes, List.append_assoc, List.append_assoc]
      by_cases hgap : gap t u = true
      · have hends : ∀ c ∈ (' ' :: (typeset (u :: more) ++ '\n' :: rest)).head?,
            t.ends c = true := by
          rintro c hc
          cases hc
          exact ends_blank ht
        have hblank := @Lexeme.readFrom_blanks [' '] (typeset (u :: more) ++ '\n' :: rest)
          (List.cons_ne_nil _ _) (fun c hc => List.mem_singleton.1 hc)
          (by rw [hhead]; exact hu.head_not_space)
        rw [if_pos hgap, if_pos hgap, List.singleton_append, readFrom_token ht hends,
          ← List.singleton_append, hblank, ih, Option.map_map, Option.map_map]
        rfl
      · have hends : ∀ c ∈ (typeset (u :: more) ++ '\n' :: rest).head?, t.ends c = true := by
          rw [hhead]
          exact ends_of_joins ht hu (hjoined.1.resolve_left hgap)
        rw [if_neg hgap, if_neg hgap, List.nil_append, readFrom_token ht hends, ih,
          Option.map_map]
        rfl

/-! ## Line ends -/

theorem not_return_of_isWordChar {c : Char} (h : isWordChar c = true) : c ≠ '\r' := by
  rintro rfl
  cases h

theorem Token.Sound.not_return {t : Token} (ht : t.Sound) : '\r' ∉ t.spelling := by
  intro hmem
  cases ht with
  | word hw =>
    obtain ⟨c, cs, hcons, hc, -, hcs⟩ := isAsciiName_cons hw
    rw [Token.spelling, hcons] at hmem
    rcases List.mem_cons.1 hmem with h | h
    · exact not_return_of_isWordChar hc h.symm
    · exact not_return_of_isWordChar (hcs _ h) rfl
  | number hne hn => exact not_return_of_isWordChar (isWordChar_of_isDigit (hn _ hmem)) rfl
  | @literal l hletters hmark hclosed hreturn =>
    have hne : '\r' ≠ l.mark := by
      intro h
      rw [← h] at hmark
      cases hmark
    rw [Token.spelling, Literal.spelling, hletters, Literal.marks] at hmem
    split at hmem <;> simp [hne, hreturn] at hmem
  | @symbol s hs =>
    have hall : ∀ cs ∈ symbolChars, '\r' ∉ cs := by decide
    exact hall _ (mem_symbolChars hs) hmem

theorem not_return_typeset {ts : List Token} (hsound : ∀ t ∈ ts, t.Sound) :
    '\r' ∉ typeset ts := by
  induction ts with
  | nil => exact List.not_mem_nil
  | cons t more ih =>
    have ht := (hsound t List.mem_cons_self).not_return
    have ih := ih fun u hu => hsound u (List.mem_cons_of_mem t hu)
    cases more with
    | nil =>
      rw [typeset]
      exact ht
    | cons u more =>
      rw [typeset]
      split <;> simp [ht, ih]

/-- Carriage returns are unified one by one. -/
theorem unifyFrom_append {cs : List Char} (h : '\r' ∉ cs) (rest : List Char) :
    unifyFrom (cs ++ rest) = cs ++ unifyFrom rest := by
  induction cs with
  | nil => rfl
  | cons c cs ih =>
    obtain ⟨hc, hcs⟩ := not_or.1 (mt List.mem_cons.2 h)
    rw [List.cons_append, unifyFrom, ih hcs, List.cons_append]
    · rw [if_neg (by simpa using Ne.symm hc)]
    · intro more h
      exact absurd h.symm hc

end ControlSchema.Source
