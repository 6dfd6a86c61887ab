import ControlSchema.Proofs.Bindings.Program
import ControlSchema.Proofs.Definition
import ControlSchema.Proofs.Number.Digits
import ControlSchema.Proofs.Source.Page

/-!
# Rows of generated source

Each row that the layout writes is a row of tokens at a margin, and the tokens
are read as the statement that the program has in that place. Apart from hints
and docstrings, whether a row can be read does not depend on what it is about:
names are words, and texts between single marks have nothing to escape.
-/

namespace ControlSchema

open Source Number Text

/-! ## Tokens -/

namespace Source.Token

theorem sound_word_iff {w : String} : Token.Sound (.word w) ↔ isAsciiName w.toList = true :=
  ⟨fun h => by cases h; assumption, .word⟩

theorem sound_symbol_iff {s : String} : Token.Sound (.symbol s) ↔ s ∈ Lexeme.symbols :=
  ⟨fun h => by cases h; assumption, .symbol⟩

theorem sound_digits (n : Nat) : Token.Sound (.number (digitsText n)) :=
  .number (digitsText_ne_nil n) (isDigit_digitsText n)

/-- A text between single marks. -/
def quoted (s : String) : Token := .literal ⟨[], '\'', false, s.toList⟩

/-- A text that needs no escapes, and some marks. -/
def IsQuotable (s : String) : Prop := s.toList ≠ [] ∧ ∀ c ∈ s.toList, isWordChar c = true

theorem isPlain_of_isWordChar {c : Char} (h : isWordChar c = true) : Literal.isPlain c = true := by
  have hfacts := isWordChar_facts h
  have hbreak : c ≠ '\n' := by
    rintro rfl
    cases h
  rw [Literal.isPlain, hfacts.not_mark]
  simp [hfacts.not_backslash, hbreak]

theorem sound_quoted {s : String} (hs : IsQuotable s) : (quoted s).Sound := by
  refine .literal rfl rfl (Literal.front?_plain hs.1 fun c hc =>
    isPlain_of_isWordChar (hs.2 c hc)) fun h => ?_
  cases hs.2 _ h

theorem phrase_quoted {s : String} (hs : IsQuotable s) : Expr.Phrase [quoted s] (.text s) := by
  refine Expr.Phrase.text ?_
  have hraw : (Literal.mk [] '\'' false s.toList).isRaw = false := rfl
  rw [Literal.value?, hraw, if_neg Bool.false_ne_true,
    Literal.unescapeFrom_eq fun h => Bool.noConfusion (hs.2 _ h), Option.map_some,
    String.ofList_toList]

/-- Characters between three marks. -/
def framed (cs : List Char) : Token := .literal ⟨[], '"', true, cs⟩

/-- Characters that stand for themselves between three marks. -/
def IsFrameable (cs : List Char) : Prop := ∀ c ∈ cs, c ≠ '\\' ∧ c ≠ '"' ∧ c ≠ '\r'

theorem isFrameable_of_all {cs : List Char}
    (h : cs.all (fun c => c != '\\' && c != '"' && c != '\r') = true) : IsFrameable cs := by
  intro c hc
  have := List.all_eq_true.1 h c hc
  rw [Bool.and_eq_true, Bool.and_eq_true, bne_iff_ne, bne_iff_ne, bne_iff_ne] at this
  exact ⟨this.1.1, this.1.2, this.2⟩

theorem sound_framed {cs : List Char} (hcs : IsFrameable cs) : (framed cs).Sound := by
  have hquiet := Literal.quotesAfter?_unmarked fun c hc => ⟨(hcs c hc).1, (hcs c hc).2.1⟩
  exact .literal rfl rfl (Literal.front?_quiet hquiet) fun h => (hcs _ h).2.2 rfl

theorem value?_framed {cs : List Char} (hcs : IsFrameable cs) :
    (Literal.mk [] '"' true cs).value? = some (String.ofList cs) := by
  have hraw : (Literal.mk [] '"' true cs).isRaw = false := rfl
  rw [Literal.value?, hraw, if_neg Bool.false_ne_true,
    Literal.unescapeFrom_eq fun h => (hcs _ h).1 rfl, Option.map_some]

end Source.Token

theorem Text.toList_quoted {s : String} (hs : ∀ c ∈ s.toList, isWordChar c = true) :
    (Text.quoted s).toList = '\'' :: s.toList ++ ['\''] := by
  have hall : ∀ n < 128, isWordChar (Char.ofNat n) = true →
      escapeChar '\'' (Char.ofNat n) = [Char.ofNat n] := by decide
  have hquote : quoteFor s.toList = '\'' := by
    have hmark : s.toList.contains '\'' = false := by
      rw [← Bool.not_eq_true, List.contains_iff_mem]
      intro h
      cases hs _ h
    rw [quoteFor, hmark]
    rfl
  have hescape : s.toList.flatMap (escapeChar '\'') = s.toList := by
    have hone : ∀ c ∈ s.toList, escapeChar '\'' c = [c] := fun c hc =>
      of_ascii (p := fun c => isWordChar c = true → escapeChar '\'' c = [c]) hall
        (toNat_lt_of_isWordChar (hs c hc)) (hs c hc)
    rw [List.flatMap_congr hone]
    simp
  simp only [Text.quoted, hquote, String.toList_ofList, hescape]

namespace Layout

open Source.Token Source.Expr Source.Statement

/-! ## Guards -/

variable {n : Nat}

def guardTokens (feature : String) : List Token := [
  .word "_features", .symbol ".", .word "enabled", .symbol "(", Token.quoted feature, .symbol ")"]

theorem phrase_guard {feature : String} (h : IsQuotable feature) :
    Phrase (guardTokens feature) (guardTest feature) := by
  have hcall := ((Primary.name (w := "_features") rfl).member (w := "enabled") rfl).call
    (Items.one (phrase_quoted h).item) rfl
  exact hcall.phrase

theorem toList_spaces_indent : indent.toList = Row.spaces 4 := by decide

def guardRow (feature : String) : List Token :=
  .word "if" :: guardTokens feature ++ [.symbol ":"]

theorem toList_guard {feature : String} (h : IsQuotable feature) :
    (guard feature).toList = typeset (guardRow feature) := by
  have hquoted : (Text.quoted feature).toList = (Token.quoted feature).spelling :=
    Text.toList_quoted h.2
  unfold guard
  generalize Text.quoted feature = q at hquoted
  rw [String.toList_append, String.toList_append, hquoted]
  simp [typeset, guardRow, guardTokens, gap, Token.quoted, Token.spelling]

theorem sound_guardRow {feature : String} (h : IsQuotable feature) :
    Row.Sound ⟨n, guardRow feature⟩ := by
  have hquoted := sound_quoted h
  refine ⟨?_, rfl, by simp [guardRow]⟩
  simp +decide [guardRow, guardTokens, sound_word_iff, sound_symbol_iff, hquoted]

theorem says_guard {margin : String} {feature : String} (hmargin : margin.toList = Row.spaces n)
    (h : IsQuotable feature) {rows : List String} {ss : Option (List Statement)}
    (hne : ss ≠ some []) (hbody : Says (n + 4) rows ss) :
    Says n ((margin ++ guard feature) :: rows)
      (ss.map fun b => [.branch (guardTest feature) b []]) := by
  have hrow : (margin ++ guard feature).toList = Row.spaces n ++ typeset (guardRow feature) := by
    rw [String.toList_append, hmargin, toList_guard h]
  exact Says.compound hrow (sound_guardRow h) rfl hne
    (fun body hbody hmeans => Means.branch (phrase_guard h) hbody hmeans) hbody

/-! ## Assignments -/

theorem says_assignment {row w : String} {ts : List Token} {e : Expr}
    (hrow : row.toList = Row.spaces n ++ typeset (.word w :: .symbol "=" :: ts))
    (hsound : Row.Sound ⟨n, .word w :: .symbol "=" :: ts⟩) (hdepths : Line.depths? 0 ts = some 0)
    (hw : Naming.isKeyword w = false) (h : Phrase ts e) :
    Says n [row] (some [.assignment [.name w] e]) := by
  have hplain : Plain (.word w :: .symbol "=" :: ts) := by
    refine ⟨List.cons_ne_nil _ _, fun t ht => ?_, head?_word hw _⟩
    rcases List.mem_cons.1 ht with rfl | ht
    · simp
    rcases List.mem_cons.1 ht with rfl | ht
    · simp
    · rintro rfl
      cases h.inner _ ht
  have hsays := Says.row hrow hsound
    ((Line.depths?_word 0 w _).trans ((Line.depths?_neutral rfl 0 ts).trans hdepths)) hplain
  rw [simple?_word hw, unmarked?_assignment hw h] at hsays
  exact hsays

/-! ## Texts -/

/-- A literal that stands alone, on as many rows as it needs. -/
theorem says_literal {rows : List String} {l : Literal} {value : String}
    (hrows : page rows = Row.spaces n ++ l.spelling ++ ['\n']) (hl : Token.Sound (.literal l))
    (hvalue : l.value? = some value) : Says n rows (some [.expression (.text value)]) := by
  have hcharacters : page rows = [Row.mk n [.literal l]].flatMap Row.characters := by
    rw [hrows, List.flatMap_singleton]
    rfl
  have hsound : ∀ r ∈ [Row.mk n [.literal l]], r.Sound := by
    intro r hr
    obtain rfl := List.mem_singleton.1 hr
    exact ⟨fun t ht => by rwa [List.mem_singleton.1 ht], rfl, List.cons_ne_nil _ _⟩
  have hplain : Plain [.literal l] := ⟨List.cons_ne_nil _ _, by simp, rfl⟩
  have hsays := @Says.logical n rows _ hcharacters rfl hsound rfl hplain
  have hsimple : simple? [.literal l] = unmarked? [.literal l] := rfl
  rw [List.flatMap_singleton, hsimple, unmarked?_expression (Phrase.text hvalue)] at hsays
  exact hsays

theorem says_framed {rows : List String} {cs : List Char}
    (hrows : page rows = Row.spaces n ++ (framed cs).spelling ++ ['\n']) (hcs : IsFrameable cs) :
    Says n rows (some [.expression (.text (String.ofList cs))]) :=
  says_literal hrows (sound_framed hcs) (value?_framed hcs)

/-! ## Members of the catalogue -/

section Catalogue

variable {d : Definition} (hd : d.Writable)
include hd

def memberTokens (d : Definition) : List Token :=
  [.word "_ids", .symbol ".", .word d.linkageName]

theorem says_member {margin : String} (hmargin : margin.toList = Row.spaces n) :
    Says n [margin ++ memberRow d] (some [memberStatement d]) := by
  have hsound : Row.Sound ⟨n, .word d.name :: .symbol "=" :: memberTokens d⟩ := by
    have hname := hd.isAsciiName_name
    have hlinkage := hd.isAsciiName_linkageName
    refine ⟨?_, rfl, List.cons_ne_nil _ _⟩
    simp +decide [memberTokens, sound_word_iff, sound_symbol_iff, hname, hlinkage]
  have hrow : (margin ++ memberRow d).toList
      = Row.spaces n ++ typeset (.word d.name :: .symbol "=" :: memberTokens d) := by
    rw [String.toList_append, hmargin]
    unfold memberRow memberTokens
    generalize d.linkageName = w
    simp [typeset, gap, Token.spelling]
  have hdepths : Line.depths? 0 (memberTokens d) = some 0 := rfl
  exact says_assignment hrow hsound hdepths hd.not_keyword
    ((Primary.name (w := "_ids") rfl).member hd.isKeyword_linkageName).phrase

end Catalogue

/-- The margin of the members under a guard. -/
def memberMargin (feature : Option String) : String :=
  if feature.isSome then indent ++ indent else indent

/-- The row of a guard, if there is one. -/
def guardRows (margin : String) (feature : Option String) : List String :=
  match feature with
  | none => []
  | some feature => [margin ++ guard feature]

/-- The members of a run need no guard of their own. -/
theorem memberRows_run (feature : Option String) (ds : List Definition) :
    memberRows feature ds
      = (ds.takeWhile (·.feature == feature)).map (memberMargin feature ++ memberRow ·)
        ++ memberRows none (ds.dropWhile (·.feature == feature)) := by
  induction ds with
  | nil => rfl
  | cons d rest ih =>
    rw [List.takeWhile_cons, List.dropWhile_cons]
    by_cases hd : d.feature = feature
    · rw [if_pos (beq_iff_eq.2 hd), if_pos (beq_iff_eq.2 hd), List.map_cons, List.cons_append,
        memberRows, hd, ih]
      cases feature with
      | none => rfl
      | some feature =>
        simp only [beq_self_eq_true, if_true]
        rfl
    · rw [if_neg (mt beq_iff_eq.1 hd), if_neg (mt beq_iff_eq.1 hd), List.map_nil,
        List.nil_append, memberRows, memberRows]
      cases hfeature : d.feature with
      | none => rfl
      | some g =>
        rw [hfeature] at hd
        have hother : (feature == some g) = false := beq_eq_false_iff_ne.2 (Ne.symm hd)
        simp only [hother]
        rfl

theorem memberRows_cons (d : Definition) (rest : List Definition) :
    memberRows none (d :: rest) = guardRows indent d.feature
      ++ ((d :: rest.takeWhile (·.feature == d.feature)).map (memberMargin d.feature ++ memberRow ·)
        ++ memberRows none (rest.dropWhile (·.feature == d.feature))) := by
  rw [memberRows, List.map_cons, List.cons_append, ← memberRows_run]
  cases d.feature <;> rfl

theorem runs_cons (d : Definition) (rest : List Definition) :
    runs (d :: rest) = (d, rest.takeWhile (·.feature == d.feature))
      :: runs (rest.dropWhile (·.feature == d.feature)) := by
  induction rest generalizing d with
  | nil => rfl
  | cons e rest ih =>
    rw [runs, ih e, List.takeWhile_cons, List.dropWhile_cons]
    by_cases he : d.feature = e.feature
    · simp [he]
    · have hne : (e.feature == d.feature) = false := beq_eq_false_iff_ne.2 (Ne.symm he)
      simp [he, hne, ih e]

theorem says_members {margin : String} (hmargin : margin.toList = Row.spaces n)
    {ds : List Definition} (hds : ∀ d ∈ ds, d.Writable) :
    Says n (ds.map (margin ++ memberRow ·)) (some (ds.map memberStatement)) := by
  induction ds with
  | nil => exact .nil
  | cons d rest ih =>
    exact (says_member (hds d List.mem_cons_self) hmargin).append_some
      (ih fun e he => hds e (List.mem_cons_of_mem d he))

theorem isQuotable_feature {d : Definition} (hd : d.Writable) {feature : String}
    (h : d.feature = some feature) : IsQuotable feature := Definition.feature_chars hd.accepted h

theorem says_run {d : Definition} {rest : List Definition}
    (hds : ∀ e ∈ d :: rest, e.Writable) :
    Says 4 (guardRows indent d.feature ++ (d :: rest).map (memberMargin d.feature ++ memberRow ·))
      (some (runStatements (d, rest))) := by
  rw [runStatements]
  cases hfeature : d.feature with
  | none => exact says_members toList_spaces_indent hds
  | some feature =>
    have hmargin : (indent ++ indent).toList = Row.spaces 8 := by decide
    exact says_guard toList_spaces_indent (isQuotable_feature (hds d List.mem_cons_self) hfeature)
      (by simp) (says_members hmargin hds)

theorem says_memberRows (ds : List Definition) (hds : ∀ d ∈ ds, d.Writable) :
    Says 4 (memberRows none ds) (some ((runs ds).flatMap runStatements)) := by
  induction hlength : ds.length using Nat.strong_induction_on generalizing ds with
  | _ length ih =>
    cases ds with
    | nil => exact .nil
    | cons d rest =>
      have hsuffix := List.dropWhile_suffix (l := rest) (·.feature == d.feature)
      have hrun : ∀ e ∈ d :: rest.takeWhile (·.feature == d.feature), e.Writable := by
        intro e he
        rcases List.mem_cons.1 he with rfl | he
        · exact hds _ List.mem_cons_self
        · exact hds e (List.mem_cons_of_mem d (List.takeWhile_subset _ he))
      have hothers := ih (rest.dropWhile (·.feature == d.feature)).length
        (by rw [← hlength, List.length_cons]; exact Nat.lt_succ_of_le hsuffix.length_le) _
        (fun e he => hds e (List.mem_cons_of_mem d (hsuffix.subset he))) rfl
      rw [memberRows_cons, runs_cons, List.flatMap_cons, ← List.append_assoc]
      exact (says_run hrun).append_some hothers

/-! ## The catalogue -/

theorem isFrameable_catalogueTitle (category : Category) :
    IsFrameable (catalogueTitle category).toList :=
  isFrameable_of_all (by cases category <;> decide)

def catalogueHead (category : Category) : List Token := [.word "class", .word category.idClass,
  .symbol "(", .word "_control", .symbol ".", .word "DiscriminantEnum", .symbol ")", .symbol ":"]

theorem says_catalogue (category : Category) (ds : List Definition) (hds : ∀ d ∈ ds, d.Writable) :
    Says 0 (catalogueRows category ds) (some [catalogueStatement category ds]) := by
  have hrow : ("class " ++ category.idClass ++ "(_control.DiscriminantEnum):").toList
      = Row.spaces 0 ++ typeset (catalogueHead category) := by
    cases category <;> rfl
  have hsound : Row.Sound ⟨0, catalogueHead category⟩ := by
    refine ⟨?_, by cases category <;> rfl, List.cons_ne_nil _ _⟩
    cases category <;>
      simp +decide [catalogueHead, Category.idClass, sound_word_iff, sound_symbol_iff]
  have hpage : page ["    \"\"\"Numeric ids of the " ++ category.word
      ++ " in this snapshot, as linked.\"\"\""]
      = Row.spaces 4 ++ (framed (catalogueTitle category).toList).spelling ++ ['\n'] := by
    cases category <;> rfl
  have hdoc := says_framed hpage (isFrameable_catalogueTitle category)
  rw [String.ofList_toList] at hdoc
  have hbase := (Primary.name (w := "_control") rfl).member (w := "DiscriminantEnum") rfl
  exact Says.compound hrow hsound (by cases category <;> rfl) (by simp)
    (fun body hne hbody => Means.classDefinition (by cases category <;> rfl)
      (Items.one hbase.phrase.item) rfl hne hbody) (hdoc.append_some (says_memberRows ds hds))

end Layout

end ControlSchema
