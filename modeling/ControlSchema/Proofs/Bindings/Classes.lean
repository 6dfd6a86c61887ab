import ControlSchema.Proofs.Bindings.Hint
import ControlSchema.Proofs.Bindings.Rows

/-!
# Classes in source

The class of a definition is read back with everything in it: its decorator
with the descriptor, its docstring, and its members or the hint of its value.
The comments of members leave no trace. A class cannot be read only when its
docstring is not closed or its hint has no reading.
-/

namespace ControlSchema

open Source Source.Expr Source.Statement Source.Token Number Text

namespace Layout

variable {n : Nat} {margin : String}

/-! ## Docstrings -/

/-- The rows of a docstring with the given lines. -/
def docRows (margin : String) (many : List String) : List String :=
  match many with
  | [] => []
  | [line] => [margin ++ Docstring.tripleMark ++ line ++ Docstring.tripleMark]
  | many => (margin ++ Docstring.tripleMark)
      :: many.map (fun line => stripRight (margin ++ line)) ++ [margin ++ Docstring.tripleMark]

theorem docRows_eq (margin description : String) :
    Docstring.rows margin description = docRows margin (lines (Docstring.body description)) := by
  unfold Docstring.rows
  generalize lines (Docstring.body description) = many
  rfl

theorem page_docRows (hmargin : margin.toList = Row.spaces n) {many : List String}
    (hne : (docRows margin many).isEmpty = false) :
    page (docRows margin many) = Row.spaces n ++ (['"', '"', '"']
      ++ Docstring.contentsOf margin many ++ ['"', '"', '"']) ++ ['\n'] := by
  have hmark : Docstring.tripleMark.toList = ['"', '"', '"'] := by decide
  match many with
  | [] => cases hne
  | [line] => simp [docRows, page, Docstring.contentsOf, hmark, hmargin]
  | first :: second :: more =>
    have hflat (many : List String) : page (many.map fun line => stripRight (margin ++ line))
        = many.flatMap fun line => (stripRight (margin ++ line)).toList ++ ['\n'] := by
      rw [page, List.flatMap_map]
    have hrows : docRows margin (first :: second :: more) = (margin ++ Docstring.tripleMark)
        :: (first :: second :: more).map (fun line => stripRight (margin ++ line))
        ++ [margin ++ Docstring.tripleMark] := rfl
    rw [hrows, page_append, page_cons, hflat, Docstring.contentsOf]
    · simp [page, hmark, hmargin]
    · simp

theorem page_docstring (hmargin : margin.toList = Row.spaces n) {description : String}
    (hne : (Docstring.rows margin description).isEmpty = false) :
    page (Docstring.rows margin description)
      = Row.spaces n ++ (Docstring.literal margin description).spelling ++ ['\n'] := by
  have hspelling (cs : List Char) : (Literal.mk [] '"' true cs).spelling
      = ['"', '"', '"'] ++ cs ++ ['"', '"', '"'] := rfl
  rw [docRows_eq] at hne ⊢
  rw [Docstring.literal, Docstring.contents, hspelling]
  exact page_docRows hmargin hne

theorem not_isEmpty_of_not_areClosed {many : List String} (h : Docstring.areClosed many = false) :
    (docRows margin many).isEmpty = false := by
  match many with
  | [] => cases h
  | [line] => rfl
  | first :: second :: more => rfl

theorem says_docstring (hmargin : margin.toList = Row.spaces n) (description : String) :
    Says n (Docstring.rows margin description) (if Docstring.isClosed description
      then some (docStatements margin description) else none) := by
  have hspaces : ∀ c ∈ margin.toList, c = ' ' := by
    rw [hmargin]
    exact fun c hc => List.eq_of_mem_replicate hc
  by_cases hclosed : Docstring.isClosed description = true
  · rw [if_pos hclosed, docStatements]
    by_cases hempty : (Docstring.rows margin description).isEmpty = true
    · rw [if_pos hempty, List.isEmpty_iff.1 hempty]
      exact .nil
    · rw [if_neg hempty]
      exact says_literal (page_docstring hmargin (Bool.not_eq_true _ ▸ hempty))
        (Docstring.sound_literal hspaces hclosed) (Docstring.value?_literal hspaces hclosed)
  · have hopen : Docstring.isClosed description = false := Bool.not_eq_true _ ▸ hclosed
    rw [if_neg hclosed]
    refine .unread ?_
    rw [page_docstring hmargin (by rw [docRows_eq]; exact not_isEmpty_of_not_areClosed hopen)]
    have hreturn : '\r' ∉ Row.spaces n ++ (Docstring.literal margin description).spelling
        ++ ['\n'] := by
      have hcontents := Docstring.not_return_contents hspaces description
      simp [Row.spaces, Docstring.literal, Literal.spelling, Literal.marks, hcontents]
    refine scans_unread hreturn fun rest => ?_
    have hhead : ∀ c ∈ ((Docstring.literal margin description).spelling ++ '\n' :: rest).head?,
        Lexeme.isSpace c = false := by
      rintro c hc
      cases hc
      rfl
    rw [List.append_assoc, List.append_assoc, List.singleton_append,
      Row.readFrom_spaces n hhead, Docstring.readFrom_not_closed hopen hspaces]
    rfl

/-! ## Members -/

/-- A description in comments leaves no trace. -/
theorem commentRows_form (hmargin : margin.toList = Row.spaces n) (description : String) :
    ∀ row ∈ commentRows margin description, ∃ m cs, row.toList = Row.spaces m ++ '#' :: cs ∧
      '\n' ∉ cs ∧ '\r' ∉ cs := by
  intro row hrow
  rw [commentRows, lines, List.map_map] at hrow
  obtain ⟨line, hline, rfl⟩ := List.mem_map.1 hrow
  have hbreaks := not_break_of_mem_splitLines line hline
  have hinner : ∀ c ∈ ':' :: ' ' :: line, isLineBreak c = false := by
    intro c hc
    rcases List.mem_cons.1 hc with rfl | hc
    · rfl
    rcases List.mem_cons.1 hc with rfl | hc
    · rfl
    · exact hbreaks c hc
  have hstripped := not_break_of_mem_stripEnd hinner
  refine ⟨n, stripEnd (':' :: ' ' :: line), ?_, fun h => ?_, fun h => ?_⟩
  · have htext : (margin ++ "#: " ++ String.ofList line).toList
        = Row.spaces n ++ '#' :: ':' :: ' ' :: line := by
      rw [String.toList_append, String.toList_append, hmargin, String.toList_ofList]
      simp
    have hmark : isBlank '#' = false := by decide
    rw [Function.comp_apply, stripRight, String.toList_ofList, htext,
      stripEnd_append_of_ne_nil _ (by rw [stripEnd_cons hmark]; exact List.cons_ne_nil _ _),
      stripEnd_cons hmark]
  · cases hstripped _ h
  · cases hstripped _ h

def valueTokens (i : Int) : List Token :=
  if i < 0 then [.symbol "-", .number (digitsText i.natAbs)] else [.number (digitsText i.natAbs)]

theorem phrase_value (i : Int) : Phrase (valueTokens i) (valueExpr i) := by
  rw [valueTokens, valueExpr]
  split
  · exact Phrase.negative (ofNumber?_digitsText _)
  · exact Phrase.number (ofNumber?_digitsText _)

theorem says_value (hmargin : margin.toList = Row.spaces n) {name : String}
    (hname : isAsciiName name.toList = true) (hkeyword : Naming.isKeyword name = false) (i : Int) :
    Says n [margin ++ name ++ " = " ++ intText i]
      (some [.assignment [.name name] (valueExpr i)]) := by
  have hdigits := sound_digits i.natAbs
  have hrow : (margin ++ name ++ " = " ++ intText i).toList
      = Row.spaces n ++ typeset (.word name :: .symbol "=" :: valueTokens i) := by
    rw [String.toList_append, String.toList_append, String.toList_append, hmargin, intText,
      valueTokens]
    split <;> simp [typeset, gap, Token.spelling]
  have hsound : Row.Sound ⟨n, .word name :: .symbol "=" :: valueTokens i⟩ := by
    rw [valueTokens]
    split
    · refine ⟨?_, rfl, List.cons_ne_nil _ _⟩
      simp +decide [sound_word_iff, sound_symbol_iff, hname, hdigits]
    · refine ⟨?_, rfl, List.cons_ne_nil _ _⟩
      simp +decide [sound_word_iff, sound_symbol_iff, hname, hdigits]
  have hdepths : Line.depths? 0 (valueTokens i) = some 0 := by
    rw [valueTokens]
    split <;> rfl
  exact says_assignment hrow hsound hdepths hkeyword (phrase_value i)

theorem says_enumerator (hmargin : margin.toList = Row.spaces n) {d : Definition}
    (hd : d.Accepted) {e : Enumerator} {name : String} (hvariant : (e, name) ∈ d.variants)
    (first : Bool) :
    Says n (enumeratorRows margin first e name) (some [variantStatement (e, name)]) := by
  obtain ⟨hname, hkeyword⟩ := Definition.variant_facts hd hvariant
  have hmember := Says.comments (commentRows_form hmargin e.description)
    (says_value hmargin hname hkeyword e.value)
  rw [enumeratorRows, List.append_assoc]
  generalize commentRows margin e.description ++ [margin ++ name ++ " = " ++ intText e.value] = rows
    at hmember ⊢
  split
  · exact hmember
  · exact hmember.blank

theorem says_enumeration (hmargin : margin.toList = Row.spaces n) {d : Definition}
    (hd : d.Accepted) :
    Says n (enumerationRows margin d) (some (d.variants.map variantStatement)) := by
  have hmembers := fun e name => @says_enumerator n margin hmargin d hd e name
  rw [enumerationRows]
  generalize d.variants = variants at hmembers
  cases variants with
  | nil => exact .nil
  | cons first rest =>
    have hrest : Says n
        (rest.flatMap fun variant => enumeratorRows margin false variant.1 variant.2)
        (some (rest.map variantStatement)) := by
      replace hmembers := fun e name h => hmembers e name (List.mem_cons_of_mem _ h)
      induction rest with
      | nil => exact .nil
      | cons variant rest ih =>
        exact (hmembers variant.1 variant.2 List.mem_cons_self false).append_some
          (ih fun e name h => hmembers e name (List.mem_cons_of_mem _ h))
    exact (hmembers first.1 first.2 List.mem_cons_self true).append_some hrest

/-! ## Hints -/

theorem says_hint (hmargin : margin.toList = Row.spaces n) (d : Descriptor) :
    Says n [margin ++ "value: " ++ d.hint] (if d.hasReadableHint
      then some [.annotated (.name "value") (hintExpr d) none] else none) := by
  obtain ⟨b, hsetting, hhint⟩ := isHint_hint d
  obtain ⟨t, hhead⟩ := hsetting.exists_head
  have hrow : (margin ++ "value: " ++ d.hint).toList
      = Row.spaces n ++ typeset (.word "value" :: .symbol ":" :: hintTokens d) := by
    rw [String.toList_append, String.toList_append, hmargin, List.append_assoc,
      typeset_cons (u := .symbol ":") rfl, typeset_cons hhead, gap_spaced rfl, hsetting.spelled]
    simp [gap, Token.spelling]
  have hsound : Row.Sound ⟨n, .word "value" :: .symbol ":" :: hintTokens d⟩ := by
    refine ⟨fun t ht => ?_, ?_, List.cons_ne_nil _ _⟩
    · rcases List.mem_cons.1 ht with rfl | ht
      · exact .word (by decide)
      rcases List.mem_cons.1 ht with rfl | ht
      · exact .symbol (by decide)
      · exact hsetting.sound t ht
    · rw [allJoined_cons (u := .symbol ":") rfl, allJoined_cons hhead, gap_spaced rfl,
        hsetting.joined]
      rfl
  have hdepths : Line.depths? 0 (.word "value" :: .symbol ":" :: hintTokens d)
      = if b ≤ Line.nestingLimit then some 0 else none := by
    rw [Line.depths?_word, Line.depths?_neutral rfl, hsetting.nested 0 (Nat.zero_le _),
      Nat.zero_add]
  have hinner : ∀ t ∈ hintTokens d, t ≠ .symbol ";" := by
    rintro t ht rfl
    exact hsetting.undivided ht
  have hsays (hb : b ≤ Line.nestingLimit) : Says n [margin ++ "value: " ++ d.hint]
        ((unmarked? (.word "value" :: .symbol ":" :: hintTokens d)).map ([·])) := by
    rw [if_pos hb] at hdepths
    rw [← simple?_word (w := "value") rfl]
    exact Says.row hrow hsound hdepths
      ⟨List.cons_ne_nil _ _, by simpa using hinner, head?_word rfl _⟩
  cases hreadable : d.hasReadableHint with
  | true =>
    rw [hreadable, if_pos rfl] at hhint
    obtain ⟨hb, hphrase⟩ := hhint
    have h := hsays hb
    rw [unmarked?_annotated rfl hphrase] at h
    exact h
  | false =>
    rw [hreadable, if_neg Bool.false_ne_true] at hhint
    by_cases hb : b ≤ Line.nestingLimit
    · have h := hsays hb
      rw [unmarked?_bad_hint rfl (hhint.resolve_left (Nat.not_lt_of_le hb))] at h
      exact h
    · rw [if_neg hb] at hdepths
      exact Says.too_deep hrow hsound hdepths

/-! ## Bodies -/

theorem says_nothing (hmargin : margin.toList = Row.spaces n) :
    Says n [margin ++ "pass"] (some [.nothing]) := by
  have hrow : (margin ++ "pass").toList = Row.spaces n ++ typeset [.word "pass"] := by
    rw [String.toList_append, hmargin]
    rfl
  have hsound : Row.Sound ⟨n, [.word "pass"]⟩ := by
    refine ⟨?_, rfl, List.cons_ne_nil _ _⟩
    simp +decide [sound_word_iff]
  exact Says.row hrow hsound rfl ⟨List.cons_ne_nil _ _, by simp, rfl⟩

/-- A docstring stands apart from what follows it. -/
theorem says_behind_docstring (hmargin : margin.toList = Row.spaces n) (description : String)
    {rows : List String} {ss : Option (List Statement)} (h : Says n rows ss) :
    Says n (Docstring.rows margin description
        ++ (if (Docstring.rows margin description).isEmpty then [] else [""]) ++ rows)
      (if Docstring.isClosed description then ss.map (docStatements margin description ++ ·)
        else none) := by
  have hdoc := says_docstring hmargin description
  generalize Docstring.rows margin description = doc at hdoc ⊢
  generalize docStatements margin description = statements at hdoc ⊢
  have happart : Says n ((if doc.isEmpty then [] else [""]) ++ rows) ss := by
    split
    · exact h
    · exact h.blank
  have happend := hdoc.append happart
  rw [← List.append_assoc] at happend
  cases hclosed : Docstring.isClosed description with
  | true =>
    rw [hclosed] at happend
    exact happend
  | false =>
    rw [hclosed] at happend
    exact happend

theorem enumerationRows_isEmpty (margin : String) (d : Definition) :
    (enumerationRows margin d).isEmpty = d.variants.isEmpty := by
  rw [enumerationRows]
  generalize d.variants = variants
  match variants with
  | [] => rfl
  | (e, member) :: rest => simp [enumeratorRows]

theorem docStatements_isEmpty (margin description : String) :
    (docStatements margin description).isEmpty = (Docstring.rows margin description).isEmpty := by
  rw [docStatements]
  generalize Docstring.rows margin description = doc
  cases doc <;> rfl

theorem isClosed_of_isEmpty {description : String}
    (h : (Docstring.rows margin description).isEmpty = true) :
    Docstring.isClosed description = true := by
  by_contra hopen
  rw [Bool.not_eq_true] at hopen
  have hne := @not_isEmpty_of_not_areClosed margin _ hopen
  rw [docRows_eq, hne] at h
  cases h

/-- The body of an enumeration, which is never empty. -/
theorem bodyStatements_enum {d : Definition} (henum : d.isEnum = true) (margin : String) :
    bodyStatements margin d
      = if (docStatements margin d.description ++ d.variants.map variantStatement).isEmpty
        then [.nothing]
        else docStatements margin d.description ++ d.variants.map variantStatement := by
  rw [bodyStatements, if_pos henum]
  generalize docStatements margin d.description ++ d.variants.map variantStatement = body
  cases body <;> rfl

theorem says_enumeration_body (hmargin : margin.toList = Row.spaces n) {d : Definition}
    (hd : d.Accepted) (henum : d.isEnum = true) : Says n (bodyRows margin d)
      (if Docstring.isClosed d.description then some (bodyStatements margin d) else none) := by
  have hdoc := says_docstring hmargin d.description
  have hmembers := says_behind_docstring hmargin d.description (says_enumeration hmargin hd)
  have hclosed := @isClosed_of_isEmpty margin d.description
  have hstatements := docStatements_isEmpty margin d.description
  have hrows := enumerationRows_isEmpty margin d
  rw [bodyRows, bodyStatements_enum henum, if_pos henum]
  simp only
  generalize Docstring.rows margin d.description = doc at *
  generalize docStatements margin d.description = statements at *
  generalize enumerationRows margin d = rows at *
  generalize d.variants = variants at *
  have happend : (statements ++ variants.map variantStatement).isEmpty
      = (doc.isEmpty && variants.isEmpty) := by
    rw [← hstatements]
    cases statements <;> simp
  rw [hrows, happend]
  cases variants with
  | cons variant variants =>
    rw [List.isEmpty_cons, Bool.and_false, if_neg Bool.false_ne_true]
    exact hmembers
  | nil =>
    rw [List.isEmpty_nil, Bool.and_true, if_pos rfl, List.map_nil, List.append_nil]
    cases hdocs : doc.isEmpty with
    | true =>
      rw [if_pos rfl, if_pos rfl, if_pos (hclosed hdocs)]
      exact says_nothing hmargin
    | false =>
      rw [if_neg Bool.false_ne_true, if_neg Bool.false_ne_true]
      exact hdoc

theorem says_body (hmargin : margin.toList = Row.spaces n) {d : Definition} (hd : d.Accepted) :
    Says n (bodyRows margin d) (if d.isReadable then some (bodyStatements margin d) else none) := by
  cases henum : d.isEnum with
  | true =>
    rw [Definition.isReadable, henum, Bool.true_or, Bool.and_true]
    exact says_enumeration_body hmargin hd henum
  | false =>
    have hhint := says_behind_docstring hmargin d.description (says_hint hmargin d.descriptor)
    have hreadable : d.isReadable
        = (Docstring.isClosed d.description && d.descriptor.hasReadableHint) := by
      rw [Definition.isReadable, henum, Bool.false_or]
    rw [bodyRows, bodyStatements, henum, if_neg Bool.false_ne_true, if_neg Bool.false_ne_true,
      hreadable]
    generalize Docstring.isClosed d.description = closed at hhint ⊢
    generalize d.descriptor.hasReadableHint = readable at hhint ⊢
    cases closed <;> cases readable <;> exact hhint

theorem bodyStatements_ne_nil (margin : String) (d : Definition) :
    bodyStatements margin d ≠ [] := by
  cases henum : d.isEnum with
  | true =>
    rw [bodyStatements_enum henum]
    split
    · exact List.cons_ne_nil _ _
    · rename_i hempty
      exact mt List.isEmpty_iff.2 hempty
  | false =>
    rw [bodyStatements, henum, if_neg Bool.false_ne_true]
    exact List.append_ne_nil_of_right_ne_nil _ (List.cons_ne_nil _ _)

/-! ## Decorators and heads -/

def identifierTokens (category : Category) (d : Definition) : List Token :=
  [.word category.idClass] ++ [.symbol ".", .word d.name]

theorem primary_identifier (category : Category) {d : Definition} (hd : d.Writable) :
    Primary (identifierTokens category d) (identifierExpr category d) :=
  (Primary.name (by cases category <;> rfl)).member hd.not_keyword

theorem setting_identifier (category : Category) {d : Definition} (hd : d.Writable) :
    Setting (identifierTokens category d) (identifier category d).toList 0 := by
  have hclass : isAsciiName category.idClass.toList = true := by cases category <;> decide
  have hspelled : (identifier category d).toList
      = category.idClass.toList ++ '.' :: d.name.toList := by
    rw [identifier]
    simp
  rw [hspelled]
  exact (Setting.word hclass).member rfl hd.isAsciiName_name

def bindTokens (category : Category) (d : Definition) : List Token :=
  [.word "_control"] ++ [.symbol ".", .word "bind"] ++ .symbol "("
    :: (identifierTokens category d ++ .symbol "," :: descriptorTokens d.descriptor)
    ++ [.symbol ")"]

theorem primary_bind (category : Category) {d : Definition} (hd : d.Writable) :
    Primary (bindTokens category d) (.call (.attribute (.name "_control") "bind")
      [.plain (identifierExpr category d), .plain (descriptorExpr d.descriptor)]) :=
  ((Primary.name (w := "_control") rfl).member (w := "bind") rfl).call
    (Items.cons (primary_identifier category hd).phrase.item
      (Items.one (phrase_descriptor d.descriptor).item)) rfl

theorem setting_bind (category : Category) {d : Definition} (hd : d.Writable) :
    Setting (bindTokens category d) ("_control.bind(".toList ++ (identifier category d).toList
      ++ ", ".toList ++ (d.descriptor.source "_types.").toList ++ ")".toList) 3 := by
  have hbind := ((@Setting.word "_control" (by decide)).member rfl
    (@rfl _ (isAsciiName "bind".toList))).bracket .round
    ((setting_identifier category hd).comma (setting_descriptor d.descriptor))
  generalize (identifier category d).toList = cs at hbind ⊢
  generalize (d.descriptor.source "_types.").toList = ds at hbind ⊢
  simpa [bindTokens] using hbind

def headTokens (category : Category) (d : Definition) : List Token :=
  .word "class" :: .word d.name :: .symbol "("
    :: ([.word "_control", .symbol ".", .word category.marker] ++ .symbol ","
      :: [.word "_control", .symbol ".", .word (baseName d)])
    ++ [.symbol ")", .symbol ":"]

theorem toList_head (category : Category) (d : Definition) (margin : String) :
    (margin ++ "class " ++ d.name ++ "(_control." ++ category.marker ++ ", " ++ baseClass d
      ++ "):").toList = margin.toList ++ typeset (headTokens category d) := by
  have hbase : baseClass d = "_control." ++ baseName d := by
    rw [baseClass, baseName]
    split <;> rfl
  rw [hbase, headTokens]
  generalize baseName d = base
  simp [typeset, gap, Token.spelling]

theorem sound_head (category : Category) {d : Definition} (hd : d.Writable) :
    Row.Sound ⟨n, headTokens category d⟩ := by
  have hname := hd.isAsciiName_name
  have hmarker : isAsciiName category.marker.toList = true := by cases category <;> decide
  have hbase : isAsciiName (baseName d).toList = true := by
    rw [baseName]
    split <;> decide
  refine ⟨?_, rfl, List.cons_ne_nil _ _⟩
  simp +decide [headTokens, sound_word_iff, sound_symbol_iff, hname, hmarker, hbase]

theorem says_class (hmargin : margin.toList = Row.spaces n) (category : Category) {d : Definition}
    (hd : d.Writable) : Says n (classRows margin category d)
      (if d.isReadable then some [classStatement margin category d] else none) := by
  have hinner : (margin ++ indent).toList = Row.spaces (n + 4) := by
    rw [String.toList_append, hmargin, toList_spaces_indent]
    exact List.replicate_append_replicate
  have hbody := says_body hinner hd.accepted
  have hbind := setting_bind category hd
  have hmark : (margin ++ "@_control.bind(" ++ identifier category d ++ ", "
      ++ d.descriptor.source "_types." ++ ")").toList
      = Row.spaces n ++ typeset (.symbol "@" :: bindTokens category d) := by
    rw [typeset_cons (u := .word "_control") rfl, hbind.spelled]
    generalize identifier category d = s
    generalize d.descriptor.source "_types." = t
    simp [hmargin, gap, Token.spelling]
  have hsound : Row.Sound ⟨n, .symbol "@" :: bindTokens category d⟩ := by
    refine ⟨fun t ht => ?_, ?_, List.cons_ne_nil _ _⟩
    · rcases List.mem_cons.1 ht with rfl | ht
      · exact .symbol (by decide)
      · exact hbind.sound t ht
    · rw [allJoined_cons (u := .word "_control") rfl, hbind.joined]
      rfl
  have hdepths : Line.depths? 0 (.symbol "@" :: bindTokens category d) = some 0 := by
    rw [Line.depths?_neutral rfl, hbind.nested 0 (Nat.zero_le _)]
    rfl
  have hheader : (margin ++ "class " ++ d.name ++ "(_control." ++ category.marker ++ ", "
      ++ baseClass d ++ "):").toList = Row.spaces n ++ typeset (headTokens category d) := by
    rw [toList_head, hmargin]
  have hmarker := (Primary.name (w := "_control") rfl).member (w := category.marker)
    (by cases category <;> rfl)
  have hbase := (Primary.name (w := "_control") rfl).member (w := baseName d)
    (by rw [baseName]; split <;> rfl)
  have hne : (if d.isReadable then some (bodyStatements (margin ++ indent) d) else none)
      ≠ some [] := by
    split
    · simpa using bodyStatements_ne_nil _ d
    · simp
  have hclass := Says.decorated hmark hheader ⟨hsound, sound_head category hd⟩ ⟨hdepths, rfl⟩
    (primary_bind category hd).phrase hne (fun body hne hbody =>
      Means.classDefinition hd.not_keyword
        (Items.cons hmarker.phrase.item (Items.one hbase.phrase.item)) rfl hne hbody) hbody
  rw [classStatement]
  generalize d.isReadable = readable at hclass ⊢
  cases readable <;> exact hclass

/-! ## All classes -/

theorem says_guardedClass (category : Category) {d : Definition} (hd : d.Writable) :
    Says 0 (guardedClassRows category d)
      (if d.isReadable then some (classStatements category d) else none) := by
  rw [guardedClassRows, classStatements, classMargin]
  cases hfeature : d.feature with
  | none => exact says_class rfl category hd
  | some feature =>
    have hclass := says_class toList_spaces_indent category hd
    have hguard := @says_guard 0 "" feature rfl (isQuotable_feature hd hfeature) _ _
      (by split <;> simp) hclass.blank
    rw [String.empty_append] at hguard
    generalize d.isReadable = readable at hguard ⊢
    cases readable <;> exact hguard

theorem says_classes (category : Category) {ds : List Definition} (hds : ∀ d ∈ ds, d.Writable) :
    Says 0 (ds.flatMap fun d => ["", ""] ++ guardedClassRows category d)
      (if ds.all Definition.isReadable then some (ds.flatMap (classStatements category))
        else none) := by
  induction ds with
  | nil => exact .nil
  | cons d ds ih =>
    have hclass := (says_guardedClass category (hds d List.mem_cons_self)).blank.blank
    have happend := hclass.append (ih fun e he => hds e (List.mem_cons_of_mem d he))
    rw [List.all_cons, List.flatMap_cons, List.flatMap_cons]
    generalize d.isReadable = readable at happend ⊢
    generalize ds.all Definition.isReadable = all at happend ⊢
    cases readable <;> cases all <;> exact happend

end Layout

end ControlSchema
