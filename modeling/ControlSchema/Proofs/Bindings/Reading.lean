import ControlSchema.Proofs.Bindings.Frame
import ControlSchema.Proofs.Text.Bytes

/-!
# Reading generated source

Whatever generated source can be read is read as the program of its snapshot.
A name with a line feed behind it never gets that far: in the catalogue it
leaves a line that goes back to column one, where no line before it begins.
-/

namespace ControlSchema

open Source Source.Expr Source.Statement Source.Token Number Text

namespace Layout

variable {s : Snapshot} {category : Category}

/-! ## The text as a page -/

theorem toList_intercalate_page (rows : List String) :
    ("\n".intercalate (rows ++ [""])).toList = page rows := by
  have hbreak : "\n".toList = ['\n'] := by decide
  rw [String.toList_intercalate, hbreak]
  induction rows with
  | nil => rfl
  | cons row rows ih =>
    rw [page_cons, ← ih]
    cases rows <;> simp

/-- The rows without the empty one at the end. -/
def fullRows (s : Snapshot) (category : Category) : List String :=
  preamble s.version category
    ++ catalogueRows category (s.definitions category)
    ++ (s.definitions category).flatMap (fun d => ["", ""] ++ guardedClassRows category d)
    ++ ["", ""]
    ++ dispatchRows category (s.definitions category)
    ++ (closing category).dropLast

theorem toList_text (s : Snapshot) (category : Category) :
    (text s category).toList = page (fullRows s category) := by
  have hrows : rows s category = fullRows s category ++ [""] := by
    rw [fullRows, List.append_assoc _ _ [""]]
    rfl
  rw [text, hrows, toList_intercalate_page]

/-- Zeros are looked for among bytes, which are at hand where characters are not. -/
theorem null_not_mem_text
    (h : ∀ row ∈ fullRows s category, (0 : UInt8) ∉ row.toByteArray.data.toList) :
    '\x00' ∉ (text s category).toList := by
  rw [toList_text]
  intro hzero
  obtain ⟨row, hrow, hmem⟩ := List.mem_flatMap.1 hzero
  rcases List.mem_append.1 hmem with hmem | hmem
  · exact h row hrow (Text.mem_toByteArray (by decide) hmem)
  · exact absurd hmem (by decide)

/-! ## Names without line feeds -/

/-- What stands behind the title, which alone has the text of the version. -/
theorem says_behind_title (hds : ∀ d ∈ s.definitions category, d.Writable) :
    Says 0 ((fullRows s category).drop 4) (if (s.definitions category).all Definition.isReadable
      then some (program s category).tail else none) := by
  have hfront := (says_setup s.version category).append_some (says_catalogue category _ hds)
  have hback := ((says_dispatch category hds).append_some
    (says_closing category)).blank.blank
  have hall := (hfront.append (says_classes category hds)).append hback
  have hrows : (fullRows s category).drop 4 = ((preamble s.version category).drop 4
      ++ catalogueRows category (s.definitions category)
      ++ (s.definitions category).flatMap fun d => ["", ""] ++ guardedClassRows category d)
      ++ ("" :: "" :: (dispatchRows category (s.definitions category)
        ++ (closing category).dropLast)) := by
    rw [fullRows]
    simp only [List.append_assoc, List.cons_append, List.nil_append]
    rfl
  rw [hrows, program]
  generalize (s.definitions category).all Definition.isReadable = readable at hall ⊢
  cases readable with
  | true =>
    simp only [List.append_assoc, if_true, Option.bind_some, Option.map_some] at hall ⊢
    exact hall
  | false => exact hall

theorem says_rows (hversion : s.version.IsWritten)
    (hds : ∀ d ∈ s.definitions category, d.Writable) : Says 0 (fullRows s category)
      (if (s.definitions category).all Definition.isReadable then some (program s category)
        else none) := by
  have hall := (says_title hversion category).append (says_behind_title hds)
  generalize (s.definitions category).all Definition.isReadable = readable at hall ⊢
  cases readable <;> exact hall

theorem read?_text_of_writable (hversion : s.version.IsWritten)
    (hds : ∀ d ∈ s.definitions category, d.Writable) (hnull : '\x00' ∉ (text s category).toList) :
    read? (text s category) = if (s.definitions category).all Definition.isReadable
      then some (program s category) else none :=
  read?_of_says (toList_text s category) hnull (says_rows hversion hds)

/-! ## Names with line feeds -/

/-- Rows that are read, and then a line that goes back to column one. -/
theorem read?_dedent {text : String} {front : List Char} {lines : List Line} {last : Line}
    {rest : List Char} (htext : text.toList = front ++ (Row.spaces 1 ++ '=' :: ' ' :: rest))
    (hfront : Scans front (some lines)) (hlast : lines.getLast? = some last)
    (hcolumns : ∀ line ∈ lines, line.column % 4 = 0) (hback : 1 < last.column) :
    read? text = none := by
  by_cases hnull : '\x00' ∈ text.toList
  · exact read?_null hnull
  rw [read?_eq_scan hnull, htext, hfront, Option.bind_some]
  cases hscan : scan (Row.spaces 1 ++ '=' :: ' ' :: rest) with
  | none => rfl
  | some found =>
    obtain ⟨ts, more, rfl⟩ := scan_equals hscan
    have hnest := @Block.nest?_dedent 0 lines more ⟨1, ts⟩ last hlast hback
      (fun line hline heq => by
        have hcolumn := hcolumns line hline
        rw [heq] at hcolumn
        cases hcolumn) Nat.one_ne_zero
    rw [Option.map_some, Option.bind_some, hnest]
    rfl

theorem memberRows_append (previous : Option String) (ds es : List Definition) :
    ∃ before, memberRows previous (ds ++ es) = memberRows previous ds ++ memberRows before es := by
  induction ds generalizing previous with
  | nil => exact ⟨previous, rfl⟩
  | cons d ds ih =>
    obtain ⟨before, hbefore⟩ := ih d.feature
    refine ⟨before, ?_⟩
    rw [List.cons_append, memberRows, memberRows, hbefore, List.append_assoc]

theorem memberRows_first (previous : Option String) (d : Definition) (rest : List Definition) :
    ∃ guards more, memberRows previous (d :: rest)
        = guards ++ (memberMargin d.feature ++ memberRow d) :: more ∧
      (guards = [] ∨ ∃ feature, d.feature = some feature ∧ guards = [indent ++ guard feature]) := by
  rw [memberRows]
  cases hfeature : d.feature with
  | none => exact ⟨[], _, rfl, Or.inl rfl⟩
  | some feature =>
    simp only
    by_cases hsame : (previous == some feature) = true
    · rw [if_pos hsame]
      exact ⟨[], _, rfl, Or.inl rfl⟩
    · rw [if_neg hsame]
      exact ⟨[indent ++ guard feature], _, rfl, Or.inr ⟨feature, rfl, rfl⟩⟩

/-- A catalogue that ends in the middle of a member's name. -/
theorem exists_catalogue_front (hversion : s.version.IsWritten) {good rest : List Definition}
    (hgood : ∀ e ∈ good, e.Writable) {d : Definition} (hd : d.Accepted)
    (hdefinitions : s.definitions category = good ++ d :: rest) :
    ∃ front lines margin more, page (fullRows s category)
        = front ++ (Row.spaces margin ++ (memberRow d).toList ++ '\n' :: more) ∧
      Scans front (some lines) ∧ (∀ line ∈ lines, line.column % 4 = 0) ∧ 0 < margin ∧
      margin % 4 = 0 := by
  obtain ⟨before, hbefore⟩ := memberRows_append none good (d :: rest)
  obtain ⟨guards, more, hfirst, hguards⟩ := memberRows_first before d rest
  have hmargin : ∃ margin, (memberMargin d.feature).toList = Row.spaces margin ∧ 0 < margin ∧
      margin % 4 = 0 := by
    rw [memberMargin]
    split
    · exact ⟨8, by decide, by decide, rfl⟩
    · exact ⟨4, by decide, by decide, rfl⟩
  obtain ⟨margin, hspaces, hpos, hfour⟩ := hmargin
  obtain ⟨glines, hgscans, hgcolumns⟩ : ∃ glines, Scans (page guards) (some glines) ∧
      ∀ line ∈ glines, line.column % 4 = 0 := by
    rcases hguards with rfl | ⟨feature, hfeature, rfl⟩
    · exact ⟨[], .nil, fun line hline => absurd hline List.not_mem_nil⟩
    · have hquotable : IsQuotable feature := Definition.feature_chars hd hfeature
      refine ⟨[⟨4, guardRow feature⟩], ?_, fun line hline => by
        rw [List.mem_singleton.1 hline]
        exact Nat.mod_self 4⟩
      have hrow : (indent ++ guard feature).toList
          = Row.spaces 4 ++ typeset (guardRow feature) := by
        rw [String.toList_append, toList_spaces_indent, toList_guard hquotable]
      rw [@Says.page_singleton _ ⟨4, guardRow feature⟩ hrow]
      exact scans_row (sound_guardRow hquotable) rfl
  have hsays := (says_preamble hversion category).append_some (says_catalogue category good hgood)
  generalize hstatements : preambleStatements s.version category
    ++ [catalogueStatement category good] = statements at hsays
  cases hsays with
  | @blocks blocks _ hscans hmeans =>
    refine ⟨page (preamble s.version category ++ catalogueRows category good) ++ page guards,
      Block.linesAll 0 blocks ++ glines, margin, page (more
        ++ ((s.definitions category).flatMap (fun d => ["", ""] ++ guardedClassRows category d)
        ++ (["", ""] ++ (dispatchRows category (s.definitions category)
        ++ (closing category).dropLast)))), ?_, hscans.append hgscans, fun line hline => ?_,
      hpos, hfour⟩
    · have hrows : fullRows s category = (preamble s.version category
          ++ catalogueRows category good) ++ (guards
          ++ ((memberMargin d.feature ++ memberRow d) :: (more
          ++ ((s.definitions category).flatMap (fun d => ["", ""] ++ guardedClassRows category d)
          ++ (["", ""] ++ (dispatchRows category (s.definitions category)
          ++ (closing category).dropLast)))))) := by
        have hcatalogue : catalogueRows category (s.definitions category)
            = catalogueRows category good ++ (guards
              ++ (memberMargin d.feature ++ memberRow d) :: more) := by
          rw [hdefinitions, catalogueRows, hbefore, hfirst, catalogueRows, List.append_assoc]
        rw [fullRows, hcatalogue]
        simp only [List.append_assoc, List.cons_append]
      rw [hrows, page_append, page_append guards, page_cons, String.toList_append, hspaces]
      simp only [List.append_assoc, List.singleton_append]
    · rcases List.mem_append.1 hline with hline | hline
      · obtain ⟨k, hk⟩ := Block.column_of_mem_linesAll hline
        omega
      · exact hgcolumns line hline

/-- No source with a line feed in a name can be read. -/
theorem read?_text_of_not_plain (hversion : s.version.IsWritten) {good rest : List Definition}
    (hgood : ∀ e ∈ good, e.Writable) {d : Definition} (hd : d.Accepted) (hplain : ¬ d.IsPlain)
    (hdefinitions : s.definitions category = good ++ d :: rest) :
    read? (text s category) = none := by
  obtain ⟨w, hw, hword⟩ := (Naming.isSchemaName_cases hd.name).resolve_left hplain
  obtain ⟨front, lines, margin, more, hpage, hscans, hcolumns, hpos, hfour⟩ :=
    exists_catalogue_front hversion hgood hd hdefinitions
  have hrow : Row.Sound ⟨margin, [.word (String.ofList w)]⟩ := by
    have hascii := Naming.isAsciiName_of_isPlainName hword
    refine ⟨?_, rfl, List.cons_ne_nil _ _⟩
    simp [sound_word_iff, hascii]
  have hname := scans_row hrow rfl
  have htext : (text s category).toList = (front
      ++ (Row.mk margin [.word (String.ofList w)]).characters)
      ++ (Row.spaces 1
        ++ '=' :: ' ' :: ("_ids.".toList ++ d.linkageName.toList ++ '\n' :: more)) := by
    rw [toList_text, hpage, memberRow]
    generalize d.linkageName = linkage
    simp [hw, Row.characters, Row.spaces, typeset, Token.spelling]
  refine read?_dedent htext (hscans.append hname) List.getLast?_concat (fun line hline => ?_) ?_
  · rcases List.mem_append.1 hline with hline | hline
    · exact hcolumns line hline
    · rw [List.mem_singleton.1 hline]
      exact hfour
  · show 1 < margin
    omega

/-! ## What has been read -/

theorem exists_first_not {α : Type} {P : α → Prop} {as : List α} (h : ¬ ∀ a ∈ as, P a) :
    ∃ front a rest, as = front ++ a :: rest ∧ (∀ b ∈ front, P b) ∧ ¬ P a := by
  induction as with
  | nil => exact absurd (fun a ha => absurd ha List.not_mem_nil) h
  | cons a as ih =>
    by_cases ha : P a
    · have hrest : ¬ ∀ b ∈ as, P b := fun hall => h (List.forall_mem_cons.2 ⟨ha, hall⟩)
      obtain ⟨front, b, rest, rfl, hfront, hb⟩ := ih hrest
      exact ⟨a :: front, b, rest, rfl, List.forall_mem_cons.2 ⟨ha, hfront⟩, hb⟩
    · exact ⟨[], a, as, rfl, fun b hb => absurd hb List.not_mem_nil, ha⟩

/-- The source of accepted definitions is read as the program or not at all, and
it is not read only for a name with a line feed, a docstring or hint without a
reading, or a null character. -/
theorem read?_text_eq_some_iff (hversion : s.version.IsWritten)
    (hds : ∀ d ∈ s.definitions category, d.Accepted ∧ Naming.isKeyword d.name = false)
    {statements : List Statement} : read? (text s category) = some statements ↔
      ((∀ d ∈ s.definitions category, d.IsPlain) ∧
        (∀ d ∈ s.definitions category, d.isReadable = true) ∧
        '\x00' ∉ (text s category).toList) ∧ statements = program s category := by
  by_cases hnull : '\x00' ∈ (text s category).toList
  · rw [read?_null hnull]
    exact ⟨nofun, fun h => absurd hnull h.1.2.2⟩
  by_cases hplain : ∀ d ∈ s.definitions category, d.IsPlain
  · have hwritable : ∀ d ∈ s.definitions category, d.Writable := fun d hd =>
      ⟨(hds d hd).1, hplain d hd, (hds d hd).2⟩
    rw [read?_text_of_writable hversion hwritable hnull, ← List.all_eq_true]
    split
    · rename_i hreadable
      rw [Option.some.injEq, eq_comm]
      exact ⟨fun h => ⟨⟨hplain, hreadable, hnull⟩, h⟩, fun h => h.2⟩
    · rename_i hreadable
      exact ⟨nofun, fun h => absurd h.1.2.1 hreadable⟩
  · obtain ⟨good, d, rest, hdefinitions, hgood, hd⟩ := exists_first_not hplain
    have hmem {e : Definition} (he : e ∈ good ++ d :: rest) : e ∈ s.definitions category := by
      rw [hdefinitions]
      exact he
    have hwritable : ∀ e ∈ good, e.Writable := fun e he =>
      have hfacts := hds e (hmem (List.mem_append_left _ he))
      ⟨hfacts.1, hgood e he, hfacts.2⟩
    have haccepted := (hds d (hmem (List.mem_append_right _ List.mem_cons_self))).1
    rw [read?_text_of_not_plain hversion hwritable haccepted hd hdefinitions]
    exact ⟨nofun, fun h => absurd h.1.1 hplain⟩

end Layout

end ControlSchema
