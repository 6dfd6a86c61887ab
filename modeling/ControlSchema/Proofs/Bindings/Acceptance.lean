import ControlSchema.Proofs.Bindings.Gating
import ControlSchema.Proofs.Shape
import ControlSchema.Proofs.Source.Closing
import ControlSchema.Readers.Standard
import ControlSchema.Release

/-!
# Which releases can be generated

What a published release defines passes all checks, and yet generation can refuse it. Reserved names
are refused on purpose, and a dimension that is too long to be written ends the generation. Beyond
these, three things leave source that cannot be read: a name with a line feed behind it, which the
check of names lets through; a docstring that its own escapes leave open; and a hint that nests more
brackets than a reader follows. Nothing else does, as long as no description has a null character.
-/

namespace ControlSchema

open Text Number

/-! ## Null characters -/

/-- A text without null characters. -/
def NullFree (s : String) : Prop := '\x00' ∉ s.toList

instance (s : String) : Decidable (NullFree s) := inferInstanceAs (Decidable (¬ _))

namespace NullFree

theorem append_iff {a b : String} : NullFree (a ++ b) ↔ NullFree a ∧ NullFree b := by
  rw [NullFree, String.toList_append, List.mem_append, not_or]
  rfl

theorem intercalate {separator : String} (hseparator : NullFree separator) {parts : List String}
    (hparts : ∀ part ∈ parts, NullFree part) : NullFree (separator.intercalate parts) := by
  rw [NullFree, String.toList_intercalate]
  intro hnull
  refine absurd rfl (forall_mem_intercalate (P := (· ≠ '\x00')) ?_ ?_ '\x00' hnull)
  · rintro c hc rfl
    exact hseparator hc
  · intro cs hcs c hc
    obtain ⟨part, hpart, rfl⟩ := List.mem_map.1 hcs
    rintro rfl
    exact hparts part hpart hc

theorem of_infix {a b : String} (h : a.toList <:+: b.toList) (hb : NullFree b) : NullFree a :=
  fun hnull => hb (h.subset hnull)

theorem of_name {s : String} (h : isAsciiName s.toList = true) : NullFree s := by
  obtain ⟨c, cs, hcs, hc, -, hrest⟩ := Source.isAsciiName_cons h
  intro hnull
  rw [hcs] at hnull
  rcases List.mem_cons.1 hnull with heq | hnull
  · rw [← heq] at hc
    cases hc
  · cases hrest _ hnull

theorem digitsText (n : Nat) : NullFree (digitsText n) :=
  fun hnull => Bool.false_ne_true (isDigit_digitsText n _ hnull)

theorem intText (i : Int) : NullFree (intText i) := by
  intro hnull
  rcases intText_chars i _ hnull with heq | hdigit
  · cases heq
  · cases hdigit

theorem stripRight {s : String} (h : NullFree s) : NullFree (stripRight s) := by
  refine of_infix ?_ h
  rw [Text.stripRight, String.toList_ofList]
  exact (isPrefix_stripEnd _).isInfix

theorem of_mem_lines {s line : String} (hline : line ∈ lines s) (h : NullFree s) : NullFree line :=
  of_infix (infix_of_mem_lines hline) h

end NullFree

/-- No description of the definition has a null character. -/
structure Definition.IsNullFree (d : Definition) : Prop where
  description : NullFree d.description
  enumerators : ∀ e ∈ d.enumerators, NullFree e.description

namespace Descriptor

theorem nullFree_hint (d : Descriptor) : NullFree d.hint := by
  have helement : NullFree (d.kind.elementType?.getD "None") := by cases d.kind <;> decide
  have htuple (dim : Nat) {inner : String} (hinner : NullFree inner) :
      NullFree (tupleHint dim inner) := by
    rw [tupleHint]
    split
    · refine NullFree.append_iff.2 ⟨NullFree.append_iff.2 ⟨by decide,
        NullFree.intercalate (by decide) fun part hpart => ?_⟩, by decide⟩
      rw [List.eq_of_mem_replicate hpart]
      exact hinner
    · simp +decide only [NullFree.append_iff, hinner, and_self]
  have htuples (dims : List Nat) {inner : String} (hinner : NullFree inner) :
      NullFree (dims.foldl (fun hint dim => tupleHint dim hint) inner) := by
    induction dims generalizing inner with
    | nil => exact hinner
    | cons dim dims ih => exact ih (htuple dim hinner)
  rw [hint]
  split
  · exact helement
  · exact helement
  · simp +decide only [NullFree.append_iff, helement, and_self]
  · exact htuples _ helement

theorem nullFree_source (d : Descriptor) : NullFree (d.source "_types.") := by
  have hkind : NullFree d.kind.constant := by cases d.kind <;> decide
  have hshape : NullFree (d.shape.source "_types.") := by
    rw [Shape.source.eq_def]
    split
    · decide
    · rename_i dims _
      have hdims : NullFree (", ".intercalate (dims.map digitsText)) := by
        refine NullFree.intercalate (by decide) fun part hpart => ?_
        obtain ⟨dim, -, rfl⟩ := List.mem_map.1 hpart
        exact NullFree.digitsText dim
      simp +decide only [NullFree.append_iff, hdims, and_self]
    · decide
  simp +decide only [source, NullFree.append_iff, hkind, hshape, and_self]

end Descriptor

theorem Definition.mem_of_variant {d : Definition} {e : Enumerator} {name : String}
    (h : (e, name) ∈ d.variants) : e ∈ d.enumerators := by
  obtain ⟨e', he', hname⟩ := List.mem_filterMap.1 h
  split at hname
  · cases hname
    exact he'
  · cases hname

namespace Layout

variable {margin : String} (hmargin : NullFree margin)

/-! ### Rows of a class -/

section

include hmargin

theorem nullFree_commentRows {description : String} (h : NullFree description) :
    ∀ row ∈ commentRows margin description, NullFree row := by
  intro row hrow
  obtain ⟨line, hline, rfl⟩ := List.mem_map.1 hrow
  refine NullFree.stripRight (NullFree.append_iff.2
    ⟨NullFree.append_iff.2 ⟨hmargin, by decide⟩, ?_⟩)
  exact (h.of_infix (isInfix_strip description)).of_mem_lines hline

theorem nullFree_docstring {description : String} (h : NullFree description) :
    ∀ row ∈ Source.Docstring.rows margin description, NullFree row := by
  have hstrip : NullFree (strip description) := h.of_infix (isInfix_strip description)
  have hbody : NullFree (Source.Docstring.body description) := by
    rw [NullFree, Source.Docstring.mem_body_iff (by decide) (by decide)]
    exact hstrip
  have hmark : NullFree (margin ++ Source.Docstring.tripleMark) :=
    NullFree.append_iff.2 ⟨hmargin, by decide⟩
  intro row hrow
  obtain rfl | ⟨line, hline, rfl | rfl⟩ := Source.Docstring.cases_of_mem_rows hrow
  · exact hmark
  · exact NullFree.append_iff.2
      ⟨NullFree.append_iff.2 ⟨hmark, hbody.of_mem_lines hline⟩, by decide⟩
  · exact (NullFree.append_iff.2 ⟨hmargin, hbody.of_mem_lines hline⟩).stripRight

theorem nullFree_enumeratorRows (first : Bool) {e : Enumerator} (he : NullFree e.description)
    {name : String} (hname : NullFree name) :
    ∀ row ∈ enumeratorRows margin first e name, NullFree row := by
  intro row hrow
  rcases List.mem_append.1 hrow with hrow | hrow
  · rcases List.mem_append.1 hrow with hrow | hrow
    · split at hrow
      · cases hrow
      · rw [List.mem_singleton.1 hrow]
        decide
    · exact nullFree_commentRows hmargin he row hrow
  · rw [List.mem_singleton.1 hrow]
    simp +decide only [NullFree.append_iff, hmargin, hname, NullFree.intText, and_self]

theorem nullFree_enumerationRows {d : Definition} (hd : d.Accepted) (hnull : d.IsNullFree) :
    ∀ row ∈ enumerationRows margin d, NullFree row := by
  have hmember (first : Bool) {e : Enumerator} {name : String} (h : (e, name) ∈ d.variants) :
      ∀ row ∈ enumeratorRows margin first e name, NullFree row :=
    nullFree_enumeratorRows hmargin first (hnull.enumerators e (Definition.mem_of_variant h))
      (NullFree.of_name (Definition.variant_facts hd h).1)
  rw [enumerationRows]
  generalize d.variants = variants at hmember
  cases variants with
  | nil => exact List.forall_mem_nil _
  | cons first rest =>
    exact List.forall_mem_append.2 ⟨hmember true List.mem_cons_self, List.forall_mem_flatMap.2
      fun variant hvariant => hmember false (List.mem_cons_of_mem first hvariant)⟩

theorem nullFree_bodyRows {d : Definition} (hd : d.Accepted) (hnull : d.IsNullFree) :
    ∀ row ∈ bodyRows margin d, NullFree row := by
  have hdoc := nullFree_docstring hmargin hnull.description
  have hmembers := nullFree_enumerationRows hmargin hd hnull
  have hapart (rows : List String) :
      ∀ row ∈ if rows.isEmpty then [] else [""], NullFree row := by
    split
    · exact List.forall_mem_nil _
    · exact List.forall_mem_singleton.2 (by decide)
  have hpass : NullFree (margin ++ "pass") := NullFree.append_iff.2 ⟨hmargin, by decide⟩
  have hvalue : NullFree (margin ++ "value: " ++ d.descriptor.hint) :=
    NullFree.append_iff.2
      ⟨NullFree.append_iff.2 ⟨hmargin, by decide⟩, d.descriptor.nullFree_hint⟩
  rw [bodyRows]
  generalize Source.Docstring.rows margin d.description = doc at hdoc ⊢
  simp only
  split
  · split
    · split
      · exact List.forall_mem_singleton.2 hpass
      · exact hdoc
    · exact List.forall_mem_append.2 ⟨List.forall_mem_append.2 ⟨hdoc, hapart doc⟩, hmembers⟩
  · exact List.forall_mem_append.2 ⟨List.forall_mem_append.2 ⟨hdoc, hapart doc⟩,
      List.forall_mem_singleton.2 hvalue⟩

theorem nullFree_classRows {d : Definition} (hd : d.Writable) (hnull : d.IsNullFree)
    (category : Category) : ∀ row ∈ classRows margin category d, NullFree row := by
  have hname := NullFree.of_name hd.isAsciiName_name
  have hsource := d.descriptor.nullFree_source
  have hwords : NullFree category.idClass ∧ NullFree category.marker ∧ NullFree (baseClass d) := by
    refine ⟨by cases category <;> decide, by cases category <;> decide, ?_⟩
    rw [baseClass]
    split <;> decide
  refine List.forall_mem_append.2 ⟨?_, nullFree_bodyRows
    (NullFree.append_iff.2 ⟨hmargin, by decide⟩) hd.accepted hnull⟩
  simp +decide only [identifier, List.forall_mem_cons, NullFree.append_iff, hmargin, hname,
    hsource, hwords.1, hwords.2.1, hwords.2.2, and_self]

end

/-! ### Other rows -/

theorem nullFree_version {v : Version} (hv : v.IsWritten) : NullFree v.text := fun hnull => by
  rcases v.text_chars hv _ hnull with h | h <;> cases h

theorem nullFree_preamble {v : Version} (hversion : NullFree v.text) (category : Category) :
    ∀ row ∈ preamble v category, NullFree row := by
  have hword : NullFree category.word ∧ NullFree (quoted category.word) := by
    cases category <;> exact ⟨by decide +kernel, by decide +kernel⟩
  simp +decide only [preamble, List.forall_mem_cons, NullFree.append_iff, hversion, hword.1,
    hword.2, NullFree.digitsText, and_true]

theorem nullFree_guard {d : Definition} (hd : d.Accepted) {feature : String}
    (hfeature : d.feature = some feature) : NullFree (guard feature) := by
  have hchars := (Definition.feature_chars hd hfeature).2
  have hquoted : NullFree (quoted feature) := by
    rw [NullFree, toList_quoted hchars]
    intro hnull
    simp only [List.cons_append, List.mem_cons, List.mem_append, List.not_mem_nil, or_false,
      Char.reduceEq, false_or] at hnull
    exact Bool.false_ne_true (hchars _ hnull)
  unfold guard
  generalize quoted feature = mark at hquoted ⊢
  simp +decide only [NullFree.append_iff, hquoted, and_self]

theorem nullFree_memberRows {ds : List Definition} (hds : ∀ d ∈ ds, d.Writable)
    (previous : Option String) : ∀ row ∈ memberRows previous ds, NullFree row := by
  induction ds generalizing previous with
  | nil => exact List.forall_mem_nil _
  | cons d ds ih =>
    obtain ⟨hd, hrest⟩ := List.forall_mem_cons.1 hds
    have hmember : NullFree (memberRow d) := by
      have hname := NullFree.of_name hd.isAsciiName_name
      have hlinkage := NullFree.of_name hd.isAsciiName_linkageName
      simp +decide only [memberRow, NullFree.append_iff, hname, hlinkage, and_self]
    rw [memberRows]
    refine List.forall_mem_append.2 ⟨?_, ih hrest d.feature⟩
    split
    · exact List.forall_mem_singleton.2 (NullFree.append_iff.2 ⟨by decide, hmember⟩)
    · rename_i feature hfeature
      have hguard := nullFree_guard hd.accepted hfeature
      refine List.forall_mem_append.2 ⟨?_, ?_⟩
      · split
        · exact List.forall_mem_nil _
        · exact List.forall_mem_singleton.2 (NullFree.append_iff.2 ⟨by decide, hguard⟩)
      · exact List.forall_mem_singleton.2 (NullFree.append_iff.2 ⟨by decide, hmember⟩)

theorem nullFree_dispatchRows {ds : List Definition} (hds : ∀ d ∈ ds, d.Writable)
    (category : Category) : ∀ row ∈ dispatchRows category ds, NullFree row := by
  have hclass : NullFree category.idClass := by cases category <;> decide
  have hentries {margin : String} (hmargin : NullFree margin) (feature : Option String) :
      ∀ row ∈ (ds.filter (·.feature == feature)).map (dispatchRow margin category),
        NullFree row := by
    intro row hrow
    obtain ⟨d, hd, rfl⟩ := List.mem_map.1 hrow
    have hname := NullFree.of_name (hds d (List.mem_filter.1 hd).1).isAsciiName_name
    simp +decide only [dispatchRow, identifier, NullFree.append_iff, hmargin, hclass, hname,
      and_self]
  have hmargins : NullFree indent ∧ NullFree "            " := by decide
  have hupdates : ∀ row ∈ (features ds).flatMap (updateRows category ds), NullFree row := by
    refine List.forall_mem_flatMap.2 fun feature hfeature => ?_
    obtain ⟨d, hd, hfeature⟩ := List.mem_filterMap.1 (List.mem_eraseDups.1 hfeature)
    have hguard := nullFree_guard (hds d hd).accepted hfeature
    refine List.forall_mem_append.2 ⟨List.forall_mem_append.2 ⟨?_, hentries hmargins.2 _⟩, ?_⟩
    · simp +decide only [List.forall_mem_cons, hguard, and_true]
    · decide
  refine List.forall_mem_append.2 ⟨List.forall_mem_append.2 ⟨List.forall_mem_append.2
    ⟨?_, hentries hmargins.1 none⟩, ?_⟩, hupdates⟩ <;> decide

/-- Null characters in generated source come from the version and from descriptions. -/
theorem nullFree_text {s : Snapshot} {category : Category} (hversion : NullFree s.version.text)
    (hds : ∀ d ∈ s.definitions category, d.Writable)
    (hnull : ∀ d ∈ s.definitions category, d.IsNullFree) : NullFree (text s category) := by
  have hclass : NullFree category.idClass ∧ NullFree category.word := by
    cases category <;> exact ⟨by decide, by decide⟩
  have hcatalogue : ∀ row ∈ catalogueRows category (s.definitions category), NullFree row := by
    refine List.forall_mem_append.2 ⟨?_, nullFree_memberRows hds none⟩
    simp +decide only [List.forall_mem_cons, NullFree.append_iff, hclass.1, hclass.2, and_true]
  have hapart : ∀ row ∈ ["", ""], NullFree row := by decide
  have hclasses : ∀ row ∈ (s.definitions category).flatMap
      (fun d => ["", ""] ++ guardedClassRows category d), NullFree row := by
    refine List.forall_mem_flatMap.2 fun d hd => List.forall_mem_append.2 ⟨hapart, ?_⟩
    rw [guardedClassRows]
    split
    · exact nullFree_classRows (by decide) (hds d hd) (hnull d hd) category
    · rename_i feature hfeature
      refine List.forall_mem_append.2 ⟨List.forall_mem_cons.2
        ⟨nullFree_guard (hds d hd).accepted hfeature, by decide⟩, ?_⟩
      exact nullFree_classRows (by decide) (hds d hd) (hnull d hd) category
  have hclosing : ∀ row ∈ closing category, NullFree row := by
    cases category <;> decide
  refine NullFree.intercalate (by decide) ?_
  rw [rows]
  exact List.forall_mem_append.2 ⟨List.forall_mem_append.2 ⟨List.forall_mem_append.2
    ⟨List.forall_mem_append.2 ⟨List.forall_mem_append.2 ⟨nullFree_preamble hversion category,
      hcatalogue⟩, hclasses⟩, hapart⟩, nullFree_dispatchRows hds category⟩, hclosing⟩

end Layout

/-! ## What a release defines -/

namespace Document

variable [Readers]

theorem ofSchema_of_ofItem {file : String} {vendor item : Datum} {d : Definition}
    (h : ofItem file vendor item = .ok d) : d.OfSchema := by
  rw [ofItem.eq_def] at h
  split at h
  · split at h
    · exact ⟨_, _, _, _, Attempt.mapError_eq_ok h⟩
    · cases h
  · cases h

theorem ofSchema_of_ofRoot {file : String} {root : Datum} {ds : List Definition}
    (h : ofRoot file root = .ok ds) : ∀ d ∈ ds, d.OfSchema := by
  rw [ofRoot.eq_def] at h
  split at h
  · split at h
    · exact Attempt.forall_of_mapM (fun _ _ => ofSchema_of_ofItem) h
    · cases h
  · cases h

theorem ofSchema_of_parse {file text : String} {ds : List Definition}
    (h : parse file text = .ok ds) : ∀ d ∈ ds, d.OfSchema := by
  obtain ⟨roots, -, h⟩ := Attempt.bind_eq_ok h
  obtain ⟨dss, hdss, h⟩ := Attempt.bind_eq_ok h
  cases h
  exact Attempt.forall_mem_flatten_of_mapM (fun _ _ => ofSchema_of_ofRoot) hdss

theorem ofSchema_of_parseAll {documents : Table String String} {ds : List Definition}
    (h : parseAll documents = .ok ds) : ∀ d ∈ ds, d.OfSchema := by
  obtain ⟨dss, hdss, h⟩ := Attempt.bind_eq_ok h
  cases h
  exact Attempt.forall_mem_flatten_of_mapM (fun _ _ => ofSchema_of_parse) hdss

end Document

/-- A release is parsed into an accepted snapshot of schema entries. -/
theorem Release.accepted_of_parse [Readers] {r : Release} {s : Snapshot} (h : r.parse = .ok s) :
    s.Accepted ∧ ∀ category, ∀ d ∈ s.definitions category, d.OfSchema := by
  obtain ⟨controls, hcontrols, h⟩ := Attempt.bind_eq_ok h
  obtain ⟨properties, hproperties, h⟩ := Attempt.bind_eq_ok h
  have hcontrols := Document.ofSchema_of_parseAll (Attempt.mapError_eq_ok hcontrols)
  have hproperties := Document.ofSchema_of_parseAll (Attempt.mapError_eq_ok hproperties)
  have hsnapshot := Attempt.mapError_eq_ok h
  refine ⟨Snapshot.accepted_of_ofDefinitions (fun d hd => (hcontrols d hd).accepted)
    (fun d hd => (hproperties d hd).accepted) hsnapshot, fun category => ?_⟩
  rw [Snapshot.ofDefinitions] at hsnapshot
  split at hsnapshot
  · cases hsnapshot
  · cases hsnapshot
  · cases hsnapshot
    cases category
    · exact hcontrols
    · exact hproperties

theorem Release.version_of_parse [Readers] {r : Release} {s : Snapshot} (h : r.parse = .ok s) :
    s.version = r.version := by
  obtain ⟨controls, -, h⟩ := Attempt.bind_eq_ok h
  obtain ⟨properties, -, h⟩ := Attempt.bind_eq_ok h
  have hsnapshot := Attempt.mapError_eq_ok h
  rw [Snapshot.ofDefinitions] at hsnapshot
  split at hsnapshot
  · cases hsnapshot
  · cases hsnapshot
  · cases hsnapshot
    rfl

/-! ## What spoils a module -/

/-- A definition that source cannot be read with. -/
inductive Definition.Spoils (d : Definition) : Prop
  | name (h : d.name.toList.getLast? = some '\n') : d.Spoils
  | docstring (hline : ∀ c ∈ (strip d.description).toList, isLineBreak c = false)
      (hmarks : Source.Docstring.marksAtEnd (strip d.description).toList ≠ 0)
      (hthrees : Source.Docstring.marksAtEnd (strip d.description).toList % 3 = 0) : d.Spoils
  | hint {dims : List Nat} (henum : d.isEnum = false) (hkind : d.kind ≠ .string)
      (hshape : d.shape = .fixed dims) (hdims : Source.Line.nestingLimit < dims.length) : d.Spoils

namespace Definition

theorem not_isPlain_iff {d : Definition} (hd : d.Accepted) :
    ¬ d.IsPlain ↔ d.name.toList.getLast? = some '\n' := by
  constructor
  · intro hplain
    obtain ⟨w, hw, -⟩ := (Naming.isSchemaName_cases hd.name).resolve_left hplain
    rw [hw, List.getLast?_concat]
  · intro hlast hplain
    have hchar := Naming.isAlphanum_of_isPlainName hplain _ (List.mem_of_getLast? hlast)
    cases hchar

theorem hasReadableHint_eq_false_iff {d : Definition} (hd : d.OfSchema) :
    d.descriptor.hasReadableHint = false ↔ d.kind ≠ .string ∧
      ∃ dims, d.shape = .fixed dims ∧ Source.Line.nestingLimit < dims.length := by
  have hpositive := hd.isPositive
  rw [Descriptor.hasReadableHint, descriptor]
  cases hshape : d.shape with
  | fixed dims =>
    rw [hshape] at hpositive
    have hall : dims.all (0 < ·) = true := by
      rw [List.all_eq_true]
      exact fun dim hdim => decide_eq_true (hpositive dim hdim)
    cases d.kind <;> simp [hall]
  | _ => cases d.kind <;> simp

theorem spoils_iff {d : Definition} (hd : d.Accepted) (hschema : d.OfSchema) :
    d.Spoils ↔ ¬ (d.IsPlain ∧ d.isReadable = true) := by
  rw [not_and_or, not_isPlain_iff hd, Bool.not_eq_true, isReadable, Bool.and_eq_false_iff,
    Bool.or_eq_false_iff, Source.Docstring.isClosed_eq_false_iff,
    hasReadableHint_eq_false_iff hschema]
  constructor
  · intro h
    cases h with
    | name h => exact Or.inl h
    | docstring hline hmarks hthrees => exact Or.inr (Or.inl ⟨hline, hmarks, hthrees⟩)
    | hint henum hkind hshape hdims => exact Or.inr (Or.inr ⟨henum, hkind, _, hshape, hdims⟩)
  · rintro (h | ⟨hline, hmarks, hthrees⟩ | ⟨henum, hkind, dims, hshape, hdims⟩)
    · exact .name h
    · exact .docstring hline hmarks hthrees
    · exact .hint henum hkind hshape hdims

end Definition

/-! ## Outcomes -/

namespace Bindings

/-- Source that cannot be read is the source of accepted names and numbers with a definition in it
that has no reading. -/
theorem generate_eq_unreadable_iff {s : Snapshot} (hs : s.Accepted)
    (hversion : s.version.IsWritten) {category : Category} :
    generate s category = .error .unreadable ↔ checkNames [] (s.definitions category) = .ok () ∧
      isWritable s category = true ∧ ¬ ((∀ d ∈ s.definitions category, d.IsPlain) ∧
        (∀ d ∈ s.definitions category, d.isReadable = true) ∧
        NullFree (Layout.text s category)) := by
  have hok := @generate_eq_ok_iff s hs hversion category (Layout.text s category)
  rcases generate_cases s category with ⟨e, hnames, hgenerate⟩ | ⟨-, hlong, hgenerate⟩ |
    ⟨hnames, hwritable, hnone, hgenerate⟩ | ⟨statements, hnames, hwritable, hsome, hgenerate⟩
  · rw [hgenerate, hnames]
    refine ⟨fun h => ?_, fun h => nomatch h.1⟩
    obtain ⟨name, rfl⟩ | ⟨name, rfl⟩ | ⟨control, variant, rfl⟩ := error_of_checkNames hnames <;>
      cases h
  · rw [hgenerate, hlong]
    exact ⟨nofun, fun h => nomatch h.2.1⟩
  · rw [hgenerate] at hok ⊢
    exact ⟨fun _ => ⟨hnames, hwritable, fun h => nomatch hok.2 ⟨hnames, hwritable, h, rfl⟩⟩,
      fun _ => rfl⟩
  · obtain ⟨hnamed, -⟩ := named_of_checkNames hnames
    obtain ⟨hreadable, -⟩ := (Layout.read?_text_eq_some_iff hversion
      fun d hd => ⟨hs.definitions category d hd, hnamed.isKeyword hd⟩).1 hsome
    rw [hok.2 ⟨hnames, hwritable, hreadable, rfl⟩]
    exact ⟨nofun, fun h => absurd hreadable h.2.2⟩

/-- A number that is too long stops the generation of accepted names. -/
theorem generate_eq_unwritable_iff {s : Snapshot} {category : Category} :
    generate s category = .error .unwritable ↔ checkNames [] (s.definitions category) = .ok () ∧
      isWritable s category = false := by
  rcases generate_cases s category with ⟨e, hnames, hgenerate⟩ | ⟨hnames, hlong, hgenerate⟩ |
    ⟨hnames, hwritable, -, hgenerate⟩ | ⟨statements, hnames, hwritable, -, hgenerate⟩
  · rw [hgenerate, hnames]
    refine ⟨fun h => ?_, fun h => nomatch h.1⟩
    obtain ⟨name, rfl⟩ | ⟨name, rfl⟩ | ⟨control, variant, rfl⟩ := error_of_checkNames hnames <;>
      cases h
  · exact iff_of_true hgenerate ⟨hnames, hlong⟩
  · rw [hgenerate, hwritable]
    exact ⟨nofun, fun h => nomatch h.2⟩
  · rw [hgenerate, hwritable]
    refine ⟨fun h => ?_, fun h => nomatch h.2⟩
    split at h <;> cases h

/-- Of a parsed release without null characters, generation refuses reserved names, and beyond these
exactly the dimensions that are too long and the definitions that spoil a module. -/
theorem generate_of_parse [Readers] {r : Release} {text : String}
    (hversion : Version.parse text = .ok r.version) {s : Snapshot} (hparse : r.parse = .ok s)
    (category : Category) (hnull : ∀ d ∈ s.definitions category, d.IsNullFree) :
    (∀ e, generate s category = .error e → (∃ name, e = .reservedName name) ∨
      (∃ control variant, e = .reservedVariant control variant) ∨ e = .unwritable ∨
        e = .unreadable) ∧
    (generate s category = .error .unwritable ↔
      checkNames [] (s.definitions category) = .ok () ∧
        ∃ d ∈ s.definitions category, ∃ dim ∈ d.shape.dims, (Datum.int dim).IsLong) ∧
    (generate s category = .error .unreadable ↔
      checkNames [] (s.definitions category) = .ok () ∧
        (∀ d ∈ s.definitions category, ∀ dim ∈ d.shape.dims, ¬ (Datum.int dim).IsLong) ∧
        ∃ d ∈ s.definitions category, d.Spoils) := by
  obtain ⟨hs, hschema⟩ := Release.accepted_of_parse hparse
  have hwritten : s.version.IsWritten :=
    Release.version_of_parse hparse ▸ Version.isWritten_of_parse hversion
  have hlong := @isWritable_eq_false_iff s category
    (Release.version_of_parse hparse ▸ Version.isWritable_of_parse hversion)
  refine ⟨fun e he => ?_, by rw [generate_eq_unwritable_iff, hlong], ?_⟩
  · rcases generate_cases s category with ⟨e', hnames, hgenerate⟩ | ⟨-, -, hgenerate⟩ |
      ⟨-, -, -, hgenerate⟩ | ⟨statements, hnames, hwritable, hsome, hgenerate⟩
    · obtain rfl : e' = e := Except.error.inj (hgenerate.symm.trans he)
      obtain ⟨name, rfl⟩ | hreserved | hreserved := error_of_checkNames hnames
      · exact absurd hnames (checkNames_ne_repeatedName (hs.names category)
          (fun d _ => List.not_mem_nil) name)
      · exact Or.inl hreserved
      · exact Or.inr (Or.inl hreserved)
    · exact Or.inr (Or.inr (Or.inl (Except.error.inj (he.symm.trans hgenerate))))
    · exact Or.inr (Or.inr (Or.inr (Except.error.inj (he.symm.trans hgenerate))))
    · obtain ⟨hnamed, -⟩ := named_of_checkNames hnames
      obtain ⟨hreadable, -⟩ := (Layout.read?_text_eq_some_iff hwritten
        fun d hd => ⟨hs.definitions category d hd, hnamed.isKeyword hd⟩).1 hsome
      cases he.symm.trans ((generate_eq_ok_iff hs hwritten).2 ⟨hnames, hwritable, hreadable, rfl⟩)
  · have hshort : isWritable s category = true ↔
        ∀ d ∈ s.definitions category, ∀ dim ∈ d.shape.dims, ¬ (Datum.int dim).IsLong := by
      rw [← Bool.not_eq_false, hlong]
      push Not
      rfl
    rw [generate_eq_unreadable_iff hs hwritten, hshort]
    refine and_congr_right fun hnames => and_congr_right fun _ => ?_
    obtain ⟨hnamed, -⟩ := named_of_checkNames hnames
    have hspoils {d : Definition} (hd : d ∈ s.definitions category) :=
      Definition.spoils_iff (hs.definitions category d hd) (hschema category d hd)
    constructor
    · intro h
      by_contra hnone
      push Not at hnone
      have hfacts : ∀ d ∈ s.definitions category, d.IsPlain ∧ d.isReadable = true :=
        fun d hd => not_not.1 fun hbad => hnone d hd ((hspoils hd).2 hbad)
      refine h ⟨fun d hd => (hfacts d hd).1, fun d hd => (hfacts d hd).2, ?_⟩
      exact Layout.nullFree_text (Layout.nullFree_version hwritten) (fun d hd =>
        ⟨hs.definitions category d hd, (hfacts d hd).1, hnamed.isKeyword hd⟩) hnull
    · rintro ⟨d, hd, hspoiled⟩ ⟨hplain, hreadable, -⟩
      exact (hspoils hd).1 hspoiled ⟨hplain d hd, hreadable d hd⟩

section

attribute [local instance] Readers.standard

/-- A release of one switch, with a description as it is written in YAML. -/
def switchRelease (description : String) : Release :=
  ⟨⟨0, 1, 0, []⟩, "v0.1.0", [("control_ids_core.yaml",
    "controls:\n- AeEnable:\n    type: bool\n    description: " ++ description ++ "\n")], []⟩

def switchSnapshot (description : String) : Snapshot :=
  ⟨⟨0, 1, 0, []⟩, [⟨"AeEnable", "libcamera", .bool, description, .scalar, none⟩], []⟩

theorem parse_switchVersion : Version.parse "0.1.0" = .ok ⟨0, 1, 0, []⟩ :=
  Attempt.eq_ok_of_toOption (by decide +kernel)

/-- A word between three marks does no harm where the description has another line. -/
theorem generate_of_parse_sample :
    (switchRelease "|-\n      Say\n      \"\"\"on\"\"\"").parse
      = .ok (switchSnapshot "Say\n\"\"\"on\"\"\"") ∧
    (∀ d ∈ (switchSnapshot "Say\n\"\"\"on\"\"\"").definitions .controls, d.IsNullFree) ∧
    generate (switchSnapshot "Say\n\"\"\"on\"\"\"") .controls ≠ .error .unreadable := by
  have hparse : (switchRelease "|-\n      Say\n      \"\"\"on\"\"\"").parse
      = .ok (switchSnapshot "Say\n\"\"\"on\"\"\"") :=
    Attempt.eq_ok_of_toOption (by decide +kernel)
  have hnull : ∀ d ∈ (switchSnapshot "Say\n\"\"\"on\"\"\"").definitions .controls,
      d.IsNullFree := List.forall_mem_singleton.2 ⟨by decide, nofun⟩
  refine ⟨hparse, hnull, fun h => ?_⟩
  obtain ⟨-, -, d, hd, hspoils⟩ :=
    (generate_of_parse parse_switchVersion hparse .controls hnull).2.2.1 h
  obtain rfl := List.mem_singleton.1 hd
  cases hspoils with
  | name h => exact absurd h (by decide)
  | docstring hline => exact absurd (hline '\n' (by decide +kernel)) (by decide)
  | hint henum hkind hshape => cases hshape

/-- At the end of the only line it leaves source that cannot be read. -/
theorem generate_quoted :
    Version.parse "0.1.0" = .ok (switchRelease "Say \"\"\"on\"\"\"").version ∧
    (switchRelease "Say \"\"\"on\"\"\"").parse = .ok (switchSnapshot "Say \"\"\"on\"\"\"") ∧
    (∀ d ∈ (switchSnapshot "Say \"\"\"on\"\"\"").definitions .controls, d.IsNullFree) ∧
    generate (switchSnapshot "Say \"\"\"on\"\"\"") .controls = .error .unreadable := by
  have hparse : (switchRelease "Say \"\"\"on\"\"\"").parse
      = .ok (switchSnapshot "Say \"\"\"on\"\"\"") :=
    Attempt.eq_ok_of_toOption (by decide +kernel)
  have hnull : ∀ d ∈ (switchSnapshot "Say \"\"\"on\"\"\"").definitions .controls,
      d.IsNullFree := List.forall_mem_singleton.2 ⟨by decide, nofun⟩
  obtain ⟨hs, -⟩ := Release.accepted_of_parse hparse
  refine ⟨parse_switchVersion, hparse, hnull, (generate_eq_unreadable_iff hs
    (Version.isWritten_of_pre_eq_nil rfl)).2 ⟨rfl, rfl, fun h => ?_⟩⟩
  have hreadable := h.2.1 _ List.mem_cons_self
  rw [Definition.isReadable, Bool.and_eq_true] at hreadable
  have hbreaks : (strip "Say \"\"\"on\"\"\"").toList.all (fun c => !isLineBreak c) = true := by
    decide +kernel
  have hopen := (Source.Docstring.isClosed_eq_false_iff "Say \"\"\"on\"\"\"").2
    ⟨fun c hc => Bool.not_eq_true' _ ▸ List.all_eq_true.1 hbreaks c hc, by decide +kernel⟩
  rw [hopen] at hreadable
  cases hreadable.1

end

end Bindings

end ControlSchema
