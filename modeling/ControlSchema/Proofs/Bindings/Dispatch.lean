import ControlSchema.Proofs.Bindings.Classes

/-!
# The dispatch table in source

A display takes up several rows, of which all but the last leave a bracket
open. Its entries are read back in their order, and a comma stands behind each
of them, so it does not matter how many there are.
-/

namespace ControlSchema

open Source Source.Expr Source.Statement Source.Token Number Text

namespace Layout

variable {n : Nat} {margin : String} {category : Category}

/-! ## Entries -/

def entryTokens (category : Category) (d : Definition) : List Token :=
  identifierTokens category d ++ [.symbol ":", .word d.name, .symbol ","]

theorem toList_entry (hmargin : margin.toList = Row.spaces n) (d : Definition) :
    (dispatchRow margin category d).toList = Row.spaces n ++ typeset (entryTokens category d) := by
  rw [dispatchRow, identifier]
  simp [hmargin, entryTokens, identifierTokens, typeset, gap, Token.spelling]

theorem sound_entry {d : Definition} (hd : d.Writable) :
    Row.Sound ⟨n, entryTokens category d⟩ := by
  have hname := hd.isAsciiName_name
  have hclass : isAsciiName category.idClass.toList = true := by cases category <;> decide
  refine ⟨?_, rfl, List.cons_ne_nil _ _⟩
  simp +decide [entryTokens, identifierTokens, sound_word_iff, sound_symbol_iff, hname, hclass]

theorem depths?_entry (depth : Nat) (d : Definition) :
    Line.depths? depth (entryTokens category d) = some depth := rfl

theorem items_entries (category : Category) {ds : List Definition} (hds : ∀ d ∈ ds, d.Writable) :
    ∃ comma, Items (ds.flatMap (entryTokens category)) (ds.map (dispatchItem category)) comma := by
  induction ds with
  | nil => exact ⟨false, .nil⟩
  | cons d ds ih =>
    obtain ⟨comma, hitems⟩ := ih fun e he => hds e (List.mem_cons_of_mem d he)
    have hd := hds d List.mem_cons_self
    have hentry :=
      (primary_identifier category hd).phrase.entry (Primary.name hd.not_keyword).phrase
    have hcons := Items.cons hentry hitems
    rw [List.append_assoc] at hcons
    refine ⟨comma || (ds.map (dispatchItem category)).isEmpty, ?_⟩
    rw [List.flatMap_cons, List.map_cons, entryTokens, List.append_assoc]
    exact hcons

theorem phrase_display (category : Category) {ds : List Definition} (hds : ∀ d ∈ ds, d.Writable) :
    Phrase (.symbol "\x7b" :: ds.flatMap (entryTokens category) ++ [.symbol "\x7d"])
      (.dict (ds.map (dispatchItem category))) := by
  obtain ⟨comma, hitems⟩ := items_entries category hds
  refine Phrase.dict hitems ?_
  rw [List.all_map]
  exact List.all_eq_true.2 fun d _ => rfl

/-! ## Rows behind open brackets -/

def entryRow (n : Nat) (category : Category) (d : Definition) : Row := ⟨n, entryTokens category d⟩

theorem page_entries (hmargin : margin.toList = Row.spaces n) (ds : List Definition) :
    page (ds.map (dispatchRow margin category))
      = (ds.map (entryRow n category)).flatMap Row.characters := by
  rw [page, List.flatMap_map, List.flatMap_map]
  refine List.flatMap_congr fun d _ => ?_
  rw [toList_entry hmargin, Row.characters]
  rfl

/-- Entries leave the brackets as they are. -/
theorem closes_entries {depth : Nat} (hdepth : 0 < depth) (ds : List Definition) {rs : List Row}
    (hrs : Line.Closes depth rs) :
    Line.Closes depth (ds.map (entryRow n category) ++ rs) := by
  induction ds with
  | nil => exact hrs
  | cons d ds ih => exact .cons hdepth (depths?_entry depth d) ih

theorem flatMap_entryRow (ds : List Definition) :
    (ds.map (entryRow n category)).flatMap Row.tokens = ds.flatMap (entryTokens category) :=
  List.flatMap_map _ _ _

/-! ## The table -/

def tableHintTokens : List Token := [.word "dict", .symbol "[", .word "int", .symbol ",",
  .word "type", .symbol "[", .word "_control", .symbol ".", .word "ControlEntry", .symbol "]",
  .symbol "]"]

theorem phrase_tableHint : Phrase tableHintTokens tableHint := by
  have hentry := (Primary.name (w := "_control") rfl).member (w := "ControlEntry") rfl
  have htype := (Primary.name (w := "type") rfl).subscript (Items.one hentry.phrase.item)
    (List.cons_ne_nil _ _) rfl
  exact ((Primary.name (w := "dict") rfl).subscript
    (Items.cons (Primary.name (w := "int") rfl).phrase.item (Items.one htype.phrase.item))
    (List.cons_ne_nil _ _) rfl).phrase

def tableRow : Row :=
  ⟨0, .word "_DYN_TABLE" :: .symbol ":" :: tableHintTokens ++ [.symbol "=", .symbol "\x7b"]⟩

theorem sound_tableRow : tableRow.Sound := by
  refine ⟨?_, rfl, List.cons_ne_nil _ _⟩
  simp +decide [tableRow, tableHintTokens, sound_word_iff, sound_symbol_iff]

theorem sound_symbolRow {s : String} (hs : s ∈ Lexeme.symbols) :
    Row.Sound ⟨n, [.symbol s]⟩ := by
  refine ⟨fun t ht => ?_, rfl, List.cons_ne_nil _ _⟩
  rw [List.mem_singleton.1 ht]
  exact .symbol hs

theorem says_table {ds : List Definition} (hds : ∀ d ∈ ds, d.Writable) :
    Says 0 (["_DYN_TABLE: dict[int, type[_control.ControlEntry]] = \x7b"]
      ++ ds.map (dispatchRow indent category) ++ ["\x7d"])
      (some [.annotated (.name "_DYN_TABLE") tableHint
        (some (.dict (ds.map (dispatchItem category))))]) := by
  let rs : List Row := tableRow :: (ds.map (entryRow 4 category) ++ [⟨0, [.symbol "\x7d"]⟩])
  have hpage : page (["_DYN_TABLE: dict[int, type[_control.ControlEntry]] = \x7b"]
      ++ ds.map (dispatchRow indent category) ++ ["\x7d"]) = rs.flatMap Row.characters := by
    rw [page_append, page_append, page_entries toList_spaces_indent, List.flatMap_cons,
      List.flatMap_append, List.append_assoc]
    rfl
  have hsound : ∀ r ∈ rs, r.Sound := by
    intro r hr
    rcases List.mem_cons.1 hr with rfl | hr
    · exact sound_tableRow
    rcases List.mem_append.1 hr with hr | hr
    · obtain ⟨d, hd, rfl⟩ := List.mem_map.1 hr
      exact sound_entry (hds d hd)
    · rw [List.mem_singleton.1 hr]
      exact sound_symbolRow (by decide)
  have hcloses : Line.Closes 0 rs :=
    .cons (d := 1) (by decide) rfl (closes_entries (by decide) ds rfl)
  have htokens : rs.flatMap Row.tokens = .word "_DYN_TABLE" :: .symbol ":" :: tableHintTokens
      ++ .symbol "=" :: (.symbol "\x7b" :: ds.flatMap (entryTokens category)
        ++ [.symbol "\x7d"]) := by
    rw [List.flatMap_cons, List.flatMap_append, flatMap_entryRow]
    rfl
  have hdisplay := phrase_display category hds
  have hplain : Plain (rs.flatMap Row.tokens) := by
    rw [htokens]
    refine ⟨List.cons_ne_nil _ _, fun t ht => ?_, head?_word rfl _⟩
    rintro rfl
    rcases List.mem_append.1 ht with ht | ht
    · revert ht
      decide
    · rcases List.mem_cons.1 ht with ht | ht
      · simp at ht
      · cases hdisplay.inner _ ht
  have hsimple : simple? (rs.flatMap Row.tokens) = some (.annotated (.name "_DYN_TABLE") tableHint
      (some (.dict (ds.map (dispatchItem category))))) := by
    rw [htokens]
    exact (simple?_word rfl _).trans (unmarked?_annotated_value rfl phrase_tableHint hdisplay)
  have hsays := Says.logical hpage rfl hsound hcloses hplain
  rw [hsimple] at hsays
  exact hsays

/-! ## Updates -/

theorem says_update (category : Category) {ds : List Definition} (hds : ∀ d ∈ ds, d.Writable) :
    Says 4 (["    _DYN_TABLE.update(", "        \x7b"]
      ++ ds.map (dispatchRow "            " category) ++ ["        \x7d", "    )"])
      (some [.expression (.call (.attribute (.name "_DYN_TABLE") "update")
        [.plain (.dict (ds.map (dispatchItem category)))])]) := by
  let opening : List Token := [.word "_DYN_TABLE", .symbol ".", .word "update", .symbol "("]
  let rs : List Row := ⟨4, opening⟩ :: ⟨8, [.symbol "\x7b"]⟩ :: (ds.map (entryRow 12 category)
    ++ [⟨8, [.symbol "\x7d"]⟩, ⟨4, [.symbol ")"]⟩])
  have hpage : page (["    _DYN_TABLE.update(", "        \x7b"]
      ++ ds.map (dispatchRow "            " category) ++ ["        \x7d", "    )"])
      = rs.flatMap Row.characters := by
    have hmargin : "            ".toList = Row.spaces 12 := by decide
    rw [page_append, page_append, page_entries hmargin, List.flatMap_cons, List.flatMap_cons,
      List.flatMap_append, List.append_assoc]
    rfl
  have hsound : ∀ r ∈ rs, r.Sound := by
    intro r hr
    rcases List.mem_cons.1 hr with rfl | hr
    · refine ⟨?_, rfl, List.cons_ne_nil _ _⟩
      simp +decide [opening, sound_word_iff, sound_symbol_iff]
    rcases List.mem_cons.1 hr with rfl | hr
    · exact sound_symbolRow (by decide)
    rcases List.mem_append.1 hr with hr | hr
    · obtain ⟨d, hd, rfl⟩ := List.mem_map.1 hr
      exact sound_entry (hds d hd)
    rcases List.mem_cons.1 hr with rfl | hr
    · exact sound_symbolRow (by decide)
    · rw [List.mem_singleton.1 hr]
      exact sound_symbolRow (by decide)
  have hcloses : Line.Closes 0 rs :=
    .cons (d := 1) (by decide) rfl (.cons (d := 2) (by decide) rfl
      (closes_entries (by decide) ds (.cons (d := 1) (by decide) rfl rfl)))
  have hdisplay := phrase_display category hds
  have hcall := ((Primary.name (w := "_DYN_TABLE") rfl).member (w := "update") rfl).call
    (Items.one hdisplay.item) rfl
  have htokens : rs.flatMap Row.tokens = [.word "_DYN_TABLE"] ++ [.symbol ".", .word "update"]
      ++ .symbol "(" :: (.symbol "\x7b" :: ds.flatMap (entryTokens category)
        ++ [.symbol "\x7d"]) ++ [.symbol ")"] := by
    rw [List.flatMap_cons, List.flatMap_cons, List.flatMap_append, flatMap_entryRow]
    simp [opening]
  have hplain : Plain (rs.flatMap Row.tokens) := by
    rw [htokens]
    refine ⟨hcall.ne_nil, fun t ht => ?_, head?_word rfl _⟩
    rintro rfl
    cases hcall.inner _ ht
  have hsimple : simple? (rs.flatMap Row.tokens) = some (.expression (.call (.attribute
      (.name "_DYN_TABLE") "update") [.plain (.dict (ds.map (dispatchItem category)))])) := by
    rw [htokens]
    exact (simple?_word rfl _).trans (unmarked?_expression hcall.phrase)
  have hsays := Says.logical hpage rfl hsound hcloses hplain
  rw [hsimple] at hsays
  exact hsays

theorem says_dispatch (category : Category) {ds : List Definition} (hds : ∀ d ∈ ds, d.Writable) :
    Says 0 (dispatchRows category ds) (some (dispatchStatements category ds)) := by
  have hfilter (feature : Option String) : ∀ d ∈ ds.filter (·.feature == feature), d.Writable :=
    fun d hd => hds d (List.mem_filter.1 hd).1
  have hupdates : ∀ fs : List String, (∀ feature ∈ fs, IsQuotable feature) →
      Says 0 (fs.flatMap (updateRows category ds))
        (some (fs.map (updateStatement category ds))) := by
    intro fs hfs
    induction fs with
    | nil => exact .nil
    | cons feature fs ih =>
      have hguard := @says_guard 0 "" feature rfl (hfs feature List.mem_cons_self) _ _ (by simp)
        (says_update category (hfilter (some feature)))
      rw [String.empty_append] at hguard
      exact hguard.append_some (ih fun g hg => hfs g (List.mem_cons_of_mem feature hg))
  have hquotable : ∀ feature ∈ features ds, IsQuotable feature := by
    intro feature hfeature
    rw [features, List.mem_eraseDups] at hfeature
    obtain ⟨d, hd, hfeature⟩ := List.mem_filterMap.1 hfeature
    exact isQuotable_feature (hds d hd) hfeature
  exact (says_table (hfilter none)).append_some (hupdates _ hquotable)

end Layout

end ControlSchema
