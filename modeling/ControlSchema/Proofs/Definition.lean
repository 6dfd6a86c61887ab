import ControlSchema.Definition.Entry
import ControlSchema.Proofs.Attempt
import ControlSchema.Proofs.Naming
import ControlSchema.Proofs.Number.Digits
import ControlSchema.Proofs.Text.Infix
import ControlSchema.Snapshot
import Mathlib.Data.List.Nodup

/-!
# Accepted definitions

What the checks establish about a definition, however it is given: its name, its
vendor and its enumerators have the required forms, and its enumeration is
sound. An accepted snapshot has such definitions, no two of one category with
one name, and the version of some text.
-/

namespace ControlSchema

open Text

namespace Definition

/-- A definition that passes its checks. -/
structure Accepted (d : Definition) : Prop where
  name : Naming.isSchemaName d.name = true
  vendor : ∃ written, strip written = d.vendor ∧ Naming.isLowerSnake d.vendor = true
  enumerators : ∀ e ∈ d.enumerators, Naming.isSchemaName e.name = true
  check : d.check = .ok d

theorem eq_of_check {d d' : Definition} (h : d.check = .ok d') : d' = d := by
  rw [check] at h
  split at h
  · cases h
    rfl
  · split at h
    · cases h
    · simp only at h
      split at h
      · cases h
      · split at h
        · cases h
        · split at h
          · cases h
          · split at h
            · cases h
              rfl
            · cases h

/-! ## Where accepted definitions come from -/

theorem isSchemaName_of_checkName {what name : String} {datum : Datum}
    (h : Naming.checkName what datum = .ok name) : Naming.isSchemaName name = true := by
  cases datum with
  | text s =>
    rw [Naming.checkName] at h
    by_cases hs : Naming.isSchemaName s = true
    · rw [if_pos hs] at h
      cases h
      exact hs
    · rw [if_neg hs] at h
      cases h
  | _ => cases h

theorem read_of_readWritten {α : Type} {datum : Datum} {read : String → Checked α} {a : α}
    (h : readWritten datum read = .ok a) : read datum.plainIfPresent = .ok a := by
  rw [readWritten] at h
  split at h
  · exact h
  · cases h

theorem isSchemaName_of_readName {datum : Datum} {name : String} (h : readName datum = .ok name) :
    Naming.isSchemaName name = true := by
  rw [readName] at h
  have h := read_of_readWritten h
  split at h
  · rename_i hname
    cases h
    exact isSchemaName_of_checkName hname
  · cases h

theorem vendor_of_readVendor {datum : Datum} {vendor : String}
    (h : readVendor datum = .ok vendor) :
    ∃ written, strip written = vendor ∧ Naming.isLowerSnake vendor = true := by
  rw [readVendor] at h
  have h := read_of_readWritten h
  simp only at h
  split at h
  · rename_i hsnake
    cases h
    exact ⟨_, rfl, hsnake⟩
  · cases h

theorem located_eq_ok {α : Type} {place : Place} {part : Checked α} {a : α}
    (h : Checked.located place part = .ok a) : part = .ok a := by
  cases part with
  | ok b => exact h
  | error issues => cases h

theorem isSchemaName_of_ofDatum [Readers] {datum : Datum} {e : Enumerator}
    (h : Enumerator.ofDatum datum = .ok e) : Naming.isSchemaName e.name = true := by
  rw [Enumerator.ofDatum.eq_def] at h
  split at h
  · rename_i entries
    simp only at h
    split at h
    · rename_i name value description hname hvalue hdescription
      cases h
      rw [Enumerator.readField] at hname
      have hread := located_eq_ok hname
      split at hread
      · rw [Enumerator.readName] at hread
        have hread := read_of_readWritten hread
        split at hread
        · rename_i hchecked
          cases hread
          exact isSchemaName_of_checkName hchecked
        · cases hread
      · cases hread
    · cases h
  · cases h

theorem accepted_of_checked {d d' : Definition} (h : checked d = .ok d')
    (hname : Naming.isSchemaName d.name = true)
    (hvendor : ∃ written, strip written = d.vendor ∧ Naming.isLowerSnake d.vendor = true)
    (henumerators : ∀ e ∈ d.enumerators, Naming.isSchemaName e.name = true) :
    d'.Accepted := by
  rw [checked] at h
  split at h
  · rename_i hcheck
    cases h
    obtain rfl := eq_of_check hcheck
    exact ⟨hname, hvendor, henumerators, hcheck⟩
  · cases h

theorem accepted_of_ofParts {name vendor : Datum} {kind : ControlKind} {description : String}
    {shape : Shape} {enumeration : Option (List Enumerator)} {d : Definition}
    (h : ofParts name vendor kind description shape enumeration = .ok d)
    (henumeration : ∀ es ∈ enumeration, ∀ e ∈ es, Naming.isSchemaName e.name = true) :
    d.Accepted := by
  rw [ofParts] at h
  split at h
  · rename_i hname hvendor
    refine accepted_of_checked h (isSchemaName_of_readName (located_eq_ok hname))
      (vendor_of_readVendor (located_eq_ok hvendor)) ?_
    intro e he
    cases enumeration with
    | none => cases he
    | some es => exact henumeration es rfl e he
  · cases h

theorem isSchemaName_of_entryEnumerators [Readers] {items : List Datum} {es : List Enumerator}
    (h : entryEnumerators items = .ok es) : ∀ e ∈ es, Naming.isSchemaName e.name = true :=
  Attempt.forall_of_mapM (P := fun e => Naming.isSchemaName e.name = true)
    (fun _ _ ha => isSchemaName_of_ofDatum (Attempt.mapError_eq_ok ha)) h

/-- A definition from a schema entry is accepted. -/
theorem accepted_of_ofEntry [Readers] {name entry vendor : Datum} {d : Definition}
    (h : ofEntry name entry vendor = .ok d) : d.Accepted := by
  cases entry with
  | dict entries =>
    rw [ofEntry] at h
    cases htype : Datum.lookup? "type" entries with
    | none =>
      rw [htype] at h
      cases h
    | some type =>
      rw [htype] at h
      simp only at h
      obtain ⟨enumeration, -, h⟩ := Attempt.bind_eq_ok h
      obtain ⟨kind, -, h⟩ := Attempt.bind_eq_ok h
      obtain ⟨description, -, h⟩ := Attempt.bind_eq_ok h
      obtain ⟨shape, -, h⟩ := Attempt.bind_eq_ok h
      obtain ⟨enumerators, henumerators, h⟩ := Attempt.bind_eq_ok h
      refine accepted_of_ofParts (Attempt.mapError_eq_ok h) ?_
      intro es hes
      cases hes
      cases enumeration with
      | none => cases henumerators
      | some items =>
        cases hitems : entryEnumerators items with
        | error e =>
          rw [Option.mapM_some, hitems] at henumerators
          cases henumerators
        | ok found =>
          rw [Option.mapM_some, hitems] at henumerators
          cases henumerators
          exact isSchemaName_of_entryEnumerators hitems
  | _ => cases h

theorem forall_of_all {α : Type} {P : α → Prop} {start : Nat} {parts : List (Checked α)}
    (hparts : ∀ a, Except.ok a ∈ parts → P a) {as : List α}
    (h : Checked.all start parts = .ok as) : ∀ a ∈ as, P a := by
  induction parts generalizing start as with
  | nil =>
    cases h
    intro a ha
    cases ha
  | cons part parts ih =>
    rw [Checked.all] at h
    split at h
    · rename_i a rest ha hrest
      cases h
      have hpart := located_eq_ok ha
      intro b hb
      rcases List.mem_cons.1 hb with rfl | hb
      · exact hparts b (by rw [hpart]; exact List.mem_cons_self)
      · exact ih (fun c hc => hparts c (List.mem_cons_of_mem part hc)) hrest b hb
    · cases h

theorem isSchemaName_of_readEnumeration [Readers] {datum : Datum}
    {enumeration : Option (List Enumerator)} (h : readEnumeration datum = .ok enumeration) :
    ∀ es ∈ enumeration, ∀ e ∈ es, Naming.isSchemaName e.name = true := by
  have hitems (items : List Datum)
      (h : (Checked.all 0 (items.map Enumerator.ofDatum)).map some = .ok enumeration) :
      ∀ es ∈ enumeration, ∀ e ∈ es, Naming.isSchemaName e.name = true := by
    cases hall : Checked.all 0 (items.map Enumerator.ofDatum) with
    | error issues =>
      rw [hall] at h
      cases h
    | ok found =>
      rw [hall] at h
      cases h
      intro es hes
      cases hes
      refine forall_of_all (fun e he => ?_) hall
      obtain ⟨item, -, hitem⟩ := List.mem_map.1 he
      exact isSchemaName_of_ofDatum hitem
  cases datum with
  | null =>
    cases h
    intro es hes
    cases hes
  | list items => exact hitems items h
  | tuple items => exact hitems items h
  | set items => exact hitems items h
  | _ => cases h

/-- A definition from its fields is accepted. -/
theorem accepted_of_ofFields [Readers] {entries : List (Datum × Datum)} {d : Definition}
    (h : ofFields entries = .ok d) : d.Accepted := by
  rw [ofFields] at h
  split at h
  · rename_i name vendor kind description shape enumeration hname hvendor hkind hdescription hshape
      henumeration hunknown
    rw [Enumerator.readField] at hname hvendor henumeration
    refine accepted_of_checked h ?_ ?_ ?_
    · have hread := located_eq_ok hname
      split at hread
      · exact isSchemaName_of_readName hread
      · cases hread
    · have hread := located_eq_ok hvendor
      split at hread
      · exact vendor_of_readVendor hread
      · cases hread
        have hcore : strip coreVendor = coreVendor ∧ Naming.isLowerSnake coreVendor = true := by
          decide
        exact ⟨coreVendor, hcore⟩
    · have hread := located_eq_ok henumeration
      intro e he
      cases enumeration with
      | none => cases he
      | some es =>
        split at hread
        · exact isSchemaName_of_readEnumeration hread es rfl e he
        · cases hread
  · cases h

/-! ## What acceptance says -/

/-- A name without a line feed behind it. -/
def IsPlain (d : Definition) : Prop := Naming.isPlainName d.name.toList = true

theorem isPlainSnake_vendor {d : Definition} (h : d.Accepted) :
    Naming.isPlainSnake d.vendor.toList = true := by
  obtain ⟨written, hstrip, hsnake⟩ := h.vendor
  rw [Naming.isLowerSnake, Bool.or_eq_true, Naming.withoutFinalBreak] at hsnake
  rcases hsnake with hsnake | hsnake
  · exact hsnake
  · split at hsnake
    · -- nothing is stripped to a line feed at its end
      rename_i hlast
      rw [← hstrip, strip, String.toList_ofList, beq_iff_eq] at hlast
      cases not_blank_getLast?_stripEnd hlast
    · exact hsnake

/-- The characters of a feature belong to words. -/
theorem feature_chars {d : Definition} (h : d.Accepted) {feature : String}
    (hfeature : d.feature = some feature) :
    feature.toList ≠ [] ∧ ∀ c ∈ feature.toList, isWordChar c = true := by
  rw [Definition.feature] at hfeature
  split at hfeature
  · cases hfeature
  · cases hfeature
    have hprefix : "vendor_".toList ≠ [] ∧ "vendor_".toList.all isWordChar = true := by
      decide
    rw [String.toList_append]
    refine ⟨fun hnil => hprefix.1 (List.append_eq_nil_iff.1 hnil).1, fun c hc => ?_⟩
    rcases List.mem_append.1 hc with hc | hc
    · exact List.all_eq_true.1 hprefix.2 c hc
    · exact Naming.isPlainSnake_chars (isPlainSnake_vendor h) c hc

/-- The name of a member is a word and no keyword. -/
theorem variant_facts {d : Definition} (h : d.Accepted) {e : Enumerator} {name : String}
    (hvariant : (e, name) ∈ d.variants) :
    isAsciiName name.toList = true ∧ Naming.isKeyword name = false := by
  obtain ⟨e', he', hname⟩ := List.mem_filterMap.1 hvariant
  split at hname
  · rename_i found hfound
    cases hname
    exact Naming.variantName_facts (h.enumerators e he') hfound
  · cases hname

theorem repeatedNames_eq_nil_iff {names : List String} :
    (repeatedNames names).isEmpty = true ↔ names.Nodup := by
  have hlength : (repeatedNames names).isEmpty = true ↔
      (names.filter fun name => 1 < names.count name).eraseDups = [] := by
    rw [List.isEmpty_iff, repeatedNames, ← List.length_eq_zero_iff, List.length_mergeSort,
      List.length_eq_zero_iff]
  have hdups : (names.filter fun name => 1 < names.count name).eraseDups = [] ↔
      ∀ name ∈ names, ¬ 1 < names.count name := by
    rw [List.eq_nil_iff_forall_not_mem]
    simp only [List.mem_eraseDups, List.mem_filter, decide_eq_true_eq, not_and]
  rw [hlength, hdups, List.nodup_iff_count_le_one]
  refine forall_congr' fun name => ⟨fun h => ?_, fun h _ => Nat.not_lt_of_le h⟩
  by_cases hname : name ∈ names
  · exact Nat.not_lt.1 (h hname)
  · rw [List.count_eq_zero_of_not_mem hname]
    exact Nat.zero_le 1

section

variable {d : Definition}

theorem isEnum_of_enumeration {enumerators : List Enumerator}
    (h : d.enumeration = some enumerators) : d.isEnum = true := by
  rw [isEnum, h]
  rfl

theorem isEnum_of_none (h : d.enumeration = none) : d.isEnum = false := by
  rw [isEnum, h]
  rfl

theorem enumerators_of_enumeration {enumerators : List Enumerator}
    (h : d.enumeration = some enumerators) : d.enumerators = enumerators := by
  rw [Definition.enumerators, h]
  rfl

end

/-- An enumeration that is sound for its definition. -/
structure IsSound (d : Definition) (enumerators : List Enumerator) : Prop where
  range : ∃ low high, d.kind.intRange? = some (low, high) ∧
    ∀ e ∈ enumerators, low ≤ e.value ∧ e.value ≤ high
  scalar : d.shape.isScalar = true
  names : ∃ names, d.variantNames = .ok names ∧ names.Nodup

theorem check_eq_ok_iff {d : Definition} :
    d.check = .ok d ↔ ∀ enumerators ∈ d.enumeration, d.IsSound enumerators := by
  rw [check]
  cases henumeration : d.enumeration with
  | none => exact ⟨fun _ => nofun, fun _ => rfl⟩
  | some enumerators =>
    have hone : (∀ es ∈ some enumerators, d.IsSound es) ↔ d.IsSound enumerators :=
      ⟨fun h => h _ rfl, fun h es hes => Option.some.inj hes ▸ h⟩
    rw [hone]
    simp only
    refine ⟨fun h => ?_, fun h => ?_⟩
    · split at h
      · cases h
      rename_i low high hrange
      split at h
      · cases h
      rename_i hscalar
      split at h
      · cases h
      rename_i hbeyond
      split at h
      · cases h
      rename_i names hnames
      split at h
      · rename_i htwice
        refine ⟨⟨low, high, hrange, fun e he => ?_⟩, by simpa using hscalar, names, hnames,
          repeatedNames_eq_nil_iff.1 htwice⟩
        simp only [Bool.not_eq_true', Bool.not_eq_false, List.isEmpty_iff, List.filter_eq_nil_iff,
          Bool.and_eq_true, decide_eq_true_eq] at hbeyond
        exact hbeyond e he
      · cases h
    · obtain ⟨⟨low, high, hrange, hvalues⟩, hscalar, names, hnames, hnodup⟩ := h
      have hbeyond : (enumerators.filter fun e => !(low ≤ e.value && e.value ≤ high)) = [] := by
        refine List.filter_eq_nil_iff.2 fun e he => ?_
        simpa using hvalues e he
      simp only [hrange, hbeyond, hscalar, hnames, repeatedNames_eq_nil_iff.2 hnodup]
      rfl

/-- The values of an accepted enumeration fit into its kind, so none is too long to be written. -/
theorem Accepted.isWritable_value {d : Definition} (h : d.Accepted) {e : Enumerator}
    (he : e ∈ d.enumerators) : Number.isWritable e.value = true := by
  cases henumeration : d.enumeration with
  | none =>
    rw [Definition.enumerators, henumeration] at he
    cases he
  | some enumerators =>
    obtain ⟨low, high, hrange, hvalues⟩ := (check_eq_ok_iff.1 h.check _ henumeration).range
    obtain ⟨hlow, hhigh⟩ := hvalues e (enumerators_of_enumeration henumeration ▸ he)
    have hbounds : -2 ^ 63 ≤ low ∧ high < 2 ^ 63 := by
      cases hkind : d.kind <;> rw [hkind] at hrange <;> cases hrange <;> decide
    have hlimit : 10 ^ 19 ≤ 10 ^ Number.digitLimit :=
      Nat.pow_le_pow_right (by decide) (by decide)
    rw [Number.isWritable_iff]
    exact Nat.lt_of_lt_of_le (by omega : e.value.natAbs < 10 ^ 19) hlimit

/-- A scalar of the core vendor needs a name only. -/
theorem accepted_of_core {name : String} {kind : ControlKind} {description : String}
    (hname : Naming.isSchemaName name = true) :
    (Definition.mk name "libcamera" kind description .scalar none).Accepted := by
  have hvendor : strip "libcamera" = "libcamera" ∧ Naming.isLowerSnake "libcamera" = true := by
    decide
  exact ⟨hname, ⟨"libcamera", hvendor⟩, nofun, rfl⟩

/-- A definition whose name can stand in source. -/
structure Writable (d : Definition) : Prop where
  accepted : d.Accepted
  plain : d.IsPlain
  not_keyword : Naming.isKeyword d.name = false

theorem Writable.isAsciiName_name {d : Definition} (h : d.Writable) :
    isAsciiName d.name.toList = true := Naming.isAsciiName_of_isPlainName h.plain

theorem Writable.isAsciiName_linkageName {d : Definition} (h : d.Writable) :
    isAsciiName d.linkageName.toList = true := Naming.isAsciiName_linkageName h.plain

theorem Writable.isKeyword_linkageName {d : Definition} (h : d.Writable) :
    Naming.isKeyword d.linkageName = false := Naming.isKeyword_linkageName h.plain

end Definition

/-! ## Snapshots -/

/-- Pre-release identifiers hold letters, digits and hyphens, as those of every version do that was
read from a text. -/
def Version.IsWritten (v : Version) : Prop :=
  ∀ part ∈ v.pre, ∀ c ∈ part.toList, Version.isIdentifierChar c = true

theorem Version.isWritten_of_pre_eq_nil {v : Version} (h : v.pre = []) : v.IsWritten := by
  rw [IsWritten, h]
  exact List.forall_mem_nil _

/-- A snapshot that passes its checks. No check looks at its version. -/
structure Snapshot.Accepted (s : Snapshot) : Prop where
  definitions : ∀ category, ∀ d ∈ s.definitions category, d.Accepted
  names : ∀ category, ((s.definitions category).map (·.name)).Nodup

namespace Version

theorem isWritten_of_identifiers? {cs : List Char} {pre : List String}
    (h : identifiers? cs = some pre) :
    ∀ part ∈ pre, ∀ c ∈ part.toList, isIdentifierChar c = true := by
  rw [identifiers?] at h
  split at h
  · rename_i hall
    cases h
    intro part hpart
    obtain ⟨piece, hpiece, rfl⟩ := List.mem_map.1 hpart
    have := List.all_eq_true.1 hall piece hpiece
    rw [Bool.and_eq_true, List.all_eq_true] at this
    rw [String.toList_ofList]
    exact this.2
  · cases h

theorem isWritten_of_suffix? {cs : List Char} {pre : List String} (h : suffix? cs = some pre) :
    ∀ part ∈ pre, ∀ c ∈ part.toList, isIdentifierChar c = true := by
  rw [suffix?.eq_def] at h
  split at h
  · cases h
    intro part hpart
    cases hpart
  · obtain ⟨found, hfound, h⟩ := Option.bind_eq_some_iff.1 h
    have hwritten := isWritten_of_identifiers? hfound
    simp only at h
    split at h
    · cases h
      exact hwritten
    · obtain ⟨_, -, rfl⟩ := Option.map_eq_some_iff.1 h
      exact hwritten
  · obtain ⟨_, -, rfl⟩ := Option.map_eq_some_iff.1 h
    intro part hpart
    cases hpart
  · cases h

theorem suffix?_of_parts? {cs : List Char} {digits : List Char × List Char × List Char}
    {pre : List String} (h : parts? cs = some (digits, pre)) :
    ∃ rest, suffix? rest = some pre := by
  rw [parts?] at h
  obtain ⟨⟨major, rest⟩, -, h⟩ := Option.bind_eq_some_iff.1 h
  simp only at h
  split at h
  · obtain ⟨⟨minor, rest⟩, -, h⟩ := Option.bind_eq_some_iff.1 h
    simp only at h
    split at h
    · obtain ⟨⟨patch, rest⟩, -, h⟩ := Option.bind_eq_some_iff.1 h
      obtain ⟨found, hfound, h⟩ := Option.bind_eq_some_iff.1 h
      cases h
      exact ⟨rest, hfound⟩
    · cases h
  · cases h

/-- What a text names is written as versions are. -/
theorem isWritten_of_parse {text : String} {v : Version} (h : parse text = .ok v) :
    v.IsWritten := by
  rw [parse] at h
  cases hparts : parts? (strip text).toList with
  | none =>
    rw [hparts] at h
    cases h
  | some parts =>
    obtain ⟨⟨major, minor, patch⟩, pre⟩ := parts
    rw [hparts] at h
    simp only at h
    obtain ⟨a, -, h⟩ := Attempt.bind_eq_ok h
    obtain ⟨b, -, h⟩ := Attempt.bind_eq_ok h
    obtain ⟨c, -, h⟩ := Attempt.bind_eq_ok h
    cases h
    obtain ⟨rest, hrest⟩ := suffix?_of_parts? hparts
    exact isWritten_of_suffix? hrest

/-- The numbers of a release and the points between them. -/
theorem coreText_chars (v : Version) : ∀ c ∈ v.coreText.toList, c = '.' ∨ c.isDigit = true := by
  rw [coreText, String.toList_intercalate]
  refine forall_mem_intercalate ?_ fun cs hcs c hc => ?_
  · exact fun c hc => Or.inl (List.mem_singleton.1 hc)
  · obtain ⟨number, hnumber, rfl⟩ := List.mem_map.1 hcs
    simp only [List.mem_cons, List.not_mem_nil, or_false] at hnumber
    rcases hnumber with rfl | rfl | rfl <;> exact Or.inr (Number.isDigit_digitsText _ c hc)

theorem isIdentifierChar_of_isDigit {c : Char} (h : c.isDigit = true) :
    isIdentifierChar c = true := by
  rw [isIdentifierChar, Char.isAlphanum, h, Bool.or_true, Bool.true_or]

/-- Versions are written with letters, digits, hyphens and points. -/
theorem text_chars {v : Version} (hv : v.IsWritten) :
    ∀ c ∈ v.text.toList, c = '.' ∨ isIdentifierChar c = true := by
  have hcore : ∀ c ∈ v.coreText.toList, c = '.' ∨ isIdentifierChar c = true :=
    fun c hc => (coreText_chars v c hc).imp_right isIdentifierChar_of_isDigit
  have hpre : ∀ c ∈ (".".intercalate v.pre).toList, c = '.' ∨ isIdentifierChar c = true := by
    rw [String.toList_intercalate]
    refine forall_mem_intercalate (fun c hc => Or.inl (List.mem_singleton.1 hc)) ?_
    intro cs hcs c hc
    obtain ⟨part, hpart, rfl⟩ := List.mem_map.1 hcs
    exact Or.inr (hv part hpart c hc)
  rw [text]
  split
  · exact hcore
  · have hhyphen : "-".toList = ['-'] := by decide
    rw [String.toList_append, String.toList_append, hhyphen]
    intro c hc
    rcases List.mem_append.1 hc with hc | hc
    · rcases List.mem_append.1 hc with hc | hc
      · exact hcore c hc
      · rw [List.mem_singleton.1 hc]
        exact Or.inr rfl
    · exact hpre c hc

theorem lt_of_numberValue {digits : List Char} {n : Nat} (h : numberValue digits = .ok n) :
    n < 10 ^ Number.digitLimit := by
  rw [numberValue] at h
  split at h
  · cases h
  · next hlength =>
    cases h
    have hdigits : ∀ d ∈ digits.filterMap decimalValue?, d < 10 := fun d hd => by
      obtain ⟨c, -, hc⟩ := List.mem_filterMap.1 hd
      exact Number.decimalValue?_lt hc
    refine Nat.lt_of_lt_of_le (Number.ofDigits_lt hdigits) (Nat.pow_le_pow_right (by decide) ?_)
    exact Nat.le_trans (List.length_filterMap_le _ _) (Nat.not_lt.1 hlength)

/-- The numbers of a version that was read have no more digits than are read. -/
theorem lt_of_parse {text : String} {v : Version} (h : parse text = .ok v) :
    v.major < 10 ^ Number.digitLimit ∧ v.minor < 10 ^ Number.digitLimit ∧
      v.patch < 10 ^ Number.digitLimit := by
  rw [parse] at h
  cases hparts : parts? (strip text).toList with
  | none =>
    rw [hparts] at h
    cases h
  | some parts =>
    obtain ⟨⟨major, minor, patch⟩, pre⟩ := parts
    rw [hparts] at h
    simp only at h
    obtain ⟨a, ha, h⟩ := Attempt.bind_eq_ok h
    obtain ⟨b, hb, h⟩ := Attempt.bind_eq_ok h
    obtain ⟨c, hc, h⟩ := Attempt.bind_eq_ok h
    cases h
    exact ⟨lt_of_numberValue ha, lt_of_numberValue hb, lt_of_numberValue hc⟩

theorem isWritable_iff {v : Version} : v.isWritable = true ↔ v.major < 10 ^ Number.digitLimit ∧
    v.minor < 10 ^ Number.digitLimit ∧ v.patch < 10 ^ Number.digitLimit := by
  simp only [isWritable, List.all_cons, List.all_nil, Bool.and_eq_true, Bool.and_true,
    Number.isWritable_iff, Int.natAbs_natCast]

theorem isWritable_of_parse {text : String} {v : Version} (h : parse text = .ok v) :
    v.isWritable = true := isWritable_iff.2 (lt_of_parse h)

end Version

namespace Snapshot

theorem nodup_of_firstRepeated? {seen names : List String}
    (h : firstRepeated? seen names = none) : names.Nodup ∧ ∀ name ∈ names, name ∉ seen := by
  induction names generalizing seen with
  | nil => exact ⟨List.nodup_nil, fun name hname => absurd hname List.not_mem_nil⟩
  | cons name names ih =>
    rw [firstRepeated?] at h
    split at h
    · cases h
    · rename_i hseen
      obtain ⟨hnodup, hfresh⟩ := ih h
      rw [List.contains_iff_mem] at hseen
      refine ⟨List.nodup_cons.2 ⟨fun hmem => hfresh name hmem List.mem_cons_self, hnodup⟩, ?_⟩
      exact List.forall_mem_cons.2 ⟨hseen, fun other hother hmem =>
        hfresh other hother (List.mem_cons_of_mem name hmem)⟩

/-- The controls of a release that defines no properties. -/
theorem accepted_of_controls {v : Version} {ds : List Definition} (hds : ∀ d ∈ ds, d.Accepted)
    (hnames : (ds.map (·.name)).Nodup) : (Snapshot.mk v ds []).Accepted := by
  refine ⟨fun category => ?_, fun category => ?_⟩
  · cases category with
    | controls => exact hds
    | properties => exact List.forall_mem_nil _
  · cases category with
    | controls => exact hnames
    | properties => exact List.nodup_nil

/-- A snapshot of accepted definitions. -/
theorem accepted_of_ofDefinitions {v : Version} {controls properties : List Definition}
    (hcontrols : ∀ d ∈ controls, d.Accepted) (hproperties : ∀ d ∈ properties, d.Accepted)
    {s : Snapshot}
    (h : ofDefinitions v controls properties = .ok s) : s.Accepted := by
  rw [ofDefinitions] at h
  split at h
  · cases h
  · cases h
  · rename_i hfirst hsecond
    cases h
    refine ⟨fun category => ?_, fun category => ?_⟩
    · cases category
      · exact hcontrols
      · exact hproperties
    · cases category
      · exact (nodup_of_firstRepeated? hfirst).1
      · exact (nodup_of_firstRepeated? hsecond).1

end Snapshot

end ControlSchema
