import ControlSchema.Document
import ControlSchema.Proofs.Definition
import ControlSchema.Proofs.Text.Order
import ControlSchema.Readers.Standard

/-!
# Documents that fail

Documents are read in the order of their names up to the first that fails, and the error is the
error of that document. Whatever is wrong with the structure of a document or with one of its
entries makes an error that tells the file. Two faults come up behind these checks and do not: one
of the reader that is not about the form of the text, as on a scalar that is no value of its type,
and an integer in the data with more digits than are written, which fails where the datum around it
has to be put into words.
-/

namespace ControlSchema

/-! ## Data that have a text -/

namespace Datum

theorem areWritable_iff {items : List Datum} :
    areWritable items = true ↔ ∀ item ∈ items, item.isWritable = true := by
  induction items with
  | nil => exact ⟨fun _ => nofun, fun _ => rfl⟩
  | cons item items ih => rw [areWritable, Bool.and_eq_true, ih, List.forall_mem_cons]

theorem entriesWritable_iff {entries : List (Datum × Datum)} :
    entriesWritable entries = true ↔
      ∀ entry ∈ entries, entry.1.isWritable = true ∧ entry.2.isWritable = true := by
  induction entries with
  | nil => exact ⟨fun _ => nofun, fun _ => rfl⟩
  | cons entry entries ih =>
    rw [entriesWritable, entryWritable, Bool.and_eq_true, Bool.and_eq_true, ih,
      List.forall_mem_cons]

theorem isWritable_list {items : List Datum} :
    (list items).isWritable = true ↔ ∀ item ∈ items, item.isWritable = true := by
  rw [isWritable, areWritable_iff]

theorem isWritable_dict {entries : List (Datum × Datum)} :
    (dict entries).isWritable = true ↔
      ∀ entry ∈ entries, entry.1.isWritable = true ∧ entry.2.isWritable = true := by
  rw [isWritable, entriesWritable_iff]

theorem isWritable_of_lookup? {key : String} {entries : List (Datum × Datum)} {d : Datum}
    (h : (dict entries).isWritable = true) (hd : lookup? key entries = some d) :
    d.isWritable = true := by
  rw [lookup?, Option.map_eq_some_iff] at hd
  obtain ⟨entry, hentry, rfl⟩ := hd
  exact (isWritable_dict.1 h entry (List.mem_of_find?_eq_some hentry)).2

/-- What stands for a missing value is written. -/
theorem isWritable_getD_lookup? {entries : List (Datum × Datum)}
    (h : (dict entries).isWritable = true) (key : String) :
    ((lookup? key entries).getD .null).isWritable = true := by
  cases hd : lookup? key entries with
  | none => rfl
  | some d => exact isWritable_of_lookup? h hd

end Datum

/-! ## Entries that cannot be put into words -/

namespace Definition

theorem entryEnumeration_ne_unwritable {name : String} {entries : List (Datum × Datum)} :
    entryEnumeration name entries ≠ .error .unwritable := by
  rw [entryEnumeration.eq_def]
  split <;> exact nofun

theorem entryEnumerators_ne_unwritable [Readers] {items : List Datum} :
    entryEnumerators items ≠ .error .unwritable := by
  intro h
  obtain ⟨_, item, _, -, -, hitem⟩ := Attempt.mapM_eq_error h
  obtain ⟨issues, -, hissues⟩ := Attempt.mapError_eq_error hitem
  cases hissues

theorem not_isWritable_of_entryKind {d : Datum} (h : entryKind d = .error .unwritable) :
    d.isWritable = false := by
  rw [entryKind] at h
  split at h
  · split at h <;> cases h
  · next hd => exact Bool.eq_false_iff.2 hd

theorem not_isWritable_of_entryDescription {d : Datum}
    (h : entryDescription d = .error .unwritable) : d.isWritable = false := by
  rw [entryDescription] at h
  split at h
  · cases h
  · next hd => exact Bool.eq_false_iff.2 hd

theorem not_isWritable_of_entryShape {d : Datum} (h : entryShape d = .error .unwritable) :
    d.isWritable = false := by
  obtain ⟨fault, -, hfault⟩ := Attempt.mapError_eq_error h
  split at hfault
  · cases hfault
  · next hd => exact Bool.eq_false_iff.2 hd

/-- Only an integer somewhere in an entry keeps the entry from being put into words. -/
theorem not_isWritable_of_ofEntry [Readers] {name entry vendor : Datum}
    (h : ofEntry name entry vendor = .error .unwritable) : entry.isWritable = false := by
  refine Bool.eq_false_iff.2 fun hentry => ?_
  cases entry with
  | dict entries =>
    have hfield (key : String) := Datum.isWritable_getD_lookup? hentry key
    rw [ofEntry] at h
    cases htype : Datum.lookup? "type" entries with
    | none =>
      rw [htype] at h
      cases h
    | some type =>
      rw [htype] at h
      simp only at h
      obtain h | ⟨enumeration, -, h⟩ := Attempt.bind_eq_error h
      · exact entryEnumeration_ne_unwritable h
      obtain h | ⟨kind, -, h⟩ := Attempt.bind_eq_error h
      · have hfalse := not_isWritable_of_entryKind h
        rw [Datum.isWritable_of_lookup? hentry htype] at hfalse
        cases hfalse
      obtain h | ⟨description, -, h⟩ := Attempt.bind_eq_error h
      · have hfalse := not_isWritable_of_entryDescription h
        rw [hfield] at hfalse
        cases hfalse
      obtain h | ⟨shape, -, h⟩ := Attempt.bind_eq_error h
      · have hfalse := not_isWritable_of_entryShape h
        rw [hfield] at hfalse
        cases hfalse
      obtain h | ⟨enumerators, -, h⟩ := Attempt.bind_eq_error h
      · cases enumeration with
        | none => cases h
        | some items =>
          rw [Option.mapM_some] at h
          obtain h | ⟨found, -, h⟩ := Attempt.bind_eq_error h
          · exact entryEnumerators_ne_unwritable h
          · cases h
      · obtain ⟨issues, -, hissues⟩ := Attempt.mapError_eq_error h
        cases hissues
  | _ => cases h

end Definition

/-! ## Errors that tell the file -/

namespace DocumentError

variable {file : String} {e : DocumentError}

/-- The file stands in the message or in one of the notes. -/
def Names (e : DocumentError) (file : String) : Prop :=
  ∃ text, (e.message? = some text ∨ text ∈ e.notes) ∧
    ∃ front back, text = front ++ file ++ back

/-- Something has to be written that holds a long integer. -/
def IsUnwritable (e : DocumentError) (file : String) : Prop :=
  e = .unwritable ∨ ∃ name, e = .badEntry file name .unwritable

/-- Then the error is not one about schemas: the two ways to be reported exclude each other. -/
theorem IsUnwritable.isAboutSchema (h : e.IsUnwritable file) : e.isAboutSchema = false := by
  obtain rfl | ⟨name, rfl⟩ := h <;> rfl

/-- The file stands at the beginning of the message. -/
theorem names_of_message? {text back : String} (h : e.message? = some text)
    (htext : text = file ++ back) : e.Names file :=
  ⟨text, .inl h, "", back, by rw [String.empty_append, htext]⟩

theorem names_badItem (file : String) (item : Datum) : (badItem file item).Names file :=
  names_of_message? rfl (String.append_assoc ..)

theorem names_badEntry (file name : String) {error : EntryError} (h : error ≠ .unwritable) :
    (badEntry file name error).isAboutSchema = true ∧ (badEntry file name error).Names file := by
  have hnote : "in " ++ file = "in " ++ file ++ "" := (String.append_empty).symm
  cases error with
  | unwritable => exact absurd rfl h
  | invalid issues => exact ⟨rfl, names_of_message? rfl (String.append_assoc ..)⟩
  | _ => exact ⟨rfl, "in " ++ file, .inr (List.mem_singleton_self _), "in ", "", hnote⟩

end DocumentError

namespace Document

open DocumentError

/-- The error is about the schema and tells the file, or the data around the part that failed hold a
long integer. -/
def IsReported (file : String) (data : Datum) (e : DocumentError) : Prop :=
  e.isAboutSchema = true ∧ e.Names file ∨ data.isWritable = false ∧ e.IsUnwritable file

variable {file : String} {e : DocumentError}

/-- A part of the data is reported as the data are. -/
theorem IsReported.mono {part data : Datum} (h : IsReported file part e)
    (hpart : data.isWritable = true → part.isWritable = true) : IsReported file data e := by
  refine h.imp_right fun ⟨hlong, he⟩ => ⟨Bool.eq_false_iff.2 fun hdata => ?_, he⟩
  rw [hpart hdata] at hlong
  cases hlong

section

variable [Readers]

theorem isReported_ofItem {vendor item : Datum} (h : ofItem file vendor item = .error e) :
    IsReported file item e := by
  rw [ofItem.eq_def] at h
  split at h
  · rename_i name body
    split at h
    · obtain ⟨error, herror, rfl⟩ := Attempt.mapError_eq_error h
      by_cases hwritten : error = .unwritable
      · rw [hwritten] at herror
        have hbody := Definition.not_isWritable_of_ofEntry herror
        refine .inr ⟨?_, .inr ⟨name.plain, by rw [hwritten]⟩⟩
        simp [Datum.isWritable, Datum.entriesWritable, Datum.entryWritable, hbody]
      · exact .inl (names_badEntry file name.plain hwritten)
    · next hname =>
      cases h
      refine .inr ⟨?_, .inl rfl⟩
      simp [Datum.isWritable, Datum.entriesWritable, Datum.entryWritable, hname]
  · split at h <;> cases h
    · exact .inl ⟨rfl, names_badItem file _⟩
    · next hitem => exact .inr ⟨Bool.eq_false_iff.2 hitem, .inl rfl⟩

theorem isReported_ofRoot {root : Datum} (h : ofRoot file root = .error e) :
    IsReported file root e := by
  rw [ofRoot.eq_def] at h
  split at h
  · split at h
    · next entries items hitems =>
      obtain ⟨_, item, _, rfl, -, hitem⟩ := Attempt.mapM_eq_error h
      refine (isReported_ofItem hitem).mono fun hroot => ?_
      exact Datum.isWritable_list.1 (Datum.isWritable_of_lookup? hroot hitems) item (by simp)
    · cases h
      exact .inl ⟨rfl, names_of_message? rfl rfl⟩
  · cases h
    exact .inl ⟨rfl, names_of_message? rfl rfl⟩

/-- The ways in which a document fails. -/
inductive Failure (file text : String) (e : DocumentError) : Prop
  /-- The error is one about schemas, and it tells the file. -/
  | told (habout : e.isAboutSchema = true) (hnames : e.Names file)
      (hread : Readers.yaml text = .error .malformed ∨ ∃ data, Readers.yaml text = .ok data)
  /-- The reader fails for another reason, as on a scalar that is no value of its type. The error is
  that fault and tells nothing else. -/
  | scalar {fault : Yaml.Fault} (hread : Readers.yaml text = .error fault)
      (hfault : fault ≠ .malformed) (he : e = .badScalar fault)
  /-- An integer in the data of the text is too long to be written. -/
  | integer {data : List Datum} {d : Datum} (hread : Readers.yaml text = .ok data) (hd : d ∈ data)
      (hlong : d.isWritable = false) (he : e.IsUnwritable file)

theorem failure_of_parse {text : String} (h : parse file text = .error e) :
    Failure file text e := by
  rw [parse] at h
  obtain hroots | ⟨data, hroots, h⟩ := Attempt.bind_eq_error h
  · rw [roots.eq_def] at hroots
    split at hroots
    · cases hroots
    · next hread =>
      cases hroots
      exact .told rfl (names_of_message? rfl rfl) (.inl hread)
    · next fault hfault hread =>
      cases hroots
      exact .scalar hread (fun heq => hfault heq) rfl
  · rw [roots.eq_def] at hroots
    split at hroots
    · next read hread =>
      cases hroots
      obtain h | ⟨dss, -, h⟩ := Attempt.bind_eq_error h
      · obtain ⟨before, root, after, hdata, -, hroot⟩ := Attempt.mapM_eq_error h
        have hmem : root ∈ before ++ root :: after :=
          List.mem_append_right before List.mem_cons_self
        rw [← hdata] at hmem
        have hmem := List.mem_of_mem_filter hmem
        rcases isReported_ofRoot hroot with ⟨habout, hnames⟩ | ⟨hlong, he⟩
        · exact .told habout hnames (.inr ⟨read, hread⟩)
        · exact .integer hread hmem hlong he
      · cases h
    · cases hroots
    · cases hroots

/-- Documents are read in the order of their names. Either all of them are sound, or the error is
that of the first that fails, and it tells the file of that document unless the reader failed on
more than the form of its text or an integer in it is too long to be written. -/
theorem parseAll_outcome (documents : Table String String) :
    (∃ ds, parseAll documents = .ok ds ∧
      ∀ document ∈ documents, ∃ part, parse document.1 document.2 = .ok part) ∨
    ∃ before file text after e, documents.sorted = before ++ (file, text) :: after ∧
      (∀ document ∈ before, ∃ part, parse document.1 document.2 = .ok part) ∧
      parse file text = .error e ∧ parseAll documents = .error e ∧ Failure file text e := by
  cases h : parseAll documents with
  | ok ds =>
    obtain ⟨parts, hparts, -⟩ := Attempt.bind_eq_ok h
    refine .inl ⟨ds, rfl, fun document hdocument => ?_⟩
    exact Attempt.exists_of_mapM hparts document (Table.mem_sorted.2 hdocument)
  | error e =>
    rw [parseAll] at h
    obtain h | ⟨parts, -, h⟩ := Attempt.bind_eq_error h
    · obtain ⟨before, ⟨file, text⟩, after, hsorted, hbefore, hparse⟩ := Attempt.mapM_eq_error h
      exact .inr ⟨before, file, text, after, e, hsorted, hbefore, hparse, rfl,
        failure_of_parse hparse⟩
    · cases h

end

section

attribute [local instance] Readers.standard

/-- A date of a month that has no such day. -/
def unrealDate : String := "controls:\n- Foo:\n    type: bool\n    description: 2001-99-99\n"

/-- The fault of a date is not converted, and its error tells no file. -/
theorem parseAll_unrealDate : ∃ e, parseAll [("a.yaml", unrealDate)] = .error e ∧
    e.isAboutSchema = false ∧ ¬ e.Names "a.yaml" := by
  have hfault : (((parseAll [("a.yaml", unrealDate)]).map fun _ => none).tryCatch fun e =>
      .ok (some (e.isAboutSchema, e.message?, e.notes))).toOption
        = some (some (false, none, [])) := by decide +kernel
  cases hparse : parseAll [("a.yaml", unrealDate)] with
  | ok ds =>
    rw [hparse] at hfault
    cases hfault
  | error e =>
    rw [hparse] at hfault
    have hparts := Option.some.inj (Option.some.inj hfault)
    rw [Prod.mk.injEq, Prod.mk.injEq] at hparts
    obtain ⟨habout, hmessage, hnotes⟩ := hparts
    refine ⟨e, rfl, habout, ?_⟩
    rintro ⟨text, h | h, -⟩
    · rw [hmessage] at h
      cases h
    · rw [hnotes] at h
      cases h

end

end Document

end ControlSchema
