import ControlSchema.Artifact.Verification
import ControlSchema.Proofs.Json.RoundTrip

/-!
# Manifests are read back

A manifest is written as canonical JSON, which puts its entries in another order, and
read back it is the same: every entry is found under its key, and the digests of
files are in the order of their names before and after. So the seal, which is a
digest of canonical JSON itself, is still right.
-/

namespace ControlSchema

open Json

namespace Manifest

/-! ## Digests -/

/-- Digests as they are recorded: texts under different names, in the order of the
names. -/
structure IsRecord (digests : List (Value × Value)) (fields : Table String Value) : Prop where
  eq : digests = Value.entriesOf fields
  nodup : fields.keys.Nodup
  sorted : fields.keys.Pairwise (· ≤ ·)
  texts : ∀ field ∈ fields, ∃ digest, field.2 = .text (.whole digest)

/-- The digests of files under their names. -/
def digestFields (files : Table String String) : Table String Value :=
  files.map fun file => (file.1, .text (.whole (Digest.ofText file.2)))

theorem keys_digestFields (files : Table String String) :
    (digestFields files).keys = files.keys := by
  rw [digestFields, Table.keys, List.map_map]
  rfl

theorem get?_digestFields (files : Table String String) (name : String) :
    (digestFields files).get? name
      = (files.get? name).map fun text => .text (.whole (Digest.ofText text)) :=
  Table.get?_map (fun text => Value.text (.whole (Digest.ofText text))) files name

theorem isRecord_digestsOf {files : Table String String} (h : files.keys.Nodup) :
    IsRecord (digestsOf files) (digestFields files).sorted where
  eq := by
    have hsorted := @List.map_mergeSort _ _ (fun a b : String × String => textAtMost a.1 b.1)
      (fun a b : String × Value => textAtMost a.1 b.1) (fun file => (file.1, .text (.whole file.2)))
      (files.map fun file => (file.1, Digest.ofText file.2)) fun _ _ _ _ => rfl
    rw [List.map_map] at hsorted
    have hfields : (digestFields files).sorted = _ := hsorted.symm
    rw [hfields, Value.entriesOf, List.map_map]
    rfl
  nodup := Table.nodup_keys_sorted (by rwa [keys_digestFields])
  sorted := Table.pairwise_keys_sorted _
  texts := by
    intro field hfield
    obtain ⟨file, -, rfl⟩ := List.mem_map.1 (Table.mem_sorted.1 hfield)
    exact ⟨_, rfl⟩

theorem IsRecord.stored {digests : List (Value × Value)} {fields : Table String Value}
    (h : IsRecord digests fields) : Stored (.dict digests) (.dict digests) := by
  have hstored := stored_ofRecord h.nodup fun field hfield => by
    obtain ⟨digest, heq⟩ := h.texts field hfield
    rw [heq]
    exact stored_text digest
  rwa [Table.sorted_of_pairwise h.sorted, Value.ofRecord, ← h.eq] at hstored

/-! ## Reading -/

theorem nodup_keys_fields (m : Manifest) : m.fields.keys.Nodup := by
  have hkeys : m.fields.keys = [versionKey, "tag", "sources", "outputs", "generator", "version",
    "created_at", "digest"] := rfl
  rw [hkeys]
  decide

/-- Every entry is found under its key, in whichever order they are. -/
theorem lookup?_sorted_fields (m : Manifest) (key : String) :
    Value.lookup? key (Value.entriesOf m.fields.sorted) = m.fields.get? key := by
  rw [Value.lookup?_entriesOf, Table.get?_sorted (nodup_keys_fields m)]

theorem digestsField_eq_ok {entries digests : List (Value × Value)} {key : String}
    (h : Value.lookup? key entries = some (.dict digests)) :
    digestsField entries key = .ok digests := by
  rw [digestsField, h]
  cases digests <;> rfl

theorem ofValue_sorted_fields (m : Manifest) : ofValue (.ofRecord m.fields.sorted) = .ok m := by
  have hlookup := lookup?_sorted_fields m
  have hsources := digestsField_eq_ok (hlookup "sources")
  have houtputs := digestsField_eq_ok (hlookup "outputs")
  have hlayout : Value.lookup? "version" _ = some (.int m.layout) := hlookup "version"
  have hversion : Value.lookup? versionKey _ = some (.text m.version) := hlookup versionKey
  have htext (key missing : String) (w : Words) (h : m.fields.get? key = some (.text w)) :
      textField (Value.entriesOf m.fields.sorted) key missing = w := by
    rw [textField, hlookup, h]
    rfl
  rw [Value.ofRecord, ofValue]
  simp only [hversion, hsources, houtputs, hlayout, htext "tag" "" m.tag rfl,
    htext "generator" generatorName m.generator rfl, htext "created_at" "" m.createdAt rfl,
    htext "digest" "" m.digest rfl, bind, Except.bind]
  rfl

/-- A manifest as it is written: its texts have no halves of characters, and its digests are
recorded as those of files. -/
structure IsWritten (m : Manifest) (sources outputs : Table String Value) : Prop where
  sources : IsRecord m.sources sources
  outputs : IsRecord m.outputs outputs
  texts : ∀ w ∈ [m.version, m.tag, m.generator, m.createdAt, m.digest], ∃ text, w = .whole text
  layout : m.layout.natAbs < 10 ^ Number.digitLimit

section

variable {m : Manifest} {sources outputs : Table String Value} (h : m.IsWritten sources outputs)
include h

theorem IsWritten.stored : ∀ field ∈ m.fields, Stored field.2 field.2 := by
  have htext {w : Words} (hw : w ∈ [m.version, m.tag, m.generator, m.createdAt, m.digest]) :
      Stored (.text w) (.text w) := by
    obtain ⟨text, rfl⟩ := h.texts w hw
    exact stored_text text
  simp only [fields, identityFields, List.forall_mem_append, List.forall_mem_cons]
  exact ⟨⟨htext (by simp), htext (by simp), h.sources.stored, h.outputs.stored, htext (by simp),
    stored_int h.layout, List.forall_mem_nil _⟩, htext (by simp), htext (by simp),
    List.forall_mem_nil _⟩

/-- A manifest is read back from its text. -/
theorem ofText_text (file : String) : ofText file m.text = .ok m ∧ '\r' ∉ m.text.toList := by
  have hstored := stored_ofRecord (nodup_keys_fields m) h.stored
  have htext : m.text = String.ofList (write (.ofRecord m.fields)) ++ "\n" := by
    rw [Manifest.text, hstored.written]
    rfl
  constructor
  · rw [ofText, htext, read_of_stored hstored]
    simp only [ofValue_sorted_fields]
  · rw [htext, String.toList_append, String.toList_ofList, List.mem_append, not_or]
    exact ⟨hstored.unbroken, by decide⟩

/-- The seal of a sealed manifest is right: it is not among what it is a digest of. -/
theorem exists_identity_sealed :
    ∃ digest, m.sealed.digest = .whole digest ∧ m.sealed.identity = .ok digest := by
  have hnodup : Table.keys m.identityFields = m.fields.keys.take 6 := rfl
  have hstored := @stored_ofRecord m.identityFields
    (hnodup ▸ (nodup_keys_fields m).sublist (List.take_sublist 6 _)) fun field hfield =>
      h.stored field (List.mem_append_left _ hfield)
  have hidentity : m.identity
      = .ok (Digest.ofText (String.ofList (write (.ofRecord m.identityFields)))) :=
    congrArg (Except.map Digest.ofText) hstored.written
  have hsame : m.sealed.identity = m.identity := rfl
  refine ⟨_, ?_, hsame.trans hidentity⟩
  rw [sealed, hidentity]
  rfl

theorem IsWritten.sealed : m.sealed.IsWritten sources outputs := by
  refine ⟨h.sources, h.outputs, fun w hw => ?_, h.layout⟩
  obtain ⟨digest, hdigest, -⟩ := exists_identity_sealed h
  have hmem : w ∈ [m.version, m.tag, m.generator, m.createdAt] ++ [m.sealed.digest] := hw
  rcases List.mem_append.1 hmem with hw | hw
  · exact h.texts w (List.mem_append_left _ hw)
  · exact ⟨digest, (List.mem_singleton.1 hw).trans hdigest⟩

end

end Manifest

end ControlSchema
