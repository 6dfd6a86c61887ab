import ControlSchema.Proofs.Document
import ControlSchema.Proofs.Shape
import ControlSchema.Release

/-!
# Definitions in the order of the documents

The numbers of constants are places in a sequence, so the sequence has to be known exactly. It is
that of the items: file by file in the order of the names, root by root in each file, and item by
item in each root. Every item makes one definition, under its key and for the vendor that the root
or the item itself says, and nothing else makes one.

Both facts are about one item and one root; what is left is that mapping over lists keeps items and
definitions in step. The order in which the documents were found plays no part, since sorting by
names that all differ comes to the same whatever it starts from.
-/

namespace ControlSchema

open Text

/-! ## Entries -/

theorem Datum.plainIfPresent_text (s : String) : (text s).plainIfPresent = s := by
  rw [plainIfPresent]
  split
  · rfl
  · next habsent => exact (String.isEmpty_iff.1 (by simpa [truthy] using habsent)).symm

namespace Definition

/-- Only a mapping makes a definition, and then name and vendor are read from what was given. -/
theorem read_of_ofEntry [Readers] {name entry vendor : Datum} {d : Definition}
    (h : ofEntry name entry vendor = .ok d) : ∃ entries, entry = .dict entries ∧
      readName name = .ok d.name ∧ readVendor (entryVendor entries vendor) = .ok d.vendor := by
  cases entry with
  | dict entries =>
    refine ⟨entries, rfl, ?_⟩
    rw [ofEntry] at h
    split at h
    · cases h
    · obtain ⟨enumeration, -, h⟩ := Attempt.bind_eq_ok h
      obtain ⟨kind, -, h⟩ := Attempt.bind_eq_ok h
      obtain ⟨description, -, h⟩ := Attempt.bind_eq_ok h
      obtain ⟨shape, -, h⟩ := Attempt.bind_eq_ok h
      obtain ⟨enumerators, -, h⟩ := Attempt.bind_eq_ok h
      have hparts := Attempt.mapError_eq_ok h
      rw [ofParts] at hparts
      split at hparts
      · next hname hvendor =>
        rw [eq_of_checked hparts]
        exact ⟨located_eq_ok hname, located_eq_ok hvendor⟩
      · cases hparts
  | _ => cases h

theorem eq_of_checkName {what text name : String}
    (h : Naming.checkName what (.text text) = .ok name) : name = text := by
  rw [Naming.checkName] at h
  split at h
  · cases h
    rfl
  · cases h

/-- The name is the text that was given, as it stands. -/
theorem eq_of_readName {text name : String} (h : readName (.text text) = .ok name) :
    name = text := by
  have hread := read_of_readWritten h
  rw [Datum.plainIfPresent_text] at hread
  split at hread
  · next hchecked =>
    cases hread
    exact eq_of_checkName hchecked
  · cases hread

/-- The vendor is the text of what was given, without blanks around it. -/
theorem eq_of_readVendor {datum : Datum} {vendor : String} (h : readVendor datum = .ok vendor) :
    vendor = strip datum.plain := by
  have hread := read_of_readWritten h
  have hempty : Naming.isLowerSnake (strip "") = false := by decide
  simp only at hread
  split at hread
  · next hsnake =>
    have hpresent : datum.truthy = true := by
      by_contra habsent
      rw [Datum.plainIfPresent, if_neg habsent, hempty] at hsnake
      cases hsnake
    rw [Datum.plainIfPresent, if_pos hpresent] at hread
    exact (Except.ok.inj hread).symm
  · cases hread

end Definition

/-! ## Items -/

namespace Document

/-- The list of controls of a root. -/
def controlsOf? : Datum → Option (List Datum)
  | .dict entries =>
    match Datum.lookup? "controls" entries with
    | some (.list items) => some items
    | _ => none
  | _ => none

/-- What a root declares as the vendor of all its controls, null if it declares none. -/
def vendorOf : Datum → Datum
  | .dict entries => (Datum.lookup? "vendor" entries).getD .null
  | _ => .null

/-- The items of a root, each with the vendor that the root declares. -/
def itemsOf (root : Datum) : List (Datum × Datum) :=
  ((controlsOf? root).getD []).map fun item => (vendorOf root, item)

theorem strip_vendors : strip Definition.draftVendor = Definition.draftVendor ∧
    strip Definition.coreVendor = Definition.coreVendor := by decide

/-- Empty documents have no items. -/
theorem flatMap_itemsOf (data : List Datum) :
    (data.filter fun | .null => false | _ => true).flatMap itemsOf = data.flatMap itemsOf := by
  induction data with
  | nil => rfl
  | cons root data ih =>
    cases root with
    | null => exact ih
    | _ => exact congrArg (itemsOf _ ++ ·) ih

section

variable [Readers]

/-- The definition is made of the item: it is named by the key, and it belongs to the vendor of the
document, or else to the one that the mark for drafts decides. -/
inductive Carries : Datum × Datum → Definition → Prop
  | intro {vendor key : Datum} {entries : List (Datum × Datum)} {d : Definition}
      (made : Definition.ofEntry (.text key.plain) (.dict entries) vendor = .ok d)
      (name : d.name = key.plain)
      (declared : vendor ≠ .null → d.vendor = strip vendor.plain)
      (draft : vendor = .null → Datum.lookup? "draft" entries = some (.bool true) →
        d.vendor = Definition.draftVendor)
      (core : vendor = .null → Datum.lookup? "draft" entries ≠ some (.bool true) →
        d.vendor = Definition.coreVendor) :
      Carries (vendor, .dict [(key, .dict entries)]) d

theorem carries_of_ofItem {file : String} {vendor item : Datum} {d : Definition}
    (h : ofItem file vendor item = .ok d) : Carries (vendor, item) d := by
  rw [ofItem.eq_def] at h
  split at h
  · next key body =>
    split at h
    · have hmade := Attempt.mapError_eq_ok h
      obtain ⟨entries, rfl, hname, hvendor⟩ := Definition.read_of_ofEntry hmade
      have hvendor := Definition.eq_of_readVendor hvendor
      rw [Definition.entryVendor.eq_def] at hvendor
      refine .intro hmade (Definition.eq_of_readName hname) (fun hdeclared => ?_)
        (fun hnull hdraft => ?_) fun hnull hdraft => ?_
      · split at hvendor
        · exact absurd rfl hdeclared
        · exact absurd rfl hdeclared
        · exact hvendor
      · subst hnull
        rw [hdraft] at hvendor
        exact hvendor.trans strip_vendors.1
      · subst hnull
        split at hvendor
        · next hmark => exact absurd hmark hdraft
        · exact hvendor.trans strip_vendors.2
        · next hnull _ => exact absurd rfl hnull
    · cases h
  · cases h

/-- A root has a list of controls, and its definitions are those of the items. -/
theorem carries_of_ofRoot {file : String} {root : Datum} {ds : List Definition}
    (h : ofRoot file root = .ok ds) :
    (controlsOf? root).isSome = true ∧ List.Forall₂ Carries (itemsOf root) ds := by
  rw [ofRoot.eq_def] at h
  split at h
  · next entries =>
    split at h
    · next items hcontrols =>
      have hitems : controlsOf? (.dict entries) = some items := by rw [controlsOf?, hcontrols]
      rw [itemsOf, hitems]
      refine ⟨rfl, List.forall₂_map_left_iff.2 ?_⟩
      exact (Attempt.forall₂_of_mapM h).imp fun _ _ => carries_of_ofItem
    · cases h
  · cases h

/-- The roots of a text that can be read. -/
def dataOf (text : String) : List Datum := (Readers.yaml text).toOption.getD []

/-- The definitions of a text are those of its roots. -/
theorem carries_of_parse {file text : String} {ds : List Definition}
    (h : parse file text = .ok ds) : Readers.yaml text = .ok (dataOf text) ∧
      (∀ root ∈ dataOf text, root ≠ .null → (controlsOf? root).isSome = true) ∧
      List.Forall₂ Carries ((dataOf text).flatMap itemsOf) ds := by
  obtain ⟨rs, hrs, h⟩ := Attempt.bind_eq_ok h
  obtain ⟨dss, hdss, h⟩ := Attempt.bind_eq_ok h
  cases h
  rw [roots.eq_def] at hrs
  split at hrs
  · next data hread =>
    cases hrs
    have hdata : dataOf text = data := by
      rw [dataOf, hread]
      rfl
    have hall := Attempt.forall₂_flatMap_of_mapM
      (fun _ _ hroot => (carries_of_ofRoot hroot).2) hdss
    rw [hdata]
    refine ⟨hread, fun root hroot hnull => ?_, ?_⟩
    · have hkept : root ∈ data.filter fun | .null => false | _ => true := by
        refine List.mem_filter.2 ⟨hroot, ?_⟩
        cases root with
        | null => exact absurd rfl hnull
        | _ => rfl
      obtain ⟨ds, hds⟩ := Attempt.exists_of_mapM hdss root hkept
      exact (carries_of_ofRoot hds).1
    · rw [← flatMap_itemsOf]
      exact hall
  · cases hrs
  · cases hrs

/-- Files with the roots of their texts, in the order of the names. -/
structure Lists (documents : Table String String) (files : Table String (List Datum)) : Prop where
  ordered : files.keys.Pairwise (· ≤ ·)
  nodup : files.keys.Nodup
  names : ∀ name, name ∈ files.keys ↔ name ∈ documents.keys
  roots : ∀ file ∈ files, ∃ text, (file.1, text) ∈ documents ∧ Readers.yaml text = .ok file.2
  controls : ∀ file ∈ files, ∀ root ∈ file.2, root ≠ .null → (controlsOf? root).isSome = true

theorem lists_of_parseAll {documents : Table String String} (hkeys : documents.keys.Nodup)
    {ds : List Definition} (h : parseAll documents = .ok ds) :
    Lists documents (documents.sorted.map fun document => (document.1, dataOf document.2)) := by
  obtain ⟨dss, hdss, -⟩ := Attempt.bind_eq_ok h
  have hparsed (document : String × String) (hdocument : document ∈ documents.sorted) :
      ∃ part, parse document.1 document.2 = .ok part :=
    Attempt.exists_of_mapM hdss document hdocument
  have hnames : Table.keys (documents.sorted.map fun document => (document.1, dataOf document.2))
      = documents.sorted.keys := List.map_map
  refine ⟨?_, ?_, fun name => ?_, fun file hfile => ?_, fun file hfile => ?_⟩
  · rw [hnames]
    exact documents.pairwise_keys_sorted
  · rw [hnames]
    exact Table.nodup_keys_sorted hkeys
  · rw [hnames, Table.mem_keys_sorted]
  · obtain ⟨document, hdocument, rfl⟩ := List.mem_map.1 hfile
    obtain ⟨part, hpart⟩ := hparsed document hdocument
    exact ⟨document.2, Table.mem_sorted.1 hdocument, (carries_of_parse hpart).1⟩
  · obtain ⟨document, hdocument, rfl⟩ := List.mem_map.1 hfile
    obtain ⟨part, hpart⟩ := hparsed document hdocument
    exact (carries_of_parse hpart).2.1

theorem carries_of_parseAll {documents : Table String String} {ds : List Definition}
    (h : parseAll documents = .ok ds) : List.Forall₂ Carries
      (documents.sorted.flatMap fun document => (dataOf document.2).flatMap itemsOf) ds := by
  obtain ⟨dss, hdss, h⟩ := Attempt.bind_eq_ok h
  cases h
  exact Attempt.forall₂_flatMap_of_mapM (fun _ _ hpart => (carries_of_parse hpart).2.2) hdss

/-! ## Documents in another order -/

theorem parseAll_perm {documents documents' : Table String String} (hkeys : documents.keys.Nodup)
    (h : documents'.Perm documents) : parseAll documents' = parseAll documents := by
  rw [parseAll, parseAll, Table.sorted_eq_of_perm hkeys h]

end

end Document

/-- The definitions of a category are those of its documents. -/
theorem Release.definitions_of_parse [Readers] {r : Release} {s : Snapshot} (h : r.parse = .ok s)
    (category : Category) :
    Document.parseAll (r.documents category) = .ok (s.definitions category) := by
  obtain ⟨controls, hcontrols, h⟩ := Attempt.bind_eq_ok h
  obtain ⟨properties, hproperties, h⟩ := Attempt.bind_eq_ok h
  have hsnapshot := Attempt.mapError_eq_ok h
  rw [Snapshot.ofDefinitions] at hsnapshot
  split at hsnapshot
  · cases hsnapshot
  · cases hsnapshot
  · cases hsnapshot
    cases category
    · exact Attempt.mapError_eq_ok hcontrols
    · exact Attempt.mapError_eq_ok hproperties

/-- Documents that can be read define what their items describe, one definition for each item in
the order of files, roots and items, and nothing else. In whatever order the documents were found,
these are the definitions and these are the numbers of their constants. -/
theorem Document.parseAll_carries [Readers] {documents : Table String String}
    (hkeys : documents.keys.Nodup) {ds : List Definition} (h : parseAll documents = .ok ds) :
    (∃ files, Lists documents files ∧
      List.Forall₂ Carries (files.flatMap fun file => file.2.flatMap itemsOf) ds) ∧
    ∀ documents' : Table String String, documents'.Perm documents →
      parseAll documents' = .ok ds ∧
      ∀ (r r' : Release) (category : Category) (s s' : Snapshot),
        r.documents category = documents → r'.documents category = documents' →
        r.parse = .ok s → r'.parse = .ok s' →
          s.definitions category = ds ∧ s'.linkageIds category = s.linkageIds category := by
  refine ⟨⟨_, lists_of_parseAll hkeys h, ?_⟩, fun documents' hperm => ?_⟩
  · rw [List.flatMap_map]
    exact carries_of_parseAll h
  have hsame := (parseAll_perm hkeys hperm).trans h
  refine ⟨hsame, fun r r' category s s' hr hr' hs hs' => ?_⟩
  have hds := Release.definitions_of_parse hs category
  have hds' := Release.definitions_of_parse hs' category
  rw [hr, h] at hds
  rw [hr', hsame] at hds'
  cases hds
  refine ⟨rfl, ?_⟩
  rw [Snapshot.linkageIds, Snapshot.linkageIds, Except.ok.inj hds']

/-- Two files found out of order, one of them with two documents, of which one has a vendor. -/
def Document.outOfOrder : Table String String := [
  ("b.yaml", "vendor: ' rpi '\ncontrols:\n- SyncMode:\n    type: int32\n---\n"),
  ("a.yaml", "controls:\n- Gain:\n    type: float\n---\ncontrols:\n- AeEnable:\n    type: bool\n"
    ++ "    draft: true\n")]

section

attribute [local instance] Readers.standard

theorem Document.parseAll_carries_outOfOrder : ∃ ds, parseAll outOfOrder = .ok ds ∧
    ds.map (fun d => (d.name, d.vendor))
      = [("Gain", "libcamera"), ("AeEnable", "draft"), ("SyncMode", "rpi")] ∧
    (∃ files, Lists outOfOrder files ∧
      List.Forall₂ Carries (files.flatMap fun file => file.2.flatMap itemsOf) ds) ∧
    parseAll outOfOrder.reverse = .ok ds := by
  have hsorted : outOfOrder.sorted = outOfOrder.reverse :=
    (Table.sorted_eq_of_perm (by decide) (List.reverse_perm _).symm).trans
      (Table.sorted_of_pairwise (by decide))
  have hparse : ((parseAll outOfOrder).toOption.map fun ds => ds.map fun d => (d.name, d.vendor))
      = some [("Gain", "libcamera"), ("AeEnable", "draft"), ("SyncMode", "rpi")] := by
    rw [parseAll, hsorted]
    decide +kernel
  obtain ⟨ds, hds, hnames⟩ := Option.map_eq_some_iff.1 hparse
  have hds := Attempt.eq_ok_of_toOption hds
  obtain ⟨hfiles, hperm⟩ := parseAll_carries (by decide) hds
  exact ⟨ds, hds, hnames, hfiles, (hperm _ (List.reverse_perm _)).1⟩

end

end ControlSchema
