import ControlSchema.Artifact.Verification
import ControlSchema.Proofs.Json.Values
import ControlSchema.Proofs.Number.Overflow
import ControlSchema.Proofs.Storage.Inquiry

/-!
# What checking comes to

Whatever a directory holds, checking it changes nothing. A manifest that is missing or cannot be
read makes an artifact error. Otherwise the recorded files are looked at in the order of their
names, and those that are missing or have another digest are reported, with the manifest when its
seal is wrong.

Four faults get past the check for artifact errors. The number of the layout may be infinite, the
record may name files by values that are no texts, half of a character may stand alone in a text
that the digest is taken of, and a recorded file may be there without a text to take the digest of:
it is a directory, or its bytes are no UTF-8. The first such file ends the check, so that nothing is
reported about any file. Names that are no texts end the check as well, unless the seal is right and
they can be put in order: then no file has any of them, and they are what is reported.
-/

namespace ControlSchema

open Disk Storage Json

namespace Manifest

/-! ## What a manifest records -/

theorem isValue_of_items? {v : Value} (hv : IsValue v) {parts : List Value}
    (h : v.items? = some parts) : ∀ part ∈ parts, IsValue part := by
  cases hv with
  | list hitems =>
    cases h
    exact hitems
  | dict hkeys _ =>
    cases h
    intro key hkey
    obtain ⟨entry, hentry, rfl⟩ := List.mem_map.1 hkey
    obtain ⟨w, hw⟩ := hkeys entry hentry
    rw [hw]
    exact .text w
  | text w =>
    cases h
    intro part hpart
    obtain ⟨code, -, rfl⟩ := List.mem_map.1 hpart
    exact .text _
  | _ => cases h

/-- Keys and values that are JSON values. -/
def AreValues (entries : List (Value × Value)) : Prop :=
  ∀ entry ∈ entries, IsValue entry.1 ∧ IsValue entry.2

theorem isValue_of_asPair {index : Nat} {item : Value} {pair : Value × Value} (hitem : IsValue item)
    (h : item.asPair index = .ok pair) : IsValue pair.1 ∧ IsValue pair.2 := by
  rw [Value.asPair] at h
  split at h
  · cases h
  · next hparts =>
    split at h
    · cases h
      have hvalues := isValue_of_items? hitem hparts
      exact ⟨hvalues _ (by simp), hvalues _ (by simp)⟩
    · cases h
  · cases h

theorem areValues_of_asMapping {v : Value} (hv : IsValue v) {entries : List (Value × Value)}
    (h : v.asMapping = .ok entries) : AreValues entries := by
  rw [Value.asMapping.eq_def] at h
  split at h
  · cases h
    cases hv with
    | dict hkeys hvalues =>
      intro entry hentry
      obtain ⟨w, hw⟩ := hkeys entry hentry
      exact ⟨hw ▸ .text w, hvalues entry hentry⟩
  · split at h
    · cases h
    · next items hitems =>
      obtain ⟨pairs, hpairs, h⟩ := Attempt.bind_eq_ok h
      cases h
      refine forall_mem_ofPairs fun pair hpair => ?_
      obtain ⟨⟨item, index⟩, hitem, hread⟩ := Attempt.mem_of_mapM hpairs pair hpair
      exact isValue_of_asPair (isValue_of_items? hv hitems item (List.fst_mem_of_mem_zipIdx hitem))
        hread

theorem isValue_of_lookup? {key : String} {entries : List (Value × Value)} {v : Value}
    (hentries : ∀ entry ∈ entries, IsValue entry.2) (h : Value.lookup? key entries = some v) :
    IsValue v := by
  rw [Value.lookup?, Option.map_eq_some_iff] at h
  obtain ⟨entry, hentry, rfl⟩ := h
  exact hentries entry (List.mem_of_find?_eq_some hentry)

theorem areValues_of_digestsField {key : String} {entries digests : List (Value × Value)}
    (hentries : ∀ entry ∈ entries, IsValue entry.2) (h : digestsField entries key = .ok digests) :
    AreValues digests := by
  rw [digestsField] at h
  split at h
  · cases h
    exact nofun
  · next v hv =>
    split at h
    · exact areValues_of_asMapping (isValue_of_lookup? hentries hv) (Attempt.mapError_eq_ok h)
    · cases h
      exact nofun

theorem isWritable_of_readLayout {v : Value} (hv : IsValue v) {n : Int}
    (h : readLayout v = .ok n) : Number.isWritable n = true := by
  cases hv with
  | bool b =>
    cases h
    cases b <;> rfl
  | int hi =>
    cases h
    exact hi
  | float x =>
    rw [readLayout] at h
    split at h
    · next htruncate =>
      cases h
      exact Number.isWritable_of_truncate? htruncate
    · cases h
  | text w =>
    cases w with
    | whole s =>
      rw [readLayout] at h
      split at h
      · next hinteger =>
        cases h
        exact Number.isWritable_of_integerOfText? hinteger
      · cases h
    | garbled codes => cases h
  | _ => cases h

/-- What a manifest was made of that was read: its records are JSON values, and its layout is not
too long to be written. -/
structure IsRead (m : Manifest) : Prop where
  sources : AreValues m.sources
  outputs : AreValues m.outputs
  layout : Number.isWritable m.layout = true

theorem isRead_of_ofValue {v : Value} (hv : IsValue v) {m : Manifest} (h : ofValue v = .ok m) :
    m.IsRead := by
  cases hv with
  | dict hkeys hvalues =>
    rw [ofValue] at h
    split at h
    · obtain ⟨sources, hsources, h⟩ := Attempt.bind_eq_ok h
      obtain ⟨outputs, houtputs, h⟩ := Attempt.bind_eq_ok h
      obtain ⟨layout, hlayout, h⟩ := Attempt.bind_eq_ok h
      cases h
      refine ⟨areValues_of_digestsField hvalues hsources,
        areValues_of_digestsField hvalues houtputs, isWritable_of_readLayout ?_ hlayout⟩
      cases hversion : Value.lookup? "version" _ with
      | none => exact .int rfl
      | some version => exact isValue_of_lookup? hvalues hversion
    · cases h
  | _ => cases h

/-- A number that has no integer part and is a number is infinite. -/
theorem infinite_of_truncate? {x : Number.Double} (h : x.truncate? = none)
    (hdefined : x.isUndefined = false) : x.reading = .infinite x.negative := by
  have hle : x.magnitude ≤ Number.Format.infinity .double :=
    Nat.not_lt.1 (of_decide_eq_false hdefined)
  rcases Nat.lt_or_eq_of_le hle with hfinite | hinfinite
  · obtain ⟨significand, power, hreading, -⟩ :=
      Number.Binary.reading_of_isFinite (x := x) (decide_eq_true hfinite)
    rw [Number.Binary.truncate?, hreading] at h
    cases h
  · exact Number.Binary.reading_of_eq_infinity hinfinite

theorem infinite_of_readLayout {v : Value} (h : readLayout v = .error .infiniteLayout) :
    ∃ x : Number.Double, v = .float x ∧ x.reading = .infinite x.negative := by
  rw [readLayout.eq_def] at h
  split at h
  · cases h
  · cases h
  · next x =>
    split at h
    · cases h
    · next htruncate =>
      split at h
      · cases h
      · next hundefined =>
        exact ⟨x, rfl, infinite_of_truncate? htruncate (Bool.eq_false_iff.2 hundefined)⟩
  · split at h <;> cases h
  · cases h
  · split at h <;> cases h
  · cases h

theorem digestsField_ne_infiniteLayout {key : String} {entries : List (Value × Value)} :
    digestsField entries key ≠ .error .infiniteLayout := by
  rw [digestsField]
  split
  · exact nofun
  · split
    · intro h
      obtain ⟨fault, -, hfault⟩ := Attempt.mapError_eq_error h
      cases hfault
    · exact nofun

/-- Only an infinite number is refused as an infinite layout. -/
theorem infinite_of_ofValue {v : Value} (h : ofValue v = .error .infiniteLayout) :
    ∃ entries, ∃ x : Number.Double, v = .dict entries ∧
      Value.lookup? "version" entries = some (.float x) ∧ x.reading = .infinite x.negative := by
  rw [ofValue.eq_def] at h
  split at h
  · next entries =>
    split at h
    · obtain h | ⟨sources, -, h⟩ := Attempt.bind_eq_error h
      · exact absurd h digestsField_ne_infiniteLayout
      obtain h | ⟨outputs, -, h⟩ := Attempt.bind_eq_error h
      · exact absurd h digestsField_ne_infiniteLayout
      obtain h | ⟨layout, -, h⟩ := Attempt.bind_eq_error h
      · obtain ⟨x, hx, hinfinite⟩ := infinite_of_readLayout h
        refine ⟨entries, x, rfl, ?_, hinfinite⟩
        cases hversion : Value.lookup? "version" entries with
        | none =>
          rw [hversion] at hx
          cases hx
        | some version =>
          rw [hversion] at hx
          exact congrArg some hx
      · cases h
    · cases h
  · cases h

/-! ## Manifests without a digest -/

/-- A digest is recorded under a name that is no text. -/
def HasUntypedName (m : Manifest) : Prop :=
  ∃ entry ∈ m.sources ++ m.outputs, ∀ w, entry.1 ≠ .text w

/-- Half of a character stands alone in what identifies the manifest. -/
def HasHalf (m : Manifest) : Prop :=
  ∃ codes, .text (.garbled codes) ∈ (Value.ofRecord m.identityFields).scalars

theorem exists_text {m : Manifest} (h : ¬ m.HasUntypedName) :
    ∀ entry ∈ m.sources ++ m.outputs, ∃ w, entry.1 = .text w := by
  intro entry hentry
  by_contra hnone
  exact h ⟨entry, hentry, fun w hw => hnone ⟨w, hw⟩⟩

theorem isWritable_entries {entries : List (Value × Value)} (h : AreValues entries) :
    (Value.dict entries).isWritable = true :=
  Value.isWritable_dict.2 fun entry hentry =>
    ⟨(isWritable_of_fault? _).1 (h entry hentry).1.fault?_eq_none,
      (isWritable_of_fault? _).1 (h entry hentry).2.fault?_eq_none⟩

section

variable {m : Manifest} (hread : m.IsRead)
include hread

theorem IsRead.isWritable : (Value.ofRecord m.identityFields).isWritable = true := by
  refine Value.isWritable_dict.2 ?_
  simp only [identityFields, Value.entriesOf, List.map_cons, List.map_nil, List.forall_mem_cons]
  exact ⟨⟨rfl, rfl⟩, ⟨rfl, rfl⟩, ⟨rfl, isWritable_entries hread.sources⟩,
    ⟨rfl, isWritable_entries hread.outputs⟩, ⟨rfl, rfl⟩,
    ⟨rfl, (Value.isWritable_int _).trans hread.layout⟩, List.forall_mem_nil _⟩

theorem IsRead.fault?_eq_none (h : ¬ m.HasUntypedName) :
    fault? (.ofRecord m.identityFields) = none := by
  obtain ⟨hsources, houtputs⟩ := List.forall_mem_append.1 (exists_text h)
  have hrecord {entries : List (Value × Value)} (hvalues : AreValues entries)
      (hnamed : ∀ entry ∈ entries, ∃ w, entry.1 = .text w) : fault? (.dict entries) = none :=
    fault?_dict fun entry hentry => ⟨hnamed entry hentry, (hvalues entry hentry).2.fault?_eq_none⟩
  rw [fault?_ofRecord, List.findSome?_eq_none_iff]
  intro field hfield
  have hall : ∀ field ∈ m.identityFields, fault? field.2 = none := by
    simp only [identityFields, List.forall_mem_cons]
    exact ⟨rfl, rfl, hrecord hread.sources hsources, hrecord hread.outputs houtputs, rfl,
      if_pos hread.layout, List.forall_mem_nil _⟩
  exact hall field (Table.mem_sorted.1 hfield)

/-- A manifest that was read has a digest unless a name is no text or half of a character stands
alone. -/
theorem IsRead.undigested {fault : WriteFault} (h : m.identity = .error fault) :
    fault = .notJson ∧ m.HasUntypedName ∨ fault = .unencodable ∧ m.HasHalf := by
  have hcanonical : canonical (.ofRecord m.identityFields) = .error fault :=
    ofEntries_eq_error.1 h
  rcases canonical_eq_error hcanonical with hfault | ⟨rfl, -, hwhole⟩
  · cases fault with
    | notJson =>
      refine .inl ⟨rfl, by_contra fun htyped => ?_⟩
      rw [hread.fault?_eq_none htyped] at hfault
      cases hfault
    | tooLong =>
      have hlong := (isWritable_of_fault? _).2 hfault
      rw [hread.isWritable] at hlong
      cases hlong
    | unencodable => exact absurd hfault (fault?_ne_unencodable _)
  · exact .inr ⟨rfl, Value.isWhole_eq_false_iff.1 hwhole⟩

end

theorem namedDigests?_isSome_iff {entries : List (Value × Value)} :
    (namedDigests? entries).isSome = true
      ↔ ∀ entry ∈ entries, ∃ name, entry.1 = .text (.whole name) := by
  induction entries with
  | nil => exact iff_of_true rfl nofun
  | cons entry entries ih =>
    rw [List.forall_mem_cons, ← ih, namedDigests?, namedDigests?, List.mapM_cons]
    constructor
    · intro h
      obtain ⟨named, hnamed⟩ := Option.isSome_iff_exists.1 h
      obtain ⟨first, hfirst, hnamed⟩ := Option.bind_eq_some_iff.1 hnamed
      obtain ⟨rest, hrest, -⟩ := Option.bind_eq_some_iff.1 hnamed
      split at hfirst
      · next name _ => exact ⟨⟨name, rfl⟩, Option.isSome_iff_exists.2 ⟨rest, hrest⟩⟩
      · cases hfirst
    · rintro ⟨⟨name, hname⟩, hrest⟩
      obtain ⟨rest, hrest⟩ := Option.isSome_iff_exists.1 hrest
      obtain ⟨k, digest⟩ := entry
      obtain rfl : k = .text (.whole name) := hname
      rw [hrest]
      rfl

/-- What has a digest names its files by texts, if by texts at all, without halves of characters. -/
theorem recorded?_isSome {m : Manifest} {digest : String} (h : m.identity = .ok digest)
    (htyped : ¬ m.HasUntypedName) : m.recorded?.isSome = true := by
  obtain ⟨text, htext, -⟩ := ofEntries_eq_ok.1 h
  have hwhole : (Value.ofRecord m.identityFields).isWhole = true := (canonical_eq_ok htext).2.1
  have hrecord (key : String) {entries : List (Value × Value)}
      (hmem : (key, .dict entries) ∈ m.identityFields)
      (hnamed : ∀ entry ∈ entries, ∃ w, entry.1 = .text w) :
      (namedDigests? entries).isSome = true := by
    have hentries := (Value.isWhole_dict.1 hwhole _ (List.mem_map_of_mem hmem)).2
    refine namedDigests?_isSome_iff.2 fun entry hentry => ?_
    obtain ⟨w, hw⟩ := hnamed entry hentry
    have hname := (Value.isWhole_dict.1 hentries entry hentry).1
    rw [hw] at hname ⊢
    cases w with
    | whole name => exact ⟨name, rfl⟩
    | garbled codes => cases hname
  obtain ⟨hsources, houtputs⟩ := List.forall_mem_append.1 (exists_text htyped)
  obtain ⟨sources, hsources⟩ := Option.isSome_iff_exists.1
    (hrecord "sources" (by simp [identityFields]) hsources)
  obtain ⟨outputs, houtputs⟩ := Option.isSome_iff_exists.1
    (hrecord "outputs" (by simp [identityFields]) houtputs)
  rw [recorded?, hsources, houtputs]
  rfl

end Manifest

/-! ## What is there -/

namespace Disk

/-- The text of the manifest of a directory. -/
def manifestText (d : Disk) (path : String) : Except ReadError String :=
  d.answer (Storage.readText (Path.join path Manifest.fileName))

/-- The text of a file in a directory, as it was written. -/
def textIn (d : Disk) (path name : String) : Except ReadError String :=
  d.answer (readExact (Path.join path name))

/-- The manifest of a directory is read. -/
def Records (d : Disk) (path : String) (m : Manifest) : Prop :=
  ∃ text, d.manifestText path = .ok text ∧
    Manifest.ofText (Path.join path Manifest.fileName) text = .ok m

/-- A name is listed in a directory. -/
def Lists (d : Disk) (path name : String) : Prop :=
  d.kindOf path = some .directory ∧ name ∈ d.namesAt (d.spot path)

/-- A file has a text to take the digest of, if it is there. -/
def Legible (d : Disk) (path name : String) : Prop :=
  d.Lists path name → ∃ text, d.textIn path name = .ok text

/-- A file is missing, or its text does not have the digest. -/
def Damaged (d : Disk) (path name : String) (digest : Value) : Prop :=
  ¬ d.Lists path name ∨ ∃ text, d.textIn path name = .ok text ∧
    Manifest.agrees text digest = false

theorem Records.isRead {d : Disk} {path : String} {m : Manifest} (h : d.Records path m) :
    m.IsRead := by
  obtain ⟨text, -, h⟩ := h
  rw [Manifest.ofText] at h
  split at h
  · cases h
  · next hvalue =>
    split at h
    · next hm =>
      cases h
      exact Manifest.isRead_of_ofValue (isValue_of_read hvalue) hm
    · cases h
    · cases h

/-- A directory with a manifest in it is listed. -/
theorem exists_listing {d : Disk} {path : String}
    (h : d.kindOf (Path.join path Manifest.fileName) ≠ none) :
    ∃ names, d.answer (sortedNames path : StorageT Run (List String)) = .ok names ∧
      ∀ name, name ∈ names ↔ d.Lists path name := by
  have hlisting : ∃ names,
      d.answer (sortedNames path : StorageT Run (List String)) = .ok names := by
    rw [answer_sortedNames]
    by_cases hpath : path = ""
    · subst hpath
      exact ⟨[], rfl⟩
    · rw [names_eq_ok_iff.2 ⟨kindOf_of_join hpath (by decide) h, rfl⟩]
      exact ⟨_, rfl⟩
  obtain ⟨names, hnames⟩ := hlisting
  exact ⟨names, hnames, fun name => mem_sortedNames hnames⟩

end Disk

namespace Manifest

/-- The manifest has the digest that it should have. -/
def IsSealed (m : Manifest) : Prop := ∃ digest, m.digest = .whole digest ∧ m.identity = .ok digest

theorem isSealed_iff {m : Manifest} {identity : String} (hidentity : m.identity = .ok identity) :
    m.IsSealed ↔ m.digest = .whole identity := by
  rw [IsSealed, hidentity]
  constructor
  · rintro ⟨digest, hdigest, heq⟩
    rw [hdigest, Except.ok.inj heq]
  · exact fun hdigest => ⟨identity, hdigest, rfl⟩

/-- What checking a directory comes to. -/
inductive Verdict (d : Disk) (path : String) : Except ArtifactFault (List String) → Prop
  | noManifest (h : d.kindOf (Path.join path fileName) = none) :
      Verdict d path (.error (.artifact (.noManifest path)))
  | unreadable {e : ReadError} (h : d.manifestText path = .error e) :
      Verdict d path (.error (.artifact (.badManifest (Path.join path fileName) (.unreadable e))))
  | badManifest {text : String} {problem : ManifestProblem} (hread : d.manifestText path = .ok text)
      (h : ofText (Path.join path fileName) text
        = .error (.artifact (.badManifest (Path.join path fileName) problem))) :
      Verdict d path (.error (.artifact (.badManifest (Path.join path fileName) problem)))
  /-- The layout is an infinite number. -/
  | infiniteLayout {text : String} {entries : List (Value × Value)} {x : Number.Double}
      (hread : d.manifestText path = .ok text) (hjson : Json.read text = .ok (.dict entries))
      (hlayout : Value.lookup? "version" entries = some (.float x))
      (hinfinite : x.reading = .infinite x.negative) : Verdict d path (.error .infiniteLayout)
  /-- The manifest cannot be written to take the digest of, as names that are no texts among its
  sources or its outputs cannot be put in order. -/
  | unwritten {m : Manifest} (hm : d.Records path m) (h : m.HasUntypedName) :
      Verdict d path (.error (.undigested .notJson))
  /-- All names together cannot be put in order, or not with the manifest's when its seal is
  wrong. -/
  | untypedNames {m : Manifest} (hm : d.Records path m) (h : m.HasUntypedName)
      (hmixed : ¬ m.IsSealed ∨ comparable m.recordedNames = false) :
      Verdict d path (.error .untypedNames)
  /-- All names are reported, and none is a text. -/
  | untypedReport {m : Manifest} (hm : d.Records path m) (hsealed : m.IsSealed)
      (h : ∀ name ∈ m.recordedNames, ∀ w, name ≠ .text w) :
      Verdict d path (.error (.untypedReport m.recordedNames))
  /-- The manifest has no bytes to take the digest of. -/
  | unencodable {m : Manifest} (hm : d.Records path m) (h : m.HasHalf) :
      Verdict d path (.error (.undigested .unencodable))
  /-- A recorded file is there and has no text, while those before it have one. -/
  | illegible {m : Manifest} {before after : Table String Value} {name : String} {digest : Value}
      {e : ReadError} (hm : d.Records path m)
      (hrecorded : m.recorded? = some (before ++ (name, digest) :: after))
      (hbefore : ∀ entry ∈ before, d.Legible path entry.1) (hlisted : d.Lists path name)
      (h : d.textIn path name = .error e) : Verdict d path (.error (.reading e))
  /-- Exactly the damaged files are reported, and the manifest if its seal is wrong. -/
  | report {m : Manifest} {recorded : Table String Value} {names : List String}
      (hm : d.Records path m) (hrecorded : m.recorded? = some recorded)
      (hlegible : ∀ entry ∈ recorded, d.Legible path entry.1)
      (hsorted : names.Pairwise (· ≤ ·))
      (hnames : ∀ name, name ∈ names ↔
        name = fileName ∧ ¬ m.IsSealed ∨
          ∃ digest, (name, digest) ∈ recorded ∧ d.Damaged path name digest) :
      Verdict d path (.ok names)

/-! ## Reading the manifest -/

theorem inquires_ofDirectory? (path : String) :
    Inquires (ofDirectory? path : ExceptT ArtifactFault Run (Option Manifest)) := by
  refine (inquires_present _).bind fun present => ?_
  split
  · exact inquires_pure none
  · exact ((inquires_readText _).adapt _).bind fun text =>
      (inquires_mk (ofText (Path.join path fileName) text)).bind fun m => inquires_pure (some m)

theorem answer_ofDirectory? (path : String) (d : Disk) :
    d.answer (ofDirectory? path : ExceptT ArtifactFault Run (Option Manifest))
      = match d.kindOf (Path.join path fileName) with
        | none => .ok none
        | some _ => match d.manifestText path with
          | .ok text => (ofText (Path.join path fileName) text).map some
          | .error e =>
            .error (.artifact (.badManifest (Path.join path fileName) (.unreadable e))) := by
  rw [ofDirectory?, answer_bind (inquires_present _), answer_present]
  cases hkind : d.kindOf (Path.join path fileName) with
  | none => rfl
  | some kind =>
    show d.answer ((Storage.readText (Path.join path fileName)).adapt _ >>= _) = _
    rw [answer_bind ((inquires_readText _).adapt _), answer_adapt, ← manifestText]
    cases d.manifestText path with
    | error e => rfl
    | ok text =>
      show d.answer (ExceptT.mk (pure (ofText (Path.join path fileName) text)) >>= _)
        = (ofText (Path.join path fileName) text).map some
      rw [answer_bind (inquires_mk _), answer_mk]
      cases ofText (Path.join path fileName) text <;> rfl

section

variable {d : Disk} {path : String}

theorem verdict_of_ofText {text : String} {e : ArtifactFault}
    (hread : d.manifestText path = .ok text)
    (h : ofText (Path.join path fileName) text = .error e) : Verdict d path (.error e) := by
  have hbad := h
  rw [ofText] at h
  split at h
  · cases h
    exact .badManifest hread hbad
  · next hjson =>
    split at h
    · cases h
    · next hlayout =>
      cases h
      obtain ⟨entries, x, rfl, hx, hinfinite⟩ := infinite_of_ofValue hlayout
      exact .infiniteLayout hread hjson hx hinfinite
    · cases h
      exact .badManifest hread hbad

theorem verdict_of_ofDirectory? {e : ArtifactFault}
    (h : d.answer (ofDirectory? path : ExceptT ArtifactFault Run (Option Manifest)) = .error e) :
    Verdict d path (.error e) := by
  rw [answer_ofDirectory?] at h
  split at h
  · cases h
  · split at h
    · next text hread =>
      cases hm : ofText (Path.join path fileName) text with
      | error cause =>
        rw [hm] at h
        cases h
        exact verdict_of_ofText hread hm
      | ok m =>
        rw [hm] at h
        cases h
    · next hread =>
      cases h
      exact .unreadable hread

theorem kindOf_of_ofDirectory?
    (h : d.answer (ofDirectory? path : ExceptT ArtifactFault Run (Option Manifest)) = .ok none) :
    d.kindOf (Path.join path fileName) = none := by
  rw [answer_ofDirectory?] at h
  split at h
  · assumption
  · split at h
    · next text _ =>
      cases hm : ofText (Path.join path fileName) text with
      | _ =>
        rw [hm] at h
        cases h
    · cases h

theorem records_of_ofDirectory? {m : Manifest}
    (h : d.answer (ofDirectory? path : ExceptT ArtifactFault Run (Option Manifest))
      = .ok (some m)) :
    d.kindOf (Path.join path fileName) ≠ none ∧ d.Records path m := by
  rw [answer_ofDirectory?] at h
  split at h
  · cases h
  · next hkind =>
    split at h
    · next text hread =>
      cases hm : ofText (Path.join path fileName) text with
      | error e =>
        rw [hm] at h
        cases h
      | ok found =>
        rw [hm] at h
        cases h
        exact ⟨by rw [hkind]; exact nofun, text, hread, hm⟩
    · cases h

end

/-! ## Comparing with what is there -/

theorem inquires_isDamaged (path : String) (present : List String) (entry : String × Value) :
    Inquires (isDamaged path present entry.1 entry.2 : ExceptT ArtifactFault Run Bool) := by
  rw [isDamaged]
  split
  · exact ((inquires_readExact _).adapt _).bind fun text => inquires_pure _
  · exact inquires_pure true

theorem answer_isDamaged (path : String) (present : List String) (name : String) (digest : Value)
    (d : Disk) : d.answer (isDamaged path present name digest : ExceptT ArtifactFault Run Bool)
      = if name ∈ present then match d.textIn path name with
          | .ok text => .ok !agrees text digest
          | .error e => .error (.reading e)
        else .ok true := by
  rw [isDamaged]
  by_cases hpresent : name ∈ present
  · rw [if_pos (List.contains_iff_mem.2 hpresent), if_pos hpresent,
      answer_bind ((inquires_readExact _).adapt _), answer_adapt, ← textIn]
    cases d.textIn path name <;> rfl
  · rw [if_neg fun h => hpresent (List.contains_iff_mem.1 h), if_neg hpresent]
    rfl

section

variable {d : Disk} {path : String} {present : List String}
  (hpresent : ∀ name, name ∈ present ↔ d.Lists path name) {name : String} {digest : Value}
include hpresent

theorem legible_of_isDamaged {damaged : Bool}
    (h : d.answer (isDamaged path present name digest : ExceptT ArtifactFault Run Bool)
      = .ok damaged) : d.Legible path name := by
  intro hlisted
  rw [answer_isDamaged, if_pos ((hpresent name).2 hlisted)] at h
  split at h
  · next text htext => exact ⟨text, htext⟩
  · cases h

theorem isDamaged_eq_true_iff :
    d.answer (isDamaged path present name digest : ExceptT ArtifactFault Run Bool) = .ok true ↔
      d.Damaged path name digest := by
  rw [answer_isDamaged, Disk.Damaged, ← hpresent]
  by_cases hlisted : name ∈ present
  · rw [if_pos hlisted, or_iff_right (not_not_intro hlisted)]
    cases d.textIn path name with
    | error e => exact ⟨nofun, nofun⟩
    | ok text => simp
  · rw [if_neg hlisted]
    exact iff_of_true rfl (.inl hlisted)

theorem illegible_of_isDamaged {e : ArtifactFault}
    (h : d.answer (isDamaged path present name digest : ExceptT ArtifactFault Run Bool)
      = .error e) :
    d.Lists path name ∧ ∃ cause, e = .reading cause ∧ d.textIn path name = .error cause := by
  rw [answer_isDamaged] at h
  split at h
  · next hlisted =>
    split at h
    · cases h
    · next cause hcause =>
      cases h
      exact ⟨(hpresent name).1 hlisted, cause, rfl, hcause⟩
  · cases h

/-- The recorded files are looked at one after another. -/
theorem verdict_of_filterM {m : Manifest} (hm : d.Records path m) {recorded : Table String Value}
    (hrecorded : m.recorded? = some recorded) {identity : String}
    (hidentity : m.identity = .ok identity) :
    Verdict d path (do
      let damaged ← recorded.filterM fun entry => d.answer (isDamaged path present entry.1 entry.2)
      return ((if m.digest == .whole identity then [] else [fileName])
        ++ Table.keys damaged).mergeSort textAtMost) := by
  cases hfound : recorded.filterM fun entry =>
      d.answer (isDamaged path present entry.1 entry.2 : ExceptT ArtifactFault Run Bool) with
  | error e =>
    obtain ⟨before, ⟨name, digest⟩, after, rfl, hbefore, he⟩ := Attempt.filterM_eq_error hfound
    obtain ⟨hlisted, cause, rfl, hcause⟩ := illegible_of_isDamaged hpresent he
    refine .illegible hm hrecorded (fun entry hentry => ?_) hlisted hcause
    obtain ⟨damaged, hdamaged⟩ := hbefore entry hentry
    exact legible_of_isDamaged hpresent hdamaged
  | ok damaged =>
    obtain ⟨hanswers, hdamaged⟩ := Attempt.filterM_eq_ok hfound
    have hsealed := isSealed_iff hidentity
    have hunsealed (name : String) :
        name ∈ (if m.digest == .whole identity then [] else [fileName]) ↔
          name = fileName ∧ ¬ m.IsSealed := by
      rw [hsealed]
      split
      · next heq => exact iff_of_false List.not_mem_nil fun h => h.2 (beq_iff_eq.1 heq)
      · next hne =>
        rw [List.mem_singleton]
        exact ⟨fun h => ⟨h, fun heq => hne (beq_iff_eq.2 heq)⟩, And.left⟩
    refine .report hm hrecorded (fun entry hentry => ?_) (pairwise_mergeSort_texts _) fun name => ?_
    · obtain ⟨kept, hkept⟩ := hanswers entry hentry
      exact legible_of_isDamaged hpresent hkept
    · rw [List.mem_mergeSort, List.mem_append, hunsealed]
      refine or_congr_right ⟨fun hname => ?_, fun ⟨digest, hentry, hgone⟩ => ?_⟩
      · obtain ⟨⟨_, digest⟩, hentry, rfl⟩ := List.mem_map.1 hname
        obtain ⟨hrecord, hgone⟩ := (hdamaged _).1 hentry
        exact ⟨digest, hrecord, (isDamaged_eq_true_iff hpresent).1 hgone⟩
      · exact List.mem_map.2 ⟨(name, digest),
          (hdamaged _).2 ⟨hentry, (isDamaged_eq_true_iff hpresent).2 hgone⟩, rfl⟩

end

/-- Of names that can be put in order, with one that is no text, none is a text. -/
theorem not_text_of_comparable {m : Manifest} (huntyped : m.HasUntypedName)
    (hcomparable : comparable m.recordedNames = true) :
    ∀ name ∈ m.recordedNames, ∀ w, name ≠ .text w := by
  obtain ⟨entry, hentry, hentryText⟩ := huntyped
  obtain ⟨found, hfound, hsame⟩ := exists_mem_ofPairs entry hentry
  have hname : found.1 ∈ m.recordedNames :=
    List.mem_map_of_mem (List.mem_mergeSort.2 hfound)
  have hfoundText : ∀ w, found.1 ≠ .text w := not_text_of_sameKey hsame hentryText
  rw [comparable, Bool.or_eq_true, Bool.or_eq_true, decide_eq_true_eq, List.all_eq_true,
    List.all_eq_true] at hcomparable
  intro name hmem w hw
  rcases hcomparable with (hone | htexts) | hnumbers
  · obtain ⟨only, honly⟩ := List.length_eq_one_iff.1
      (Nat.le_antisymm hone (List.length_pos_of_mem hname))
    rw [honly, List.mem_singleton] at hname hmem
    exact hfoundText w (hname.trans (hmem.symm.trans hw))
  · have htext := htexts found.1 hname
    split at htext
    · next w' hw' => exact hfoundText w' hw'
    · cases htext
  · have hnumber := hnumbers name hmem
    rw [hw] at hnumber
    cases hnumber

theorem verdict_untyped {d : Disk} {path : String} {m : Manifest} (hm : d.Records path m)
    {identity : String} (hidentity : m.identity = .ok identity) (huntyped : m.HasUntypedName) :
    Verdict d path (.error (m.untyped identity)) := by
  rw [untyped]
  split
  · next hboth =>
    obtain ⟨hdigest, hcomparable⟩ := Bool.and_eq_true_iff.1 hboth
    exact .untypedReport hm ((isSealed_iff hidentity).2 (beq_iff_eq.1 hdigest))
      (not_text_of_comparable huntyped hcomparable)
  · next hnot =>
    refine .untypedNames hm huntyped ?_
    rw [isSealed_iff hidentity, ← beq_iff_eq, Bool.not_eq_true, ← Bool.and_eq_false_iff]
    exact Bool.not_eq_true _ ▸ hnot

/-! ## The whole check -/

theorem inquires_verify (path : String) :
    Inquires (verify path : ExceptT ArtifactFault Run (List String)) := by
  refine (inquires_ofDirectory? path).bind fun m => ?_
  cases m with
  | none => exact inquires_throw _
  | some m =>
    refine ((inquires_sortedNames path).adapt _).bind fun present =>
      (inquires_mk _).bind fun identity => ?_
    split
    · exact (inquires_filterM (inquires_isDamaged path present) _).bind fun _ => inquires_pure _
    · exact inquires_throw _

theorem answer_verify (path : String) (d : Disk) :
    d.answer (verify path : ExceptT ArtifactFault Run (List String)) = (do
      let some m ← d.answer (ofDirectory? path) | .error (.artifact (.noManifest path))
      let present ← (d.answer (sortedNames path)).mapError fun e => .reading (.storage e)
      let identity ← m.identity.mapError .undigested
      let some recorded := m.recorded? | .error (m.untyped identity)
      let damaged ← recorded.filterM fun entry => d.answer (isDamaged path present entry.1 entry.2)
      return ((if m.digest == .whole identity then [] else [fileName])
        ++ Table.keys damaged).mergeSort textAtMost) := by
  rw [verify, answer_bind (inquires_ofDirectory? path)]
  refine congrArg _ (funext fun found => ?_)
  cases found with
  | none => rfl
  | some m =>
    show d.answer ((sortedNames path).adapt _ >>= _) = _
    rw [answer_bind ((inquires_sortedNames path).adapt _), answer_adapt]
    refine congrArg _ (funext fun present => ?_)
    rw [answer_bind (inquires_mk _), answer_mk]
    refine congrArg _ (funext fun identity => ?_)
    cases m.recorded? with
    | none => rfl
    | some recorded =>
      show d.answer (recorded.filterM (fun entry => isDamaged path present entry.1 entry.2) >>= _)
        = _
      rw [answer_bind (inquires_filterM (inquires_isDamaged path present) recorded),
        answer_filterM (inquires_isDamaged path present)]
      rfl

theorem verdict_answer_verify (path : String) (d : Disk) :
    Verdict d path (d.answer (verify path)) := by
  rw [answer_verify]
  cases hread : d.answer (ofDirectory? path : ExceptT ArtifactFault Run (Option Manifest)) with
  | error e => exact verdict_of_ofDirectory? hread
  | ok found =>
    cases found with
    | none => exact .noManifest (kindOf_of_ofDirectory? hread)
    | some m =>
      obtain ⟨hkind, hm⟩ := records_of_ofDirectory? hread
      obtain ⟨present, hlisting, hpresent⟩ := exists_listing hkind
      rw [hlisting]
      show Verdict d path (m.identity.mapError .undigested >>= fun identity =>
        match m.recorded? with
        | some recorded => _
        | _ => .error (m.untyped identity))
      cases hidentity : m.identity with
      | error fault =>
        rcases hm.isRead.undigested hidentity with ⟨rfl, huntyped⟩ | ⟨rfl, hhalf⟩
        · exact .unwritten hm huntyped
        · exact .unencodable hm hhalf
      | ok identity =>
        show Verdict d path (match m.recorded? with
          | some recorded => _
          | _ => .error (m.untyped identity))
        cases hrecorded : m.recorded? with
        | none =>
          refine verdict_untyped hm hidentity (by_contra fun htyped => ?_)
          have hsome := recorded?_isSome hidentity htyped
          rw [hrecorded] at hsome
          cases hsome
        | some recorded => exact verdict_of_filterM hpresent hm hrecorded hidentity

/-- Whatever a directory holds, checking it leaves the disk as it is and comes to one of
the verdicts. -/
theorem verify_verdict (path : String) (d : Disk) :
    ∃ found, (verify path : ExceptT ArtifactFault Run (List String)).run d = (found, d) ∧
      Verdict d path found :=
  ⟨_, (inquires_verify path).run_eq d, verdict_answer_verify path d⟩

/-! ## A file that is no text -/

/-- A disk with a manifest that records one file, and the file, which is a byte that begins no
character. -/
def garbled : Disk :=
  { Disk.empty [] with
    nodes := [(["d"], .directory),
      (["d", "manifest.json"], .file
        "\x7b\"libcamera_version\": \"1.0.0\", \"sources\": \x7b\"a.yaml\": \"\"\x7d\x7d".toUTF8),
      (["d", "a.yaml"], .file ⟨#[0xff]⟩)] }

theorem exists_garbledManifest : ∃ m identity digest,
    garbled.answer (ofDirectory? "d" : ExceptT ArtifactFault Run (Option Manifest)) = .ok (some m) ∧
      m.identity = .ok identity ∧ m.recorded? = some [("a.yaml", digest)] := by
  have hread : (garbled.answer (ofDirectory? "d" :
      ExceptT ArtifactFault Run (Option Manifest))).toOption.any (fun found => found.any fun m =>
        (Value.ofRecord m.identityFields).isWhole && (namedDigests? m.sources).isSome
          && (namedDigests? m.outputs).isSome && m.recorded?.map Table.keys == some ["a.yaml"])
      = true := by
    decide +kernel
  rcases hfound : garbled.answer (ofDirectory? "d" :
      ExceptT ArtifactFault Run (Option Manifest)) with e | found
  · rw [hfound] at hread
    cases hread
  · rw [hfound] at hread
    cases found with
    | none => cases hread
    | some m =>
      have hall : ((Value.ofRecord m.identityFields).isWhole && (namedDigests? m.sources).isSome
          && (namedDigests? m.outputs).isSome && m.recorded?.map Table.keys == some ["a.yaml"])
          = true := hread
      simp only [Bool.and_eq_true, beq_iff_eq] at hall
      obtain ⟨⟨⟨hwhole, hsources⟩, houtputs⟩, hrecorded⟩ := hall
      have hnamed := List.forall_mem_append.2
        ⟨namedDigests?_isSome_iff.1 hsources, namedDigests?_isSome_iff.1 houtputs⟩
      obtain ⟨recorded, hrecorded, hkeys⟩ := Option.map_eq_some_iff.1 hrecorded
      obtain ⟨⟨name, digest⟩, rfl, rfl⟩ := List.map_eq_singleton_iff.1 hkeys
      cases hidentity : m.identity with
      | ok identity => exact ⟨m, identity, digest, rfl, hidentity, hrecorded⟩
      | error fault =>
        have hm := (records_of_ofDirectory? hfound).2
        rcases hm.isRead.undigested hidentity with ⟨-, entry, hentry, huntyped⟩ | ⟨-, hhalf⟩
        · obtain ⟨name, hname⟩ := hnamed entry hentry
          exact absurd hname (huntyped _)
        · rw [Value.isWhole_eq_false_iff.2 hhalf] at hwhole
          cases hwhole

/-- The recorded file is there with other content, and nothing is reported about it. -/
theorem verify_garbled : ∃ e, (verify "d" : ExceptT ArtifactFault Run (List String)).run garbled
    = (.error (.reading e), garbled) := by
  obtain ⟨m, identity, digest, hread, hidentity, hrecorded⟩ := exists_garbledManifest
  obtain ⟨present, hlisting, hpresent⟩ :=
    @exists_listing garbled "d" (by decide +kernel)
  have hlisted : "a.yaml" ∈ present := (hpresent _).2 ⟨by decide +kernel, by decide +kernel⟩
  have htext : (garbled.textIn "d" "a.yaml").toOption.isNone = true := by decide +kernel
  rcases herror : garbled.textIn "d" "a.yaml" with e | text
  · have hdamaged : garbled.answer (isDamaged "d" present "a.yaml" digest :
        ExceptT ArtifactFault Run Bool) = .error (.reading e) := by
      rw [answer_isDamaged, if_pos hlisted, herror]
    refine ⟨e, ?_⟩
    rw [(inquires_verify "d").run_eq, answer_verify, hread, hlisting]
    simp only [bind, Except.bind, Except.mapError, hidentity, hrecorded, List.filterM,
      List.filterAuxM, hdamaged]
  · rw [herror] at htext
    cases htext

end Manifest

end ControlSchema
