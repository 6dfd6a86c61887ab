import ControlSchema.Proofs.Artifact.Manifest
import ControlSchema.Proofs.Artifact.Storing

/-!
# Checking what was written

The manifest of a snapshot records the digests of all other files as they were
written, and its seal is right, so checking the directory reports the recorded files
that are missing or have another digest, and nothing else. That another digest means
another text is an assumption about digests, not about the directory.
-/

namespace ControlSchema

open Disk Storage
open Json (Value)

namespace Manifest

/-! ## Checking a directory -/

/-- Whether a recorded file is missing in a directory or has another digest. -/
def damagedAt (d : Disk) (place : Trail) (entry : String × Value) : Bool :=
  match d.node? (place ++ [entry.1]) with
  | some (.file content) =>
    match Text.ofBytes content with
    | .ok text => !agrees text entry.2
    | .error _ => true
  | _ => true

theorem namedDigests?_entriesOf (fields : Table String Value) :
    namedDigests? (Value.entriesOf fields) = some fields := by
  induction fields with
  | nil => rfl
  | cons field fields ih =>
    rw [namedDigests?, Value.entriesOf] at ih ⊢
    rw [List.map_cons, List.mapM_cons, ih]
    rfl

section

variable {m : Manifest} {sources outputs : Table String Value} {d : Disk} {path : String}
  {place : Trail}

theorem recorded?_eq (hsources : IsRecord m.sources sources)
    (houtputs : IsRecord m.outputs outputs) :
    m.recorded? = some (Table.merge sources outputs).sorted := by
  rw [recorded?, hsources.eq, houtputs.eq, namedDigests?_entriesOf, namedDigests?_entriesOf]
  rfl

variable (hplace : d.place path = .ok place) (hdirectory : d.node? place = some .directory)
include hplace hdirectory

/-- The manifest in a directory is read. -/
theorem ofDirectory?_run (hm : m.IsWritten sources outputs)
    (hmanifest : d.node? (place ++ [fileName]) = some (.file m.text.toUTF8)) :
    (ofDirectory? path : ExceptT ArtifactFault Disk.Run (Option Manifest)).run d
      = (.ok (some m), d) := by
  have hfile : d.place (Path.join path fileName) = .ok (place ++ [fileName]) :=
    Disk.place_join hplace hdirectory (by decide) (by decide)
  obtain ⟨htext, hunbroken⟩ := ofText_text hm (Path.join path fileName)
  have hpresent : (ExceptT.lift (present (Path.join path fileName)) :
      ExceptT ArtifactFault Disk.Run Bool).run d = (.ok true, d) := by
    rw [run_lift, present_eq, kindOf, hfile]
    simp only [kindAt?, hmanifest]
    rfl
  have hread : ((Storage.readText (Path.join path fileName)).adapt fun e =>
      .artifact (.badManifest (Path.join path fileName) (.unreadable e)) :
      ExceptT ArtifactFault Disk.Run String).run d = (.ok m.text, d) := by
    rw [run_adapt, readText_run hfile hmanifest, Text.unifyBreaks_of_not_mem hunbroken]
    rfl
  refine (run_bind_of_ok hpresent).trans <| (run_bind_of_ok hread).trans ?_
  rw [htext]
  rfl

/-- A recorded file is compared with the text that is there. -/
theorem isDamaged_run {name : String} {digest : Value} (hname : IsName name)
    (hshort : name.utf8ByteSize ≤ nameLimit)
    (htext : d.node? (place ++ [name]) = none ∨
      ∃ text : String, d.node? (place ++ [name]) = some (.file text.toUTF8)) :
    (isDamaged path ((d.namesAt place).mergeSort textAtMost) name digest :
        ExceptT ArtifactFault Disk.Run Bool).run d
      = (.ok (damagedAt d place (name, digest)), d) := by
  have hpresent : ((d.namesAt place).mergeSort textAtMost).contains name = true ↔
      d.node? (place ++ [name]) ≠ none := by
    rw [List.contains_iff_mem, List.mem_mergeSort, mem_namesAt]
  rw [isDamaged]
  rcases htext with hnone | ⟨text, hfile⟩
  · rw [if_neg fun h => hpresent.1 h hnone, damagedAt, hnone]
    rfl
  · have hread : ((readExact (Path.join path name)).adapt .reading :
        ExceptT ArtifactFault Disk.Run String).run d = (.ok text, d) := by
      rw [run_adapt, readExact_run (Disk.place_join hplace hdirectory hname hshort) hfile]
      rfl
    rw [if_pos (hpresent.2 (by rw [hfile]; exact nofun)), run_bind_of_ok hread, damagedAt, hfile]
    simp only [Text.ofBytes_toUTF8]
    rfl

/-- What is reported about a directory with a sealed manifest. -/
theorem verify_run (hm : m.IsWritten sources outputs) {identity : String}
    (hdigest : m.digest = .whole identity) (hidentity : m.identity = .ok identity)
    (hmanifest : d.node? (place ++ [fileName]) = some (.file m.text.toUTF8))
    (hnames : ∀ name ∈ (Table.merge sources outputs).keys,
      IsName name ∧ name.utf8ByteSize ≤ nameLimit)
    (htexts : ∀ name ∈ (Table.merge sources outputs).keys, d.node? (place ++ [name]) = none ∨
      ∃ text : String, d.node? (place ++ [name]) = some (.file text.toUTF8)) :
    (verify path : ExceptT ArtifactFault Disk.Run (List String)).run d
      = (.ok (((Table.merge sources outputs).sorted.filter (damagedAt d place)).map Prod.fst),
        d) := by
  have hdamaged : ∀ entry ∈ (Table.merge sources outputs).sorted,
      (isDamaged path ((d.namesAt place).mergeSort textAtMost) entry.1 entry.2 :
        ExceptT ArtifactFault Disk.Run Bool).run d = (.ok (damagedAt d place entry), d) := by
    intro entry hentry
    have hkey : entry.1 ∈ (Table.merge sources outputs).keys :=
      List.mem_map.2 ⟨entry, Table.mem_sorted.1 hentry, rfl⟩
    exact isDamaged_run hplace hdirectory (hnames entry.1 hkey).1 (hnames entry.1 hkey).2
      (htexts entry.1 hkey)
  have hlist : ((sortedNames path).adapt fun e => .reading (.storage e) :
      ExceptT ArtifactFault Disk.Run (List String)).run d
        = (.ok ((d.namesAt place).mergeSort textAtMost), d) := by
    rw [run_adapt, sortedNames_run hplace hdirectory]
    rfl
  have hsorted : (((Table.merge sources outputs).sorted.filter (damagedAt d place)).map
      Prod.fst).Pairwise (· ≤ ·) :=
    (Table.pairwise_keys_sorted _).sublist (List.filter_sublist.map Prod.fst)
  have hresult := List.mergeSort_of_pairwise (hsorted.imp textAtMost_iff.2)
  have hsealed : (ExceptT.mk (pure (m.identity.mapError .undigested)) :
      ExceptT ArtifactFault Disk.Run String).run d = (.ok identity, d) := by
    rw [hidentity]
    rfl
  refine (run_bind_of_ok (ofDirectory?_run hplace hdirectory hm hmanifest)).trans <|
    (run_bind_of_ok hlist).trans <| (run_bind_of_ok hsealed).trans ?_
  rw [recorded?_eq hm.sources hm.outputs]
  refine (run_bind_of_ok (filterM_of_ok hdamaged)).trans ?_
  show (Except.ok (((if m.digest == Json.Words.whole identity then [] else [fileName])
    ++ Table.keys _).mergeSort textAtMost), d) = _
  rw [hdigest, if_pos (beq_self_eq_true _), List.nil_append, Table.keys, hresult]

end

/-- A recorded file is damaged when its text is not the one that was recorded, if their
digests tell them apart. -/
theorem damagedAt_iff {d : Disk} {place : Trail} {name text : String}
    (htext : d.node? (place ++ [name]) = none ∨
      ∃ text : String, d.node? (place ++ [name]) = some (.file text.toUTF8))
    (hdigest : ∀ text' : String, d.node? (place ++ [name]) = some (.file text'.toUTF8) →
      Digest.ofText text' = Digest.ofText text → text' = text) :
    damagedAt d place (name, .text (.whole (Digest.ofText text))) = true ↔
      d.node? (place ++ [name]) ≠ some (.file text.toUTF8) := by
  rcases htext with hnone | ⟨text', hfile⟩
  · rw [damagedAt, hnone]
    exact ⟨fun _ => nofun, fun _ => rfl⟩
  · rw [damagedAt, hfile]
    simp only [Text.ofBytes_toUTF8, agrees, Bool.not_eq_true', beq_eq_false_iff_ne]
    constructor
    · intro hne heq
      have hsame := Text.eq_of_toUTF8 (Node.file.inj (Option.some.inj heq))
      exact hne (congrArg (fun text => Json.Words.whole (Digest.ofText text)) hsame.symm)
    · intro hne heq
      rw [hdigest text' hfile (Json.Words.whole.inj heq).symm] at hne
      exact hne rfl

end Manifest

/-- A directory in which anything may have been changed but the manifest, as long as a
file of the given names that is still there is a text. -/
structure Disk.Edited (d d' : Disk) (place : Trail) (names : List String) : Prop where
  directory : d'.node? place = some .directory
  manifest : d'.node? (place ++ [Manifest.fileName]) = d.node? (place ++ [Manifest.fileName])
  texts : ∀ name ∈ names, d'.node? (place ++ [name]) = none ∨
    ∃ text : String, d'.node? (place ++ [name]) = some (.file text.toUTF8)

/-! ## A directory of which a file is taken away -/

namespace Disk.Holds

variable {d : Disk} {place : Trail} {files : Table String String} (hholds : d.Holds place files)
include hholds

theorem node?_clear (gone name : String) : (d.clear (place ++ [gone])).node? (place ++ [name])
    = if name = gone then none else (files.get? name).map fun text => .file text.toUTF8 := by
  rw [hholds.sound.node?_clear, ← hholds.nodes]
  refine if_congr ⟨fun hgone => ?_, ?_⟩ rfl rfl
  · by_contra hne
    exact not_prefix_of_ne (Ne.symm hne) hgone.2
  · rintro rfl
    exact ⟨concat_ne_nil _ _, List.prefix_rfl⟩

theorem edited_clear (gone : String) (hgone : Manifest.fileName ≠ gone) :
    d.Edited (d.clear (place ++ [gone])) place files.keys where
  directory := by
    rw [hholds.sound.node?_clear, if_neg, hholds.directory]
    rintro ⟨-, hbelow⟩
    have hlength := hbelow.length_le
    simp at hlength
  manifest := by rw [hholds.node?_clear, if_neg hgone, hholds.nodes]
  texts := by
    intro name _
    rw [hholds.node?_clear]
    split
    · exact .inl rfl
    · cases files.get? name with
      | none => exact .inl rfl
      | some text => exact .inr ⟨text, rfl⟩

/-- What is left has the texts that were written. -/
theorem eq_of_clear (gone : String) {name text text' : String} (htext : files.get? name = some text)
    (hfile : (d.clear (place ++ [gone])).node? (place ++ [name]) = some (.file text'.toUTF8)) :
    text' = text := by
  rw [hholds.node?_clear, htext] at hfile
  split at hfile
  · cases hfile
  · exact (Text.eq_of_toUTF8 (Node.file.inj (Option.some.inj hfile))).symm

end Disk.Holds

namespace Release

/-! ## Checking a snapshot -/

section

variable {r : Release} {s : Snapshot} {createdAt : String} {files outputs : Table String String}

/-- The manifest records the digests of all other files. -/
theorem get?_recorded (hr : r.Collected) (houtputs : s.outputs = .ok outputs) (text name : String) :
    Table.get? (Table.merge (Manifest.digestFields r.allDocuments).sorted
        (Manifest.digestFields outputs).sorted) name
      = if name = Manifest.fileName then none
        else (Table.get? (Table.put (Table.merge r.allDocuments outputs) Manifest.fileName text)
          name).map fun text => .text (.whole (Digest.ofText text)) := by
  have hkeys := Snapshot.keys_outputs houtputs
  have hdocuments := nodup_keys_allDocuments hr
  have hnodup : outputs.keys.Nodup := by
    rw [hkeys]
    decide
  have hdigests {table : Table String String} (h : table.keys.Nodup) :
      (Manifest.digestFields table).sorted.get? name
        = (table.get? name).map fun text => .text (.whole (Digest.ofText text)) := by
    rw [Table.get?_sorted (by rwa [Manifest.keys_digestFields]), Manifest.get?_digestFields]
  have hmerged : Table.get? (Table.merge (Manifest.digestFields r.allDocuments).sorted
      (Manifest.digestFields outputs).sorted) name
        = (Table.get? (Table.merge r.allDocuments outputs) name).map fun text =>
          .text (.whole (Digest.ofText text)) := by
    rw [Table.get?_merge, Table.get?_merge, Table.get?_reverse hnodup, Table.get?_reverse
      (Table.nodup_keys_sorted (by rwa [Manifest.keys_digestFields])), hdigests hnodup,
      hdigests hdocuments, Option.map_or]
  rw [hmerged, Table.get?_put]
  by_cases hname : name = Manifest.fileName
  · rw [if_pos hname, Option.map_eq_none_iff]
    refine Table.get?_eq_none_of_not_mem fun hmem => ?_
    rcases Table.mem_keys_merge.1 hmem with hmem | hmem
    · obtain ⟨category, hdocument⟩ := mem_keys_allDocuments.1 hmem
      exact Category.ne_manifest (hr.names category name hdocument) hname
    · have houtput : name ∈ outputs.keys := hmem
      rw [hkeys, hname] at houtput
      exact absurd houtput (by decide)
  · rw [if_neg hname, if_neg fun heq => hname (beq_iff_eq.1 heq)]

/-- The manifest of a snapshot before it is sealed. -/
theorem isWritten_manifest (hr : r.Collected) (houtputs : s.outputs = .ok outputs)
    (createdAt : String) : Manifest.IsWritten (r.unsealed s outputs createdAt)
      (Manifest.digestFields r.allDocuments).sorted (Manifest.digestFields outputs).sorted := by
  refine ⟨Manifest.isRecord_digestsOf (nodup_keys_allDocuments hr), Manifest.isRecord_digestsOf ?_,
    ?_, Nat.one_lt_pow (by decide) (by decide)⟩
  · rw [Snapshot.keys_outputs houtputs]
    decide
  · simp only [List.forall_mem_cons]
    exact ⟨⟨_, rfl⟩, ⟨_, rfl⟩, ⟨_, rfl⟩, ⟨_, rfl⟩, ⟨_, rfl⟩, List.forall_mem_nil _⟩

/-- What is reported about the directory of a snapshot are the files that are missing or
have another text. -/
theorem verify_of_holds (hr : r.Collected) (hrender : r.render s createdAt = .ok files)
    {d d' : Disk} {place : Trail} (hholds : d.Holds place files)
    (hedited : d.Edited d' place files.keys) {path : String} (hplace : d'.place path = .ok place)
    (hdigests : ∀ name text text', files.get? name = some text →
      d'.node? (place ++ [name]) = some (.file text'.toUTF8) →
      Digest.ofText text' = Digest.ofText text → text' = text) :
    ∃ found, (Manifest.verify path : ExceptT ArtifactFault Disk.Run (List String)).run d'
        = (.ok found, d') ∧
      found.Pairwise (· ≤ ·) ∧ found.Nodup ∧
      ∀ name, name ∈ found ↔ name ≠ Manifest.fileName ∧ ∃ text, files.get? name = some text ∧
        d'.node? (place ++ [name]) ≠ some (.file text.toUTF8) := by
  obtain ⟨outputs, houtputs, rfl⟩ := render_eq_ok hrender
  have hkeys := Snapshot.keys_outputs houtputs
  have hrecorded := get?_recorded hr houtputs (r.manifest s outputs createdAt).text
  have hwritten := Manifest.IsWritten.sealed (isWritten_manifest hr houtputs createdAt)
  obtain ⟨identity, hdigest, hidentity⟩ :=
    Manifest.exists_identity_sealed (isWritten_manifest hr houtputs createdAt)
  have hmanifest : d'.node? (place ++ [Manifest.fileName])
      = some (.file (r.manifest s outputs createdAt).text.toUTF8) := by
    rw [hedited.manifest]
    exact hholds.node?_of_get? (by rw [Table.get?_put, if_pos (beq_self_eq_true _)])
  have hkey {name : String} (hname : name ∈ (Table.merge
      (Manifest.digestFields r.allDocuments).sorted (Manifest.digestFields outputs).sorted).keys) :
      name ∈ Table.keys (Table.put (Table.merge r.allDocuments outputs) Manifest.fileName
        (r.manifest s outputs createdAt).text) := by
    rw [← Table.get?_ne_none_iff, hrecorded] at hname
    split at hname
    · exact absurd rfl hname
    · rw [ne_eq, Option.map_eq_none_iff] at hname
      exact Table.get?_ne_none_iff.1 hname
  have hrun := Manifest.verify_run hplace hedited.directory hwritten hdigest hidentity
    hmanifest (fun name hname => ⟨hholds.isName (hkey hname), hholds.short name (hkey hname)⟩)
    fun name hname => hedited.texts name (hkey hname)
  have hmerged : (Table.merge (Manifest.digestFields r.allDocuments).sorted
      (Manifest.digestFields outputs).sorted).keys.Nodup :=
    Table.nodup_keys_merge hwritten.sources.nodup _
  refine ⟨_, hrun, (Table.pairwise_keys_sorted _).sublist (List.filter_sublist.map Prod.fst),
    (Table.nodup_keys_sorted hmerged).sublist (List.filter_sublist.map Prod.fst), fun name => ?_⟩
  rw [List.mem_map]
  constructor
  · rintro ⟨⟨_, digest⟩, hmem, rfl⟩
    obtain ⟨hentry, hdamaged⟩ := List.mem_filter.1 hmem
    have hget := Table.get?_of_mem hmerged (Table.mem_sorted.1 hentry)
    rw [hrecorded] at hget
    split at hget
    · cases hget
    · rename_i hname
      obtain ⟨text, htext, rfl⟩ := Option.map_eq_some_iff.1 hget
      have hfile := Table.get?_ne_none_iff.1 (by rw [htext]; exact nofun)
      exact ⟨hname, text, htext, (Manifest.damagedAt_iff (hedited.texts _ hfile)
        fun text' => hdigests _ text text' htext).1 hdamaged⟩
  · rintro ⟨hname, text, htext, hne⟩
    have hget := hrecorded name
    rw [if_neg hname, htext] at hget
    have hfile := Table.get?_ne_none_iff.1 (by rw [htext]; exact nofun)
    exact ⟨(name, _), List.mem_filter.2 ⟨Table.mem_sorted.2 (Table.mem_of_get? hget),
      (Manifest.damagedAt_iff (hedited.texts name hfile)
        fun text' => hdigests name text text' htext).2 hne⟩, rfl⟩

/-- A snapshot of a release that was read from a source and written is checked, whatever
has become of its files as long as the manifest was left alone. -/
theorem verify_of_write [Readers] {source : ReleaseSource Disk.Run} {tags : Option (List String)}
    {releases : List Release} {d₀ d₁ : Disk}
    (hread : (readAll source tags).run d₀ = (.ok releases, d₁)) (hr : r ∈ releases)
    (hparse : r.parse = .ok s) {versionedDir written path : String} {d d' d'' : Disk} (hd : d.Sound)
    (hwrite : (r.write s versionedDir : ExceptT WriteError Disk.Run String).run d
      = (.ok written, d'))
    (hfiles : r.render s Disk.writtenAt = .ok files)
    (hedited : d'.Edited d'' (d.spot versionedDir ++ [s.version.text]) files.keys)
    (hplace : d''.place path = .ok (d.spot versionedDir ++ [s.version.text]))
    (hdigests : ∀ name text text', files.get? name = some text →
      d''.node? (d.spot versionedDir ++ [s.version.text] ++ [name]) = some (.file text'.toUTF8) →
      Digest.ofText text' = Digest.ofText text → text' = text) :
    ∃ found, (Manifest.verify path : ExceptT ArtifactFault Disk.Run (List String)).run d''
        = (.ok found, d'') ∧
      found.Pairwise (· ≤ ·) ∧ found.Nodup ∧ Manifest.fileName ∉ found ∧
      (∀ name, name ∈ found ↔ name ≠ Manifest.fileName ∧ ∃ text, files.get? name = some text ∧
        d''.node? (d.spot versionedDir ++ [s.version.text] ++ [name])
          ≠ some (.file text.toUTF8)) ∧
      (found = [] ↔ ∀ name text, files.get? name = some text →
        d''.node? (d.spot versionedDir ++ [s.version.text] ++ [name])
          = some (.file text.toUTF8)) := by
  have hcollected := collected_of_readAll hread r hr
  obtain ⟨-, files', hrender, hholds, -⟩ := write_eq_ok hcollected hparse hd hwrite
  rw [hfiles] at hrender
  obtain rfl := Except.ok.inj hrender
  obtain ⟨found, hrun, hsorted, hnodup, hfound⟩ :=
    verify_of_holds hcollected hfiles hholds hedited hplace hdigests
  have hmanifest : Manifest.fileName ∉ found := fun hmem => ((hfound _).1 hmem).1 rfl
  refine ⟨found, hrun, hsorted, hnodup, hmanifest, hfound, ?_, fun hintact => ?_⟩
  · rintro rfl name text htext
    by_contra hne
    by_cases hname : name = Manifest.fileName
    · rw [hname] at htext hne
      exact hne (hedited.manifest.trans (hholds.node?_of_get? htext))
    · exact List.not_mem_nil ((hfound name).2 ⟨hname, text, htext, hne⟩)
  · refine List.eq_nil_iff_forall_not_mem.2 fun name hmem => ?_
    obtain ⟨-, text, htext, hne⟩ := (hfound name).1 hmem
    exact hne (hintact name text htext)

end

end Release

/-! ## A switch -/

namespace Bindings

attribute [local instance] Readers.standard

/-- The module is taken away from the snapshot, and this is what is reported. -/
theorem verify_of_write_switch : ∃ files d₁ d',
    (Release.readAll (ReleaseSource.inDirectory "r") none :
      ExceptT ReleaseFault Disk.Run (List Release)).run storedDisk
        = (.ok [switchRelease "Say"], d₁) ∧
    (switchRelease "Say").parse = .ok (switchSnapshot "Say") ∧ storedDisk.Sound ∧
    ((switchRelease "Say").write (switchSnapshot "Say") "d" :
      ExceptT WriteError Disk.Run String).run storedDisk = (.ok "d/0.1.0", d') ∧
    (switchRelease "Say").render (switchSnapshot "Say") Disk.writtenAt = .ok files ∧
    d'.Edited (d'.clear ["work", "d", "0.1.0", "controls.py"]) ["work", "d", "0.1.0"] files.keys ∧
    (d'.clear ["work", "d", "0.1.0", "controls.py"]).place "d/0.1.0"
      = .ok ["work", "d", "0.1.0"] ∧
    (∀ name text text', files.get? name = some text →
      (d'.clear ["work", "d", "0.1.0", "controls.py"]).node? (["work", "d", "0.1.0"] ++ [name])
        = some (.file text'.toUTF8) →
      Digest.ofText text' = Digest.ofText text → text' = text) ∧
    (Manifest.verify "d/0.1.0" : ExceptT ArtifactFault Disk.Run (List String)).run
        (d'.clear ["work", "d", "0.1.0", "controls.py"])
      = (.ok ["controls.py"], d'.clear ["work", "d", "0.1.0", "controls.py"]) := by
  obtain ⟨d₁, hread⟩ := exists_readAll_switch
  obtain ⟨d', hwrite⟩ := exists_write_switch "Say"
  have hspot : storedDisk.spot "d" = ["work", "d"] := by decide +kernel
  have hgoal : storedDisk.spot "d" ++ [(switchSnapshot "Say").version.text]
      = ["work", "d", "0.1.0"] := by decide +kernel
  have hcollected := Release.collected_of_readAll hread _ List.mem_cons_self
  obtain ⟨-, files, hfiles, hholds, hleads⟩ :=
    Release.write_eq_ok hcollected parse_switch sound_storedDisk hwrite
  have hwritten := hleads (by rw [hspot]; exact unhindered_switch)
  rw [hgoal] at hholds hwritten
  have hnode (name : String) : (d'.clear ["work", "d", "0.1.0", "controls.py"]).node?
      (["work", "d", "0.1.0"] ++ [name]) = if name = "controls.py" then none
        else (files.get? name).map fun text => .file text.toUTF8 := hholds.node?_clear _ name
  have hedited : d'.Edited (d'.clear ["work", "d", "0.1.0", "controls.py"]) ["work", "d", "0.1.0"]
      files.keys := hholds.edited_clear _ (by decide)
  have hplace : (d'.clear ["work", "d", "0.1.0", "controls.py"]).place "d/0.1.0"
      = .ok ["work", "d", "0.1.0"] := ((hholds.flat hwritten).clear "controls.py").leads
  -- What is left has the texts that were written, whatever the digests.
  have hdigests (name text text' : String) (htext : files.get? name = some text)
      (hfile : (d'.clear ["work", "d", "0.1.0", "controls.py"]).node?
        (["work", "d", "0.1.0"] ++ [name]) = some (.file text'.toUTF8))
      (_ : Digest.ofText text' = Digest.ofText text) : text' = text :=
    hholds.eq_of_clear "controls.py" htext hfile
  refine ⟨files, d₁, d', hread, parse_switch, sound_storedDisk, hwrite, hfiles, hedited, hplace,
    hdigests, ?_⟩
  obtain ⟨found, hrun, hsorted, hnodup, -, hfound, -⟩ := Release.verify_of_write hread
    List.mem_cons_self parse_switch sound_storedDisk hwrite hfiles (by rw [hgoal]; exact hedited)
    (by rw [hgoal]; exact hplace) (by rw [hgoal]; exact hdigests)
  rw [hgoal] at hfound
  have hreported (name : String) : name ∈ found ↔ name = "controls.py" := by
    rw [hfound]
    constructor
    · rintro ⟨-, text, htext, hne⟩
      by_contra hname
      exact hne (by rw [hnode, if_neg hname, htext]; rfl)
    · rintro rfl
      obtain ⟨text, htext⟩ := Option.ne_none_iff_exists'.1 (Table.get?_ne_none_iff.2
        ((Release.mem_keys_render hfiles).2 (Or.inr (Or.inl List.mem_cons_self))))
      exact ⟨by decide, text, htext, by rw [hnode, if_pos rfl]; exact nofun⟩
  have heq : found = ["controls.py"] := eq_of_pairwise_texts hsorted (List.pairwise_singleton _ _)
    hnodup (List.nodup_singleton _) fun name => by rw [hreported, List.mem_singleton]
  rw [hrun, heq]

end Bindings

end ControlSchema
