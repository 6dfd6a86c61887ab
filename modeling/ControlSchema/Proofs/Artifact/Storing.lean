import ControlSchema.Proofs.Artifact.Writing
import ControlSchema.Proofs.Storage.Holding

/-!
# Releases as they are stored

A snapshot that is written stands in its directory as it was rendered, whatever was
there before, and the release is read back from it: the directory is named by the
version, and the documents are told from the other files by their names. Their texts
are written as they are and read with line feeds for line ends, so they come back as
they were exactly when none of them has a carriage return. Directories and repositories
only give such texts; another source may give others.
-/

namespace ControlSchema

open Disk Storage

namespace Release

/-! ## What a success leaves -/

section

variable {files : Table String String} {final name : String} {d d' : Disk} {above : Trail}

/-- A directory is replaced in three steps: a temporary directory is prepared, it is filled, and it
is moved. -/
theorem exists_of_replaceDirectory (hinner : ∀ inner ∈ files.keys, Path.IsInner inner)
    (hd : d.Sound) (hspot : d.spot final = above ++ [name]) (hbase : Path.baseName final = name)
    (h : (replaceDirectory files final : StorageT Disk.Run Unit).run d = (.ok (), d')) :
    ∃ temporary n d₁ d₂, Prepared d d₁ temporary above name n ∧
      (writeFiles temporary files.sorted).run d₁ = (.ok (), d₂) ∧
      Evolves ((grown above).except (above ++ [temporaryName name n])) d d₂ ∧
      d₂.spot temporary = above ++ [temporaryName name n] ∧
      (moveOver temporary final : StorageT Disk.Run Unit).run d₂ = (.ok (), d') := by
  rcases hmade : (temporaryBeside final : StorageT Disk.Run String).run d with ⟨r, d₁⟩
  cases r with
  | error e =>
    rw [replaceDirectory, run_bind_of_error hmade] at h
    cases h
  | ok temporary =>
    obtain ⟨n, hprepared⟩ := temporaryBeside_eq_ok hd hspot hbase hmade
    rcases hplace : (placeFiles files temporary final : StorageT Disk.Run Unit).run d₁ with ⟨r, d₃⟩
    cases r with
    | error e =>
      rw [replaceDirectory_run_of_error hmade hplace] at h
      cases h
    | ok _ =>
      rw [replaceDirectory_run_of_ok hmade hplace] at h
      cases h
      rw [placeFiles_eq] at hplace
      obtain ⟨_, d₂, hwrite, hmove⟩ := run_bind_eq_ok hplace
      have hevolves := hprepared.evolves_writeFiles fun file hfile =>
        hinner file.1 (List.mem_map.2 ⟨file, Table.mem_sorted.1 hfile, rfl⟩)
      rw [hwrite] at hevolves
      refine ⟨temporary, n, d₁, d₂, hprepared, hwrite, hevolves, ?_, hmove⟩
      rw [hevolves.spot, ← hprepared.evolves.spot, ← spot_of_place hprepared.flat.leads]

/-- A directory that was replaced holds the new files and no others. -/
theorem replaceDirectory_eq_ok (hinner : ∀ inner ∈ files.keys, Path.IsInner inner)
    (hnodup : files.keys.Nodup) (hd : d.Sound) (hspot : d.spot final = above ++ [name])
    (hbase : Path.baseName final = name)
    (h : (replaceDirectory files final : StorageT Disk.Run Unit).run d = (.ok (), d')) :
    d'.Holds (above ++ [name]) files ∧
      (d.Unhindered final above name → d'.place final = .ok (above ++ [name])) := by
  obtain ⟨temporary, n, d₁, d₂, hprepared, hwrite, hevolves, htemporary, hmove⟩ :=
    exists_of_replaceDirectory hinner hd hspot hbase h
  have hholds := hprepared.holds_writeFiles hinner hnodup hwrite
  have hne : temporaryName name n ≠ name := marked_ne name _
  obtain ⟨hmoved, hleads⟩ := holds_of_moveOver hholds htemporary
    ((hevolves.spot final).trans hspot) (not_prefix_of_ne hne) (not_prefix_of_ne hne.symm) hmove
  refine ⟨hmoved, fun hway => hleads ?_⟩
  rw [Crosses, start, hevolves.home]
  exact hway n (hprepared.unused _ List.prefix_rfl)

/-- Replacing a directory changes nothing elsewhere, but for new directories above it: where the
temporary directory was there was nothing before, and there is nothing again. -/
theorem evolves_of_replaceDirectory (hinner : ∀ inner ∈ files.keys, Path.IsInner inner)
    (hd : d.Sound) (hspot : d.spot final = above ++ [name]) (hbase : Path.baseName final = name)
    (h : (replaceDirectory files final : StorageT Disk.Run Unit).run d = (.ok (), d')) :
    Evolves ((grown above).except (above ++ [name])) d d' := by
  obtain ⟨temporary, n, d₁, d₂, hprepared, -, hevolves, htemporary, hmove⟩ :=
    exists_of_replaceDirectory hinner hd hspot hbase h
  have hne : temporaryName name n ≠ name := marked_ne name _
  obtain ⟨hmoved, hgone⟩ := evolves_of_moveOver hevolves.sound htemporary
    ((hevolves.spot final).trans hspot) (not_prefix_of_ne hne) (not_prefix_of_ne hne.symm) hmove
  refine ⟨hmoved.sound, hmoved.home.trans hevolves.home, hmoved.failing.trans hevolves.failing,
    hevolves.steps.trans hmoved.steps, fun place => ?_⟩
  refine (hmoved.nodes place).imp_left fun hplace => ?_
  by_cases hT : above ++ [temporaryName name n] <+: place
  · rw [hgone place hT, hprepared.unused place hT]
    exact Or.inl rfl
  · rw [hplace.resolve_right fun hinside => hT hinside.1]
    exact (hevolves.nodes place).resolve_right hT

/-- A directory is made where nothing is, or takes the place of another, when no change fails. The
way to the other must not lead through it. -/
theorem replaceDirectory_of_quiet (hd : d.Sound) (hquiet : Quiet d)
    (hspot : d.spot final = above ++ [name]) (hbase : Path.baseName final = name)
    {temporary : String} {d₁ : Disk}
    (hmade : (temporaryBeside final : StorageT Disk.Run String).run d = (.ok temporary, d₁))
    (hgoal : d₁.place final = .ok (above ++ [name]) ∧ d.node? (above ++ [name]) = none ∨
      Tree d final (above ++ [name]) depthLimit ∧ ¬ d.Crosses final (above ++ [name]))
    (hfiles : ∀ inner ∈ files.keys, IsName inner ∧ inner.utf8ByteSize ≤ nameLimit) :
    ∃ d', (replaceDirectory files final : StorageT Disk.Run Unit).run d = (.ok (), d') := by
  obtain ⟨n, hprepared⟩ := temporaryBeside_eq_ok hd hspot hbase hmade
  have hne : temporaryName name n ≠ name := marked_ne name _
  have hsorted : ∀ file ∈ files.sorted, IsName file.1 ∧ file.1.utf8ByteSize ≤ nameLimit :=
    fun file hfile => hfiles file.1 (List.mem_map.2 ⟨file, Table.mem_sorted.1 hfile, rfl⟩)
  obtain ⟨d₂, hwrite, hflat, hfilled, hevolves⟩ := hprepared.exists_writeFiles hquiet hsorted
  have hquiet₂ := hquiet.of_evolves hevolves
  -- At the goal nothing has changed yet.
  have hkept {place : Trail} (hplace : above ++ [name] <+: place) :
      d₂.node? place = d.node? place := Prepared.node?_of_evolves hevolves hplace
  have hmoved : ((moveOver temporary final : StorageT Disk.Run Unit).run d₂).1 = .ok () := by
    rcases hgoal with ⟨hplace, hmissing⟩ | ⟨htree, hway⟩
    · have hgoal : d₂.place final = .ok (above ++ [name]) := by
        refine place_of_directories hplace hfilled.home fun place hdirectory => ?_
        by_cases hT : above ++ [temporaryName name n] <+: place
        · -- Nothing but the temporary directory itself is a directory there.
          obtain ⟨rest, rfl⟩ := hT
          cases rest with
          | nil => simpa using hflat.directory
          | cons inner rest =>
            have hnone := hprepared.flat.sound.node?_eq_none_of_within (hprepared.empty inner)
              (List.prefix_append _ rest)
            rw [List.append_cons, hnone] at hdirectory
            cases hdirectory
        · rw [(hfilled.nodes place).resolve_right hT, hdirectory]
      exact moveOver_of_missing hquiet₂ hflat hgoal ((hkept List.prefix_rfl).trans hmissing)
        (not_prefix_of_ne hne)
    · have htree₂ : Tree d₂ final (above ++ [name]) depthLimit := by
        have hstart : d₂.start final = d.start final := by rw [start, start, hevolves.home]
        refine ⟨hevolves.sound, place_of_directories htree.leads hevolves.home fun _ =>
          hprepared.directory_of_evolves hevolves, (hkept List.prefix_rfl).trans htree.directory,
          fun inner => ?_, fun place hplace hnode => htree.depth place hplace ?_,
          fun place inner hplace hnode => htree.short place inner hplace ?_⟩
        · rw [Crosses, hstart]
          exact htree.way inner
        · rw [← hkept hplace, hnode]
        · rwa [← hkept (hplace.trans (List.prefix_append place [inner]))]
      refine moveOver_of_tree hquiet₂ hflat hprepared.absolute hprepared.names htree₂ ?_
        (concat_ne_nil above name) (not_prefix_of_ne hne) (not_prefix_of_ne hne.symm)
      rwa [Crosses, start, hevolves.home]
  rcases hmove : (moveOver temporary final : StorageT Disk.Run Unit).run d₂ with ⟨r, d₃⟩
  rw [hmove] at hmoved
  obtain rfl : r = .ok () := hmoved
  refine ⟨d₃, replaceDirectory_run_of_ok hmade ?_⟩
  rw [placeFiles_eq, run_bind_of_ok hwrite, hmove]

end

/-! ## Reading back -/

section

variable {r : Release} {files : Table String String} {d : Disk} {place : Trail} {path : String}

/-- The documents of a category are found in a directory that has them. -/
theorem readDocuments_run (hr : r.Collected) (hholds : d.Holds place files)
    (hplace : d.place path = .ok place) (category : Category)
    (hfiles : ∀ name, category.hasDocument name = true →
      files.get? name = (r.documents category).get? name) :
    (readDocuments (fun name => (Storage.readText (Path.join path name)).adapt .reading) category
        ((d.namesAt place).mergeSort textAtMost) : ExceptT ReleaseFault Disk.Run _).run d
      = (.ok (unified (r.documents category)), d) := by
  have hmem (name : String) : name ∈ ((d.namesAt place).mergeSort textAtMost).filter
      category.hasDocument ↔ name ∈ (r.documents category).keys := by
    rw [List.mem_filter, List.mem_mergeSort, hholds.mem_namesAt, ← Table.get?_ne_none_iff,
      ← Table.get?_ne_none_iff]
    constructor
    · rintro ⟨hexists, hdocument⟩
      rwa [← hfiles name hdocument]
    · intro hexists
      have hdocument := hr.names category name (Table.get?_ne_none_iff.1 hexists)
      exact ⟨by rwa [hfiles name hdocument], hdocument⟩
  have hkeys : ((d.namesAt place).mergeSort textAtMost).filter category.hasDocument
      = (r.documents category).keys :=
    eq_of_pairwise_texts ((pairwise_mergeSort_texts _).sublist List.filter_sublist)
      (hr.sorted category) (((List.mergeSort_perm _ _).nodup_iff.2
        (nodup_namesAt hholds.sound place)).filter _) (hr.nodup category) hmem
  have hread : ∀ document ∈ r.documents category,
      ((do return (document.1, ← (Storage.readText (Path.join path document.1)).adapt .reading) :
        ExceptT ReleaseFault Disk.Run (String × String))).run d
          = (.ok (document.1, Text.unifyBreaks document.2), d) := by
    intro document hdocument
    have hkey : document.1 ∈ (r.documents category).keys :=
      List.mem_map.2 ⟨document, hdocument, rfl⟩
    have htext : files.get? document.1 = some document.2 :=
      (hfiles document.1 (hr.names category _ hkey)).trans
        (Table.get?_of_mem (hr.nodup category) hdocument)
    have hinner := hholds.place_join hplace (Table.get?_ne_none_iff.1 (by rw [htext]; exact nofun))
    have hadapt : ((Storage.readText (Path.join path document.1)).adapt .reading :
        ExceptT ReleaseFault Disk.Run String).run d = (.ok (Text.unifyBreaks document.2), d) := by
      rw [run_adapt, readText_run hinner (hholds.node?_of_get? htext)]
      rfl
    rw [run_bind_of_ok hadapt]
    rfl
  have hall : List.Forall₂ (fun name document =>
      ((do return (name, ← (Storage.readText (Path.join path name)).adapt .reading) :
        ExceptT ReleaseFault Disk.Run (String × String))).run d = (.ok document, d))
      (r.documents category).keys (unified (r.documents category)) :=
    List.forall₂_map_left_iff.2 (List.forall₂_map_right_iff.2 (List.forall₂_same.2 hread))
  have hnodup : (unified (r.documents category)).keys.Nodup := by
    rw [keys_unified]
    exact hr.nodup category
  rw [readDocuments, hkeys, run_bind_of_ok (mapM_of_forall₂ hall), Table.ofPairs_of_nodup hnodup]
  rfl

/-- The release as it is read back from its snapshot. -/
def stored (r : Release) : Release :=
  ⟨r.version, storedTag r.version, unified r.controls, unified r.properties⟩

theorem documents_stored (r : Release) (category : Category) :
    r.stored.documents category = unified (r.documents category) := by cases category <;> rfl

/-- A release is read back from a directory that is named by its version and has its
documents. -/
theorem ofSnapshotDirectory_run (hr : r.Collected)
    (hholds : d.Holds place files) (hplace : d.place path = .ok place)
    (hname : Path.lastName (Path.tidy path) = r.version.text)
    (hfiles : ∀ category name, category.hasDocument name = true →
      files.get? name = (r.documents category).get? name) :
    (ofSnapshotDirectory path none : ExceptT ReleaseFault Disk.Run Release).run d
      = (.ok r.stored, d) := by
  have htidy := place_tidy hplace
  have hkind : (ReleaseSource.asFault (Storage.leadsTo .directory (Path.tidy path)) :
      ExceptT ReleaseFault Disk.Run Bool).run d = (.ok true, d) := by
    rw [ReleaseSource.asFault, run_adapt, leadsTo_run htidy]
    exact congrArg (fun kind => (Except.ok (kind == some EntryKind.directory), d))
      (kindAt?_eq_directory.2 hholds.directory)
  have hversion : (ExceptT.mk (pure (storedVersion (Path.tidy path))) :
      ExceptT ReleaseFault Disk.Run Version).run d = (.ok r.version, d) := by
    rw [storedVersion, hname, hr.version]
    rfl
  have hlist : (ReleaseSource.asFault (ReleaseSource.entriesOf .file (Path.tidy path)) :
      ExceptT ReleaseFault Disk.Run (List String)).run d
        = (.ok ((d.namesAt place).mergeSort textAtMost), d) := by
    rw [ReleaseSource.asFault, run_adapt, (hholds.flat htidy).entriesOf_file_run]
    rfl
  have hread (category : Category) := readDocuments_run hr hholds htidy category
    (hfiles category)
  have hsome : r.stored.hasDocuments = true := by
    rw [hasDocuments, stored, isEmpty_unified, isEmpty_unified]
    exact hr.some
  refine (run_bind_of_ok hkind).trans <| (run_bind_of_ok hversion).trans <|
    (run_bind_of_ok hlist).trans <| (run_bind_of_ok (hread .controls)).trans <|
    (run_bind_of_ok (hread .properties)).trans ?_
  exact congrArg (fun release : ExceptT ReleaseFault Disk.Run Release => release.run d)
    (if_pos hsome)

end

/-! ## Releases of a source -/

section

variable [Readers] {r : Release} {s : Snapshot} {versionedDir path : String} {d d' : Disk}

/-- A release is written under the place of its version, file by file as it is rendered. -/
theorem write_eq_ok (hr : r.Collected) (hparse : r.parse = .ok s) (hd : d.Sound)
    (h : (r.write s versionedDir : ExceptT WriteError Disk.Run String).run d = (.ok path, d')) :
    path = s.version.directory versionedDir ∧
    ∃ files, r.render s Disk.writtenAt = .ok files ∧
      d'.Holds (d.spot versionedDir ++ [s.version.text]) files ∧
      (d.Unhindered path (d.spot versionedDir) s.version.text →
        d'.place path = .ok (d.spot versionedDir ++ [s.version.text])) := by
  have hversion : s.version.IsWritten :=
    version_of_parse hparse ▸ Version.isWritten_of_parse hr.version
  cases hrender : r.render s Disk.writtenAt with
  | error g =>
    rw [write_run_of_error hrender] at h
    cases h
  | ok files =>
    rw [write_run_of_ok hrender] at h
    rcases hreplace : (replaceDirectory files (s.version.directory versionedDir) :
      StorageT Disk.Run Unit).run d with ⟨_ | _, d₁⟩
    · rw [hreplace] at h
      cases h
    · rw [hreplace] at h
      cases h
      exact ⟨rfl, files, rfl, replaceDirectory_eq_ok (isInner_of_render hr.names hrender)
        (nodup_keys_render hr hrender) hd (Version.spot_directory hversion d versionedDir)
        (Path.baseName_join versionedDir (Version.isName_text hversion)) hreplace⟩

/-- A release that is written leaves all but the directory of its version as it was. -/
theorem evolves_of_write (hr : r.Collected) (hparse : r.parse = .ok s) (hd : d.Sound)
    (h : (r.write s versionedDir : ExceptT WriteError Disk.Run String).run d = (.ok path, d')) :
    Evolves ((grown (d.spot versionedDir)).except (d.spot versionedDir ++ [s.version.text])) d
      d' := by
  have hversion : s.version.IsWritten :=
    version_of_parse hparse ▸ Version.isWritten_of_parse hr.version
  cases hrender : r.render s Disk.writtenAt with
  | error g =>
    rw [write_run_of_error hrender] at h
    cases h
  | ok files =>
    rw [write_run_of_ok hrender] at h
    rcases hreplace : (replaceDirectory files (s.version.directory versionedDir) :
      StorageT Disk.Run Unit).run d with ⟨_ | _, d₁⟩
    · rw [hreplace] at h
      cases h
    · rw [hreplace] at h
      cases h
      exact evolves_of_replaceDirectory (isInner_of_render hr.names hrender) hd
        (Version.spot_directory hversion d versionedDir)
        (Path.baseName_join versionedDir (Version.isName_text hversion)) hreplace

/-- A release that was read from a source is written unless storage fails. Its directory
holds what was rendered and nothing else, and it is read back from there. -/
theorem exists_write {source : ReleaseSource Disk.Run} {tags : Option (List String)}
    {releases : List Release} {d₀ d₁ : Disk}
    (hread : (readAll source tags).run d₀ = (.ok releases, d₁)) (hr : r ∈ releases)
    (hparse : r.parse = .ok s) {files : Table String String}
    (hrender : r.render s Disk.writtenAt = .ok files) (hd : d.Sound)
    (hfault : ∀ error, ((r.write s versionedDir : ExceptT WriteError Disk.Run String).run d).1
      ≠ .error (.artifact error)) :
    ∃ d', (r.write s versionedDir : ExceptT WriteError Disk.Run String).run d
        = (.ok (s.version.directory versionedDir), d') ∧
      d'.Holds (d.spot versionedDir ++ [s.version.text]) files ∧
      (∀ path, d'.Locates path (d.spot versionedDir) s.version.text →
        (ofSnapshotDirectory path none : ExceptT ReleaseFault Disk.Run Release).run d'
          = (.ok r.stored, d')) ∧
      (d.Unhindered (s.version.directory versionedDir) (d.spot versionedDir) s.version.text →
        d'.Locates (s.version.directory versionedDir) (d.spot versionedDir) s.version.text) := by
  have hcollected := collected_of_readAll hread r hr
  have hversion := version_of_parse hparse
  rcases hwrite : (r.write s versionedDir : ExceptT WriteError Disk.Run String).run d
    with ⟨error | path, d'⟩
  · rw [hwrite] at hfault
    rcases write_eq_error hcollected.names (hversion ▸ Version.isWritten_of_parse
      hcollected.version) hd hwrite with ⟨g, hfailed, -⟩ | ⟨cause, rfl, -⟩
    · rw [hrender] at hfailed
      cases hfailed
    · exact absurd rfl (hfault _)
  · obtain ⟨rfl, files', hrender', hholds, hplace⟩ := write_eq_ok hcollected hparse hd hwrite
    rw [hrender] at hrender'
    obtain rfl := Except.ok.inj hrender'
    refine ⟨d', rfl, hholds, fun path hpath => ?_, fun hway => ⟨hplace hway, ?_⟩⟩
    · exact ofSnapshotDirectory_run hcollected hholds hpath.place
        (hpath.name.trans (congrArg Version.text hversion))
        fun category name hdocument => get?_render hcollected hrender hdocument
    · exact Path.lastName_tidy_join versionedDir
        (Version.isName_text (hversion ▸ Version.isWritten_of_parse hcollected.version))

/-- What is read back is the release, with the documents that were written if there is no carriage
return in them, and only then. -/
theorem ofSnapshotDirectory_of_write {source : ReleaseSource Disk.Run} {tags : Option (List String)}
    {releases : List Release} {d₀ d₁ : Disk}
    (hread : (readAll source tags).run d₀ = (.ok releases, d₁)) (hr : r ∈ releases)
    (hparse : r.parse = .ok s) {files : Table String String}
    (hrender : r.render s Disk.writtenAt = .ok files) (hd : d.Sound)
    (hfault : ∀ error, ((r.write s versionedDir : ExceptT WriteError Disk.Run String).run d).1
      ≠ .error (.artifact error)) :
    ∃ d', (r.write s versionedDir : ExceptT WriteError Disk.Run String).run d
        = (.ok (s.version.directory versionedDir), d') ∧
      d'.Holds (d.spot versionedDir ++ [s.version.text]) files ∧
      (∀ path, d'.Locates path (d.spot versionedDir) s.version.text →
        ∃ back, (ofSnapshotDirectory path none : ExceptT ReleaseFault Disk.Run Release).run d'
            = (.ok back, d') ∧
          back.version = r.version ∧
          (∀ category, back.documents category = unified (r.documents category)) ∧
          (back.controls = r.controls ∧ back.properties = r.properties ↔ r.Unbroken) ∧
          (r.Unbroken → back.parse = .ok s)) ∧
      (d.Unhindered (s.version.directory versionedDir) (d.spot versionedDir) s.version.text →
        d'.Locates (s.version.directory versionedDir) (d.spot versionedDir) s.version.text) ∧
      (source.Unbroken → r.Unbroken) := by
  obtain ⟨d', hwrite, hholds, hback, hlocates⟩ := exists_write hread hr hparse hrender hd hfault
  have hsame : r.stored.controls = r.controls ∧ r.stored.properties = r.properties ↔
      r.Unbroken := by
    rw [unbroken_iff]
    refine ⟨fun h category => ?_, fun h => ⟨h .controls, h .properties⟩⟩
    cases category
    · exact h.1
    · exact h.2
  refine ⟨d', hwrite, hholds, fun path hpath => ⟨r.stored, hback path hpath, rfl,
    documents_stored r, hsame, fun hunbroken => ?_⟩, hlocates,
    fun hsource => unbroken_of_readAll hsource hread r hr⟩
  obtain ⟨hcontrols, hproperties⟩ := hsame.2 hunbroken
  rw [← hparse, parse, parse, hcontrols, hproperties]
  rfl

end

end Release

/-! ## A switch -/

namespace Bindings

/-- A disk with a directory of releases, of which there is one. -/
def sourceDisk : Disk :=
  (((Disk.empty ["work"]).put ["work", "r"] .directory).put ["work", "r", "v0.1.0"] .directory).put
    ["work", "r", "v0.1.0", "control_ids_core.yaml"]
      (.file ("controls:\n- AeEnable:\n    type: bool\n    description: Say\n").toUTF8)

theorem sound_sourceDisk : sourceDisk.Sound := by
  have hempty := @sound_empty ["work"] (by decide)
  have hfirst := @Sound.put _ hempty ["work"] "r" .directory (by decide) rfl (Or.inl rfl)
  have hsecond := @Sound.put _ hfirst ["work", "r"] "v0.1.0" .directory (by decide) rfl
    (Or.inl rfl)
  exact @Sound.put _ hsecond ["work", "r", "v0.1.0"] "control_ids_core.yaml" _ (by decide) rfl
    (Or.inr nofun)

/-- The same disk with a directory where the snapshot of the switch belongs, and a file in it. -/
def storedDisk : Disk :=
  ((sourceDisk.put ["work", "d"] .directory).put ["work", "d", "0.1.0"] .directory).put
    ["work", "d", "0.1.0", "old.py"] (.file ByteArray.empty)

theorem sound_storedDisk : storedDisk.Sound := by
  have hfirst := @Sound.put _ sound_sourceDisk ["work"] "d" .directory (by decide) rfl (Or.inl rfl)
  have hsecond := @Sound.put _ hfirst ["work", "d"] "0.1.0" .directory (by decide) rfl (Or.inl rfl)
  exact @Sound.put _ hsecond ["work", "d", "0.1.0"] "old.py" (.file ByteArray.empty) (by decide) rfl
    (Or.inr nofun)

theorem flat_storedDisk : Flat storedDisk "d/0.1.0" ["work", "d", "0.1.0"] := by
  have hinner {name : String} (h : storedDisk.node? ["work", "d", "0.1.0", name] ≠ none) :
      name = "old.py" := by
    have hmem := Table.get?_ne_none_iff.1 h
    have hkeys : storedDisk.nodes.keys = [["work"], ["work", "r"], ["work", "r", "v0.1.0"],
        ["work", "r", "v0.1.0", "control_ids_core.yaml"], ["work", "d"], ["work", "d", "0.1.0"],
        ["work", "d", "0.1.0", "old.py"]] := by decide
    rw [hkeys] at hmem
    simpa using hmem
  refine ⟨sound_storedDisk, Attempt.eq_ok_of_toOption (by decide), rfl,
    fun name hdirectory => ?_, fun name hexists => ?_⟩
  · have hexists : storedDisk.node? ["work", "d", "0.1.0", name] ≠ none := fun hnone => by
      cases hnone.symm.trans hdirectory
    obtain rfl := hinner hexists
    cases hdirectory
  · rw [hinner hexists]
    decide

theorem not_crosses_storedDisk : ¬ storedDisk.Crosses "d/0.1.0" (["work", "d"] ++ ["0.1.0"]) := by
  rintro ⟨front, piece, back, hpieces, hwithin⟩
  have hdown : ["work", "d", "0.1.0"] <+: walk (storedDisk.start "d/0.1.0") front := hwithin
  have hwhole : Path.pieces "d/0.1.0" = ["d", "0.1.0"] := by decide
  rw [hwhole] at hpieces
  rcases front with _ | ⟨first, _ | ⟨second, front⟩⟩
  · exact absurd hdown.length_le (by decide)
  · obtain ⟨rfl, -⟩ := List.cons.inj hpieces
    exact absurd hdown.length_le (by decide)
  · have hlength := congrArg List.length hpieces
    simp at hlength

theorem unhindered_switch : storedDisk.Unhindered "d/0.1.0" ["work", "d"] "0.1.0" :=
  unhindered_of_not_mem (by decide) (by decide)

theorem exists_readAll_switch : ∃ d', (Release.readAll (ReleaseSource.inDirectory "r") none :
    ExceptT ReleaseFault Disk.Run (List Release)).run storedDisk
      = (.ok [switchRelease "Say"], d') := run_eq_ok_of_toOption (by decide +kernel)

theorem exists_write_switch (text : String) :
    ∃ d', ((switchRelease text).write (switchSnapshot "Say") "d" :
      ExceptT WriteError Disk.Run String).run storedDisk = (.ok "d/0.1.0", d') := by
  obtain ⟨files, hfiles⟩ := exists_render_switch text Disk.writtenAt
  have hfinal : (switchSnapshot "Say").version.directory "d" = "d/0.1.0" := by decide
  obtain ⟨d₁, htemporary⟩ : ∃ d₁, (temporaryBeside "d/0.1.0" : StorageT Disk.Run String).run
      storedDisk = (.ok "/work/d/.0.1.0.00000000.tmp", d₁) :=
    run_eq_ok_of_toOption (by decide)
  obtain ⟨d', hreplace⟩ := @Release.replaceDirectory_of_quiet files "d/0.1.0" "0.1.0" storedDisk
    ["work", "d"] sound_storedDisk (fun _ _ => rfl) (by decide) (by decide) _ _
    htemporary (.inr ⟨flat_storedDisk.tree 4095, not_crosses_storedDisk⟩)
    (isName_of_render_switch hfiles)
  refine ⟨d', ?_⟩
  rw [Release.write_run_of_ok hfiles, hfinal, hreplace]

section

attribute [local instance] Readers.standard

/-- The release is read from its source, written over what was there, and read back. -/
theorem ofSnapshotDirectory_of_write_switch :
    (ReleaseSource.inDirectory "r" : ReleaseSource Disk.Run).Unbroken ∧ storedDisk.Sound ∧
    storedDisk.node? ["work", "d", "0.1.0", "old.py"] = some (.file ByteArray.empty) ∧
    (∀ error, (((switchRelease "Say").write (switchSnapshot "Say") "d" :
      ExceptT WriteError Disk.Run String).run storedDisk).1 ≠ .error (.artifact error)) ∧
    storedDisk.Unhindered "d/0.1.0" ["work", "d"] "0.1.0" ∧
    ∃ files d₁ d', (Release.readAll (ReleaseSource.inDirectory "r") none :
        ExceptT ReleaseFault Disk.Run (List Release)).run storedDisk
          = (.ok [switchRelease "Say"], d₁) ∧
      (switchRelease "Say").parse = .ok (switchSnapshot "Say") ∧
      (switchRelease "Say").render (switchSnapshot "Say") Disk.writtenAt = .ok files ∧
      ((switchRelease "Say").write (switchSnapshot "Say") "d" :
        ExceptT WriteError Disk.Run String).run storedDisk = (.ok "d/0.1.0", d') ∧
      d'.Holds ["work", "d", "0.1.0"] files ∧
      ∃ back, (Release.ofSnapshotDirectory "d/0.1.0" none :
          ExceptT ReleaseFault Disk.Run Release).run d' = (.ok back, d') ∧
        back.version = ⟨0, 1, 0, []⟩ ∧ back.controls = (switchRelease "Say").controls ∧
        back.properties = [] ∧ back.parse = .ok (switchSnapshot "Say") := by
  have hsource := ReleaseSource.unbroken_inDirectory "r"
  have hspot : storedDisk.spot "d" = ["work", "d"] := by decide +kernel
  have hfinal : (switchSnapshot "Say").version.directory "d" = "d/0.1.0" := by decide +kernel
  obtain ⟨files, hfiles⟩ := exists_render_switch "Say" Disk.writtenAt
  obtain ⟨d₁, hread⟩ := exists_readAll_switch
  obtain ⟨_, hwrite⟩ := exists_write_switch "Say"
  have hfault : ∀ error, (((switchRelease "Say").write (switchSnapshot "Say") "d" :
      ExceptT WriteError Disk.Run String).run storedDisk).1 ≠ .error (.artifact error) := by
    intro error
    rw [hwrite]
    exact nofun
  obtain ⟨d', hwritten, hholds, hback, hlocates, hunbroken⟩ :=
    Release.ofSnapshotDirectory_of_write hread List.mem_cons_self parse_switch hfiles
      sound_storedDisk hfault
  rw [hfinal, hspot] at hlocates
  rw [hspot] at hback hholds
  obtain ⟨back, hrun, hversion, -, hsame, hparse⟩ := hback _ (hlocates unhindered_switch)
  obtain ⟨hcontrols, hproperties⟩ := hsame.2 (hunbroken hsource)
  exact ⟨hsource, sound_storedDisk, rfl, hfault, unhindered_switch, files, d₁, d', hread,
    parse_switch, hfiles, hwritten, hholds, back, hrun, hversion, hcontrols, hproperties,
    hparse (hunbroken hsource)⟩

/-- A source that has the release with a carriage return behind the description. -/
def returnSource : ReleaseSource Disk.Run where
  tags := pure ["v0.1.0"]
  files _ := pure ["control_ids_core.yaml"]
  read _ _ := pure "controls:\n- AeEnable:\n    type: bool\n    description: Say\r\n"

/-- Nothing fails, and the document that is read back is not the one that was written. -/
theorem ofSnapshotDirectory_of_write_return :
    ∃ files d₁ d' back, (Release.readAll returnSource none :
        ExceptT ReleaseFault Disk.Run (List Release)).run storedDisk
          = (.ok [switchRelease "Say\r"], d₁) ∧
      (switchRelease "Say\r").parse = .ok (switchSnapshot "Say") ∧
      (switchRelease "Say\r").render (switchSnapshot "Say") Disk.writtenAt = .ok files ∧
      ((switchRelease "Say\r").write (switchSnapshot "Say") "d" :
        ExceptT WriteError Disk.Run String).run storedDisk = (.ok "d/0.1.0", d') ∧
      (Release.ofSnapshotDirectory "d/0.1.0" none :
          ExceptT ReleaseFault Disk.Run Release).run d' = (.ok back, d') ∧
      back.controls ≠ (switchRelease "Say\r").controls := by
  have hspot : storedDisk.spot "d" = ["work", "d"] := by decide +kernel
  have hfinal : (switchSnapshot "Say").version.directory "d" = "d/0.1.0" := by decide +kernel
  have hparse : (switchRelease "Say\r").parse = .ok (switchSnapshot "Say") :=
    Attempt.eq_ok_of_toOption (by decide +kernel)
  obtain ⟨files, hfiles⟩ := exists_render_switch "Say\r" Disk.writtenAt
  obtain ⟨d₁, hread⟩ : ∃ d₁, (Release.readAll returnSource none :
      ExceptT ReleaseFault Disk.Run (List Release)).run storedDisk
        = (.ok [switchRelease "Say\r"], d₁) := run_eq_ok_of_toOption (by decide +kernel)
  obtain ⟨_, hwrite⟩ := exists_write_switch "Say\r"
  obtain ⟨d', hwritten, -, hback, hlocates⟩ := Release.exists_write hread List.mem_cons_self hparse
    hfiles sound_storedDisk fun error => by
      rw [hwrite]
      exact nofun
  rw [hfinal, hspot] at hlocates
  rw [hspot] at hback
  refine ⟨files, d₁, d', _, hread, hparse, hfiles, hwritten, hback _ (hlocates unhindered_switch),
    fun hsame => ?_⟩
  exact absurd (Release.unified_eq_self_iff.1 hsame _ List.mem_cons_self) (by decide)

end

end Bindings

end ControlSchema
