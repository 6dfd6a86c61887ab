import ControlSchema.Proofs.Artifact.Writing
import ControlSchema.Proofs.Storage.Inquiry
import ControlSchema.Proofs.Version.Resolution
import ControlSchema.Selection

/-!
# The selected snapshot

Selecting only asks. What is selected is a version that some directory is named by: it may serve the
linked runtime, and no other version that may serve it is above it. The path of the selection is not
the path of that directory, though: it is made anew from the version, so it leads to a directory
exactly when one of the directories has the name that the version is written as. A name with blanks
around it or with build metadata is read as the same version and leaves the path without a
directory.
-/

namespace ControlSchema

open Disk Storage

/-! ## Directories that are named by versions -/

/-- A directory stands directly in the one that the path leads to, under the name. -/
structure Disk.HasDirectory (d : Disk) (path name : String) : Prop where
  above : d.kindOf path = some .directory
  listed : name ∈ d.namesAt (d.spot path)
  directory : d.kindOf (Path.join path name) = some .directory

/-- A directory is there whose name is read as the version. -/
def Disk.Offers (d : Disk) (path name : String) (v : Version) : Prop :=
  d.HasDirectory path name ∧ Version.parse name = .ok v

namespace LinkedRuntime

theorem inquires_ofFile (path : String) :
    Inquires (ofFile path : ExceptT HeaderError Run LinkedRuntime) :=
  ((inquires_readText _).adapt _).bind fun _ => inquires_mk _

end LinkedRuntime

namespace Selection

variable {packages : Packages} {s : Settings} {d : Disk}

theorem inquires_available (path : String) : Inquires (available path : StorageT Run _) :=
  (inquires_sortedNames path).bind fun _ =>
    (inquires_filterM (fun _ => inquires_isDirectory _) _).bind fun _ => inquires_pure _

theorem filterM_isDirectory_run {path : String} (names : List String) :
    (names.filterM fun name => (ExceptT.lift (isDirectory (Path.join path name)) :
      StorageT Run Bool)).run d
        = (.ok (names.filter fun name => d.kindOf (Path.join path name) == some .directory), d) :=
  filterM_of_ok fun name _ => by rw [run_lift, isDirectory_eq]

/-- The available versions are those that directories are named by. -/
theorem mem_available {path : String} {versions : List Version}
    (h : d.answer (available path : StorageT Run _) = .ok versions) {v : Version} :
    v ∈ versions ↔ ∃ name, d.Offers path name v := by
  rw [available, answer_bind (inquires_sortedNames path)] at h
  obtain ⟨names, hnames, h⟩ := Attempt.bind_eq_ok h
  rw [answer, run_bind_of_ok (filterM_isDirectory_run names)] at h
  cases h
  rw [Version.sort, List.mem_mergeSort, List.mem_filterMap]
  constructor
  · rintro ⟨name, hname, hv⟩
    rw [List.mem_filter, mem_sortedNames hnames, beq_iff_eq] at hname
    exact ⟨name, ⟨hname.1.1, hname.1.2, hname.2⟩, Attempt.eq_ok_of_toOption hv⟩
  · rintro ⟨name, hname, hv⟩
    refine ⟨name, ?_, by rw [hv]; rfl⟩
    rw [List.mem_filter, mem_sortedNames hnames, beq_iff_eq]
    exact ⟨⟨hname.above, hname.listed⟩, hname.directory⟩

/-- A directory has no name that is too long for its version to be compared. -/
theorem isComparable_of_offers {path name : String} {v : Version} (h : d.Offers path name v) :
    v.isComparable = true :=
  Version.isComparable_of_place (kindOf_eq_directory h.1.directory).1
    (Path.names_subset_join path name) List.infix_rfl h.2

/-- So whatever order the versions are found in, they are sorted as any versions are. -/
theorem sortChecked_of_available {path : String} {versions found : List Version}
    (h : d.answer (available path : StorageT Run _) = .ok versions) (hperm : found.Perm versions) :
    Version.sortChecked found = .ok (Version.sort found) := by
  refine Version.sortChecked_of_isComparable fun v hv => ?_
  obtain ⟨name, hname⟩ := (mem_available h).1 (hperm.mem_iff.1 hv)
  exact isComparable_of_offers hname

theorem inquires_headerVersion? (s : Settings) :
    Inquires (headerVersion? s : ExceptT SelectionError Run _) := by
  rw [headerVersion?]
  split
  · exact inquires_pure none
  · split
    · exact inquires_pure none
    · exact ((LinkedRuntime.inquires_ofFile _).adapt _).bind fun _ => inquires_pure _

theorem inquires_linkedVersion (packages : Packages) (s : Settings) :
    Inquires (linkedVersion packages s : ExceptT SelectionError Run _) := by
  rw [linkedVersion]
  split
  · split
    · exact inquires_pure _
    · exact inquires_throw _
  · refine (inquires_headerVersion? s).bind fun version => ?_
    split
    · exact inquires_pure _
    · exact inquires_throw _

theorem inquires_select (packages : Packages) (s : Settings) :
    Inquires (select packages s : ExceptT SelectionError Run _) :=
  (inquires_linkedVersion packages s).bind fun _ =>
    ((inquires_available _).adapt _).bind fun _ =>
      (inquires_mk _).bind fun _ => (inquires_mk _).bind fun _ => inquires_pure _

/-! ## The choice -/

/-- The version may serve the linked runtime, and no available one that may serve it is above. -/
structure IsBest (selected : Selection) (linked : Version) (mode : CompatMode) (s : Settings)
    (d : Disk) : Prop where
  offered : ∃ name, d.Offers s.versionedDir name selected.version
  compatible : Version.isCompatible mode selected.version linked = true
  greatest : ∀ name v, d.Offers s.versionedDir name v → Version.isCompatible mode v linked = true →
    selected.version.before v = false

theorem isWritten_of_offers {path name : String} {v : Version} (h : d.Offers path name v) :
    v.IsWritten := Version.isWritten_of_parse h.2

/-- A directory that has the name which a version is written as is a directory of that version. -/
theorem offers_text {path name : String} {v : Version} (h : d.Offers path name v)
    (hkind : d.kindOf (Path.join path v.text) = some .directory) : d.Offers path v.text v := by
  refine ⟨⟨h.1.above, ?_, hkind⟩, Version.parse_text h.2⟩
  have hnode := (kindOf_eq_directory hkind).2
  rw [spot_join_name d path (Version.isName_text (isWritten_of_offers h))] at hnode
  exact mem_namesAt.2 (by rw [hnode]; exact nofun)

/-- What the settings choose on a disk. -/
structure IsChosen (selected : Selection) (packages : Packages) (s : Settings) (d : Disk) :
    Prop where
  best : ∃ linked mode,
    (linkedVersion packages s : ExceptT SelectionError Run _).run d = (.ok linked, d) ∧
      s.compat = .ok mode ∧ selected.IsBest linked mode s d
  path : selected.path = Path.join s.versionedDir selected.version.text
  /-- The place of the path is directly in the versioned directory. -/
  spot : d.spot selected.path = d.spot s.versionedDir ++ [selected.version.text]
  /-- A directory is there only if it has the name that the version is written as. -/
  leads : d.kindOf selected.path = some .directory ↔
    d.HasDirectory s.versionedDir selected.version.text

/-- Selecting changes nothing and answers the greatest version that may serve the linked runtime,
with the path that belongs to it. -/
theorem select_eq_ok {selected : Selection} {d' : Disk}
    (h : (select packages s : ExceptT SelectionError Run _).run d = (.ok selected, d')) :
    d' = d ∧ selected.IsChosen packages s d := by
  obtain ⟨h, rfl⟩ := (inquires_select packages s).of_run h
  rw [select, answer_bind (inquires_linkedVersion packages s)] at h
  obtain ⟨linked, hlinked, h⟩ := Attempt.bind_eq_ok h
  rw [answer_bind ((inquires_available _).adapt _)] at h
  obtain ⟨found, hfound, h⟩ := Attempt.bind_eq_ok h
  have hfound := Attempt.mapError_eq_ok hfound
  rw [answer_bind (inquires_mk _)] at h
  obtain ⟨mode, hmode, h⟩ := Attempt.bind_eq_ok h
  rw [answer_bind (inquires_mk _)] at h
  obtain ⟨version, hversion, h⟩ := Attempt.bind_eq_ok h
  rw [answer_mk] at hversion hmode
  rw [answer_pure] at h
  obtain rfl := Except.ok.inj h
  obtain ⟨hmem, hcompatible, hgreatest⟩ := Version.resolve_eq_ok
    (Version.resolve_of_resolveChecked (Attempt.mapError_eq_ok hversion))
  obtain ⟨name, hname⟩ := (mem_available hfound).1 hmem
  refine ⟨rfl, ⟨linked, mode, ?_, Attempt.mapError_eq_ok hmode, ⟨name, hname⟩, hcompatible,
    fun other v hother => hgreatest v ?_⟩, rfl, ?_, ?_⟩
  · rw [(inquires_linkedVersion packages s).run_eq, hlinked]
  · exact (mem_available hfound).2 ⟨other, hother⟩
  · exact Version.spot_directory (isWritten_of_offers hname) d' s.versionedDir
  · exact ⟨fun hkind => (offers_text hname hkind).1, fun hthere => hthere.directory⟩

/-! ## Snapshots on a shelf -/

/-- A disk with empty directories of these names in the directory `d`. -/
def shelf (names : List String) : Disk :=
  { Disk.empty [] with
    nodes := (["d"], .directory) :: names.map fun name => (["d", name], .directory) }

def shelfSettings (mode : CompatMode) (linked : String) : Settings :=
  { Settings.default with
    versionedDir := "d", compatMode := mode.word, linkedVersion := some linked }

/-- An older snapshot may serve the runtime in the caret mode. -/
theorem select_eq_ok_caret : ∃ selected d',
    (select (fun _ => none) (shelfSettings .caret "1.2.0") : ExceptT SelectionError Run _).run
      (shelf ["1.1.0"]) = (.ok selected, d') ∧
    d' = shelf ["1.1.0"] ∧
    selected.IsChosen (fun _ => none) (shelfSettings .caret "1.2.0") (shelf ["1.1.0"]) := by
  have hsome : ((select (fun _ => none) (shelfSettings .caret "1.2.0") :
      ExceptT SelectionError Run _).run (shelf ["1.1.0"])).1.toOption.isSome = true := by
    decide +kernel
  obtain ⟨selected, hselected⟩ := Option.isSome_iff_exists.1 hsome
  obtain ⟨d', hrun⟩ := run_eq_ok_of_toOption hselected
  exact ⟨selected, d', hrun, select_eq_ok hrun⟩

/-- The one directory is named by a version with build metadata, and the selected path leads
nowhere. -/
theorem select_metadata : ∃ selected,
    (select (fun _ => none) (shelfSettings .exact "1.0.0") : ExceptT SelectionError Run _).run
      (shelf ["1.0.0+b"]) = (.ok selected, shelf ["1.0.0+b"]) ∧
    (shelf ["1.0.0+b"]).kindOf selected.path = none := by
  have hpath : ((select (fun _ => none) (shelfSettings .exact "1.0.0") :
      ExceptT SelectionError Run _).run (shelf ["1.0.0+b"])).1.toOption.map Selection.path
        = some "d/1.0.0" := by decide +kernel
  obtain ⟨selected, hselected, hpath⟩ := Option.map_eq_some_iff.1 hpath
  obtain ⟨d', hrun⟩ := run_eq_ok_of_toOption hselected
  obtain ⟨-, rfl⟩ := (inquires_select _ _).of_run hrun
  refine ⟨selected, hrun, ?_⟩
  rw [hpath]
  decide +kernel

end Selection

end ControlSchema
