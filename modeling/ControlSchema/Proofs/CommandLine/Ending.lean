import ControlSchema.Proofs.Artifact.Verdict
import ControlSchema.Proofs.CommandLine.Steps
import ControlSchema.Proofs.Document
import ControlSchema.Proofs.Release.Faults
import ControlSchema.Proofs.Session
import ControlSchema.Readers.Standard

/-!
# How programs end

A program that was given a command should end with an exit code, and after a report if
the command failed. Most failures are expected: a fault of storage is turned into an
error of the layer that it comes up in, and such errors are reported. Some faults of
storage and of values are not turned into anything, and they interrupt the program.

The failure of a command is followed to the step that it comes from. In each step either
the error has a report, or what is on the disk is one of the listed ways to fail without
one. What is read in directories of releases and in snapshot directories is not among
them: it was found there before. Neither is the place that snapshots are written to, as
writing turns every fault into an error.

That leaves what is asked for under names that are longer than names can be, a
repository that git or the disk does not give, the versioned directory, which is listed
without a look at what it is, the header of the runtime, the contents of a manifest that
is checked, the directory that is made for an installation, the file that a header is
written to, and scalars of documents. The usual settings are loaded before any command,
so a fault of theirs interrupts even a program that is only asked for help.
-/

namespace ControlSchema

open Disk Storage

namespace CommandLine

variable {α β : Type} {s : Settings} {d d' : Disk} {e : CommandError}

/-! ## Failures without a report -/

/-- Of what ends the reading of releases only faults of storage are not reported. -/
theorem storage_of_report? {fault : ReleaseFault} (h : (CommandError.source fault).report? = none) :
    ∃ cause, fault = .reading (.storage cause) := by
  cases fault with
  | source error => cases h
  | reading error =>
    cases error with
    | storage cause => exact ⟨cause, rfl⟩
    | encoding fault => cases h

namespace CommandError

theorem badScalar_of_report? {error : ReleaseError} (h : (release error).report? = none) :
    ∃ fault, fault ≠ .badValue ∧ error = .document (.badScalar fault) := by
  cases error with
  | repeated error => cases h
  | document error =>
    cases error with
    | badScalar fault =>
      refine ⟨fault, ?_, rfl⟩
      rintro rfl
      cases h
    | badEntry file name error => cases error <;> cases h
    | _ => cases h

/-- The faults of checking that no report is made of: what the manifest records is not as expected,
or a recorded file cannot be read. -/
inductive Unforeseen : ArtifactFault → Prop
  | infiniteLayout : Unforeseen .infiniteLayout
  | untypedNames : Unforeseen .untypedNames
  /-- Names that are no texts cannot be joined into a report. -/
  | untypedReport {names : List Json.Value} : Unforeseen (.untypedReport names)
  | notJson : Unforeseen (.undigested .notJson)
  | reading {cause : StorageError} : Unforeseen (.reading (.storage cause))

end CommandError

/-! ## Selecting and installing -/

/-- The release that is stored as the snapshot of the version with the given text. -/
def Stored (s : Settings) (d : Disk) (text : String) (release : Release) : Prop :=
  ∃ version, Version.parse text = .ok version ∧
    d.answer (Release.ofSnapshotDirectory (version.directory s.versionedDir) (some version))
      = .ok release

/-- The command shows something of the snapshot of a version that is given by its text. -/
inductive Shows : Command → String → Prop
  | header {text : String} {file : Option String} : Shows (.header text file) text
  | catalogue {text : String} {category : Category} {rows : Int} :
      Shows (.catalogue text category rows) text

/-- The releases whose documents a command reads. -/
inductive Reads (git : Git Run) (s : Settings) (d : Disk) : Command → Release → Prop
  | generated {source : Option String} {tags : Option (List String)} {releases : List Release}
      {release : Release}
      (hreleases : d.answer (releasesFrom git s source tags) = .ok (.ok releases))
      (hrelease : release ∈ releases) : Reads git s d (.generate source tags) release
  | stored {command : Command} {text : String} {release : Release} (hshows : Shows command text)
      (hstored : Stored s d text release) : Reads git s d command release

/-- What keeps releases from being read, without being a fault of their source. -/
inductive Unread (git : Git Run) (s : Settings) (d : Disk) :
    Option String → Option (List String) → StorageError → Prop
  | source {path : String} {tags : Option (List String)} (hpath : d.Unreachable (Path.tidy path)) :
      Unread git s d (some path) tags ⟨.nameTooLong, Path.tidy path, none⟩
  | tag {path tag : String} {tags : List String} (htag : tag ∈ tags)
      (hpath : d.Unreachable (ReleaseSource.tagDirectory (Path.tidy path) tag)) :
      Unread git s d (some path) (some tags)
        ⟨.nameTooLong, ReleaseSource.tagDirectory (Path.tidy path) tag, none⟩
  | repository {tags : Option (List String)} {cause : StorageError}
      (hdenies : ReleaseSource.Denies git s.gitDir d cause) : Unread git s d none tags cause

/-- Reading the releases in a directory changes nothing, and only its own path or that of a given
tag's directory may not be followed. -/
theorem spares_releasesFrom (git : Git Run) (s : Settings) (path : String)
    (tags : Option (List String)) :
    d.Spares (fun asked => asked = Path.tidy path ∨
        ∃ tag ∈ tags.getD [], asked = ReleaseSource.tagDirectory (Path.tidy path) tag)
      (releasesFrom git s (some path) tags) := by
  refine (ReleaseSource.spares_ofDirectory (.inl rfl)).bind fun source hsource => ?_
  obtain ⟨hdirectory, rfl⟩ := ReleaseSource.kindOf_of_ofDirectory (congrArg Prod.fst hsource)
  exact (Release.spares_readAllChecked hdirectory tags).mono fun _ hasked _ => .inr hasked

/-- What gets through while releases are read is told by the disk as it was, and by git. -/
theorem unread_of_releasesFrom {git : Git Run} {source : Option String}
    {tags : Option (List String)} {cause : StorageError}
    (h : (releasesFrom git s source tags).run d = (.error (.reading (.storage cause)), d')) :
    Unread git s d source tags cause := by
  cases source with
  | none =>
    rw [releasesFrom] at h
    obtain h | ⟨source, d₁, hsource, h⟩ := run_bind_eq_error h
    · exact .repository (ReleaseSource.denies_of_ofRepository h)
    obtain ⟨path, d₂, -, hpure⟩ := run_bind_eq_ok hsource
    cases hpure
    exact .repository (.git (ReleaseSource.ends_readAllChecked tags d₁ d' cause h))
  | some path =>
    obtain ⟨_, rfl | ⟨tag, htag, rfl⟩, hunreachable, rfl⟩ :=
      (spares_releasesFrom git s path tags).fault cause (congrArg Prod.fst h)
    · exact .source hunreachable
    · cases tags with
      | none => cases htag
      | some tags => exact .tag htag hunreachable

/-- The failures of a command that no report is made of, by what is on the disk. -/
inductive Escapes [Readers] (tools : Tools Run) (s : Settings) (d : Disk) :
    Command → CommandError → Prop
  /-- What the settings name as the directory of the snapshots is there and cannot be listed. -/
  | versions {fault : StorageFault} (hnames : d.names s.versionedDir = .error fault)
      (hfault : fault ≠ .missing) : Escapes tools s d .versions
        (.storage ⟨fault, s.versionedDir, none⟩)
  | unlisted {destination : Option String} {linked : Version} {fault : StorageFault}
      (hlinked : d.answer (Selection.linkedVersion tools.packages s) = .ok linked)
      (hnames : d.names s.versionedDir = .error fault) (hfault : fault ≠ .missing) :
      Escapes tools s d (.select destination)
        (.selection (.unlisted ⟨fault, s.versionedDir, none⟩))
  /-- The settings name no version, and the header that they name cannot be read. -/
  | header {destination : Option String} {path : String} {fault : StorageFault}
      (hlinked : s.linkedVersion.filter (fun text => !text.isEmpty) = none)
      (hheader : s.runtimeHeader = some path) (hpath : path ≠ "")
      (hread : d.read (Path.tidy path) = .error fault) : Escapes tools s d (.select destination)
        (.selection (.header (.unreadable (.storage ⟨fault, Path.tidy path, none⟩))))
  /-- The check of the selected snapshot ends without a verdict about its files. -/
  | unchecked {destination : String} {selected : Selection} {fault : ArtifactFault}
      (hselect : d.answer (Selection.select tools.packages s) = .ok selected)
      (hverdict : Manifest.Verdict d selected.path (.error fault))
      (hfault : CommandError.Unforeseen fault) :
      Escapes tools s d (.select (some destination)) (.artifact fault)
  /-- The directory to install into cannot be made. -/
  | destination {destination : String} {selected : Selection} {error : StorageError} {d' : Disk}
      (hselect : d.answer (Selection.select tools.packages s) = .ok selected)
      (hintact : d.answer (Manifest.verify selected.path) = .ok [])
      (hmake : (makeDirectories destination true : StorageT Run Unit).run d = (.error error, d')) :
      Escapes tools s d (.select (some destination)) (.storage error)
  | unread {source : Option String} {tags : Option (List String)} {cause : StorageError}
      (hunread : Unread tools.git s d source tags cause) :
      Escapes tools s d (.generate source tags) (.source (.reading (.storage cause)))
  /-- A name on the way to the snapshot is longer than names can be. -/
  | unreachable {command : Command} {text : String} {version : Version}
      (hshows : Shows command text) (hversion : Version.parse text = .ok version)
      (hpath : d.Unreachable (Path.tidy (version.directory s.versionedDir))) :
      Escapes tools s d command (.source (.reading
        (.storage ⟨.nameTooLong, Path.tidy (version.directory s.versionedDir), none⟩)))
  /-- A scalar of a document is no value of its type, and not for the reason that is reported. -/
  | scalar {command : Command} {release : Release} {category : Category} {file text : String}
      {fault : Yaml.Fault} (hreads : Reads tools.git s d command release)
      (hparse : release.parse = .error (.document (.badScalar fault)))
      (hdocument : (file, text) ∈ release.documents category)
      (hread : Readers.yaml text = .error fault) (hmalformed : fault ≠ .malformed)
      (hvalue : fault ≠ .badValue) :
      Escapes tools s d command (.release (.document (.badScalar fault)))
  /-- The file for the header cannot be written. -/
  | output {version file : String} {release : Release} {snapshot : Snapshot} {error : StorageError}
      (hstored : Stored s d version release) (hparse : release.parse = .ok snapshot)
      (hwrite : d.Refused (Path.tidy file) none
        (fun fault => d.write (Path.tidy file) (Header.text snapshot).toUTF8 = .error fault)
        error) :
      Escapes tools s d (.header version (some file)) (.storage error)

section

variable [Readers] {tools : Tools Run}

/-! ### Selecting -/

end

/-! ## Programs -/

/-- A program ends with an exit code, and reports the failure of its command. -/
structure Ends (fails : CommandError → Prop) (misused : Prop) (ending : Ending) : Prop where
  code : ∃ code ∈ [0, 1, 2], ending.exitCode? = some code
  failure : ending.exitCode? = some 1 ↔ ∃ e, fails e
  misuse : ending.exitCode? = some 2 ↔ misused
  report : ending.exitCode? = some 1 →
    ∃ e text, fails e ∧ e.report? = some text ∧ ending.report = "[ERROR] " ++ text ++ "\n"

theorem inquires_settings (i : Invocation) (environment : Settings.Environment) :
    Inquires (i.settings environment : ExceptT ConfigurationFault Run Settings) :=
  (Settings.inquires_load environment i.config).bind fun _ => inquires_pure _

section

variable [Readers] {tools : Tools Run}

/-- The command of a program fails with the error. -/
def Fails (environment : Settings.Environment) (tools : Tools Run) (d : Disk) (name : String)
    (rest : List String) (e : CommandError) : Prop :=
  ∃ i, Invocation.read name rest = .ok i ∧
    (((i.execute environment tools : CommandT Run Unit).run.run "").run d).1.1 = .error e

theorem run_eq (environment : Settings.Environment) (tools : Tools Run) (name : String)
    (rest : List String) (d : Disk) :
    (run environment tools (name :: rest) : Run Outcome) d
      = match d.answer (Settings.load environment none) with
        | .error fault => (⟨.interrupted (.configuration fault), ""⟩, d)
        | .ok _ => match Invocation.read name rest with
          | .error .help => (⟨.success, usage⟩, d)
          | .error .misuse => (⟨.misuse, ""⟩, d)
          | .ok i =>
            let done := ((i.execute environment tools : CommandT Run Unit).run.run "").run d
            (Outcome.ofResult done.1.1 done.1.2, done.2) := by
  have hload : (Settings.load environment none : ExceptT ConfigurationFault Run _).run d
      = (d.answer (Settings.load environment none), d) :=
    (Settings.inquires_load environment none).run_eq d
  rw [run.eq_def]
  dsimp only
  rw [bind_apply, hload]
  cases d.answer (Settings.load environment none : ExceptT ConfigurationFault Run _) with
  | error fault => rfl
  | ok settings =>
    dsimp only
    cases Invocation.read name rest with
    | ok i => rfl
    | error refusal => cases refusal <;> rfl

end

/-- A machine without the other programs. -/
def bareTools : Tools Run := ⟨fun _ => none, fun _ _ => throw ⟨.missing, "git", none⟩⟩

section

attribute [local instance] Readers.standard

end

end CommandLine

end ControlSchema
