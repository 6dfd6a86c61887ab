import ControlSchema.Proofs.Artifact.Storing
import ControlSchema.Proofs.CommandLine.Ending
import ControlSchema.Proofs.Release.Collection

/-!
# Generating snapshots

All releases are read before anything is written. Then they are taken one after another in
the order of their versions: a release is parsed, its files are rendered, and only then the
directory of its version is replaced. So the first release that cannot be parsed or rendered
stops the command with the directories of those in front of it replaced. Everything else is
as it was, the directory of the release that stopped it included.

The induction is on the releases that are still to come, and what it carries along is that
those so far have been replaced. One more replacement keeps the others: no two releases are
of one version, a version is told by its text, and what stands beside a directory does not
change with it.
-/

namespace ControlSchema

open Disk Storage

/-! ## Directories beside each other -/

section

variable {d d' : Disk} {above : Trail} {name other : String} {files : Table String String}

/-- A directory keeps its files while one beside it is replaced. -/
theorem Disk.Holds.of_evolves (h : d.Holds (above ++ [name]) files) (hne : name ≠ other)
    (hevolves : Evolves ((grown above).except (above ++ [other])) d d') :
    d'.Holds (above ++ [name]) files := by
  have hkept {place : Trail} (hplace : above ++ [name] <+: place) :
      d'.node? place = d.node? place :=
    eq_of_grown hplace ((hevolves.nodes place).resolve_right (disjoint_of_ne hne hplace))
  refine ⟨hevolves.sound, ?_, fun inner => ?_, h.short⟩
  · rw [hkept List.prefix_rfl, h.directory]
  · rw [hkept (List.prefix_append _ _), h.nodes]

theorem Release.Collected.text_ne {r old : Release} (hr : r.Collected) (hold : old.Collected)
    (hne : old.version ≠ r.version) : old.version.text ≠ r.version.text := by
  intro htext
  have hparse := hold.version
  rw [htext, hr.version] at hparse
  exact hne (Except.ok.inj hparse).symm

end

namespace CommandLine

variable {s : Settings} {d d₁ d' : Disk} {above : Trail} {r : Release}
  {releases : List Release} {result : Except CommandError Unit}

/-! ## Releases in a directory -/

/-- The releases in a directory, or those of the given tags among them. -/
def releasesIn (path : String) (tags : Option (List String)) :
    ExceptT ReleaseFault Run (List Release) := do
  Release.readAll (← ReleaseSource.ofDirectory path) tags

/-- They are what the command reads, and reading them changes nothing. -/
theorem run_releasesFrom (git : Git Run) (s : Settings) (path : String)
    (tags : Option (List String)) (d : Disk) : (releasesFrom git s (some path) tags).run d
      = ((d.answer (releasesIn path tags)).map .ok, d) := by
  refine Prod.ext ?_ (spares_releasesFrom git s path tags).disk
  have hsource : d.Spares (· = Path.tidy path) (ReleaseSource.ofDirectory path) :=
    ReleaseSource.spares_ofDirectory rfl
  show d.answer (ReleaseSource.ofDirectory path >>= fun source =>
    Release.readAllChecked source tags) = _
  rcases hrun : (ReleaseSource.ofDirectory path : ExceptT _ Run (ReleaseSource Run)).run d
    with ⟨outcome, d'⟩
  obtain rfl : d' = d := by rw [← hsource.disk, hrun]
  cases outcome with
  | error fault =>
    rw [releasesIn, answer, answer, run_bind_of_error hrun, run_bind_of_error hrun]
    rfl
  | ok source =>
    obtain ⟨-, rfl⟩ := ReleaseSource.kindOf_of_ofDirectory (congrArg Prod.fst hrun)
    rw [releasesIn, answer, answer, run_bind_of_ok hrun, run_bind_of_ok hrun]
    exact Release.answer_readAllChecked_inDirectory _ tags d'

/-! ## Replaced directories -/

/-- A place is as before, unless it is in one of the directories, or is now a directory that leads
to them. -/
def rewritten (above : Trail) (names : List String) : Fate := fun place before after =>
  grown above place before after ∨ ∃ name ∈ names, above ++ [name] <+: place

theorem steady_rewritten (above : Trail) (names : List String) :
    (rewritten above names).Steady where
  refl := fun place node => Or.inl ((steady_grown above).refl place node)
  trans := by
    rintro place a b c (hab | hinside) (hbc | hinside')
    · exact Or.inl ((steady_grown above).trans place a b c hab hbc)
    · exact Or.inr hinside'
    · exact Or.inr hinside
    · exact Or.inr hinside

section

variable [Readers]

/-- The snapshots of these releases have been written to the directory at a place, each over what
stood in its place before. -/
structure Replaced (above : Trail) (written : List Release) (d d' : Disk) : Prop where
  /-- Nothing else has changed. -/
  evolves : Evolves (rewritten above (written.map (·.version.text))) d d'
  fresh : ∀ r ∈ written, ∃ snapshot files, r.parse = .ok snapshot ∧
    r.render snapshot writtenAt = .ok files ∧ d'.Holds (above ++ [r.version.text]) files

theorem Replaced.nil (hd : d.Sound) (above : Trail) : Replaced above [] d d :=
  ⟨Evolves.refl (steady_rewritten above []) hd, List.forall_mem_nil _⟩

/-- One more release is written. -/
theorem Replaced.add {written : List Release} (h : Replaced above written d d₁)
    (hr : r.Collected) (hnew : ∀ old ∈ written, old.version.text ≠ r.version.text)
    {snapshot : Snapshot} (hparse : r.parse = .ok snapshot) {versionedDir path : String}
    (habove : d.spot versionedDir = above)
    (hwrite : (r.write snapshot versionedDir : ExceptT WriteError Run String).run d₁
      = (.ok path, d')) : Replaced above (written ++ [r]) d d' := by
  have hspot : d₁.spot versionedDir = above := (h.evolves.spot versionedDir).trans habove
  have hevolves := Release.evolves_of_write hr hparse h.evolves.sound hwrite
  obtain ⟨-, files, hrender, hholds, -⟩ :=
    Release.write_eq_ok hr hparse h.evolves.sound hwrite
  rw [hspot, Release.version_of_parse hparse] at hevolves hholds
  refine ⟨Evolves.trans (steady_rewritten above _) (h.evolves.mono ?_) (hevolves.mono ?_), ?_⟩
  · refine fun place before after hfate => hfate.imp_right ?_
    rintro ⟨name, hname, hinside⟩
    exact ⟨name, by rw [List.map_append]; exact List.mem_append_left _ hname, hinside⟩
  · refine fun place before after hfate => hfate.imp_right fun hinside => ?_
    exact ⟨r.version.text, by simp, hinside⟩
  · intro old hold
    rcases List.mem_append.1 hold with hold | hold
    · obtain ⟨snapshot', files', hparse', hrender', hholds'⟩ := h.fresh old hold
      exact ⟨snapshot', files', hparse', hrender', hholds'.of_evolves (hnew old hold) hevolves⟩
    · rw [List.mem_singleton.1 hold]
      exact ⟨snapshot, files, hparse, hrender, hholds⟩

/-! ## One release -/

/-- A release cannot be parsed, or the files of its snapshot cannot be rendered. -/
inductive Refused (r : Release) : CommandError → Prop
  | unparsed {error : ReleaseError} (hparse : r.parse = .error error) : Refused r (.release error)
  | unrendered {snapshot : Snapshot} {error : GenerationError} (hparse : r.parse = .ok snapshot)
      (hrender : r.render snapshot writtenAt = .error error) : Refused r (.generation error)

/-- A release is refused before anything is written, or it is written, or writing it fails. -/
theorem leads_generateRelease (h : Leads (generateRelease s r) d result d') :
    (∃ e, result = .error e ∧ Refused r e ∧ d' = d) ∨
    ∃ snapshot, r.parse = .ok snapshot ∧ ((∃ path, result = .ok () ∧
        (r.write snapshot s.versionedDir : ExceptT WriteError Run String).run d = (.ok path, d')) ∨
      ∃ error, result = .error (.ofWriting error) ∧
        (r.write snapshot s.versionedDir : ExceptT WriteError Run String).run d
          = (.error error, d')) := by
  rw [generateRelease] at h
  obtain ⟨error, hparse, rfl, rfl⟩ | ⟨snapshot, hparse, h⟩ := leads_purely_bind h
  · exact .inl ⟨_, rfl, .unparsed hparse, rfl⟩
  refine .inr ⟨snapshot, hparse, ?_⟩
  obtain ⟨e, rfl, hwrite⟩ | ⟨path, d₁, hwrite, hprint⟩ := leads_bind h
  · obtain ⟨hresult, rfl⟩ := leads_silently hwrite
    obtain ⟨error, herror, rfl⟩ := Attempt.mapError_eq_error hresult.symm
    exact .inr ⟨error, rfl, run_of_answer herror⟩
  · obtain ⟨hresult, rfl⟩ := leads_silently hwrite
    obtain ⟨rfl, rfl⟩ := leads_print hprint
    exact .inl ⟨path, rfl, run_of_answer (Attempt.mapError_eq_ok hresult.symm)⟩

/-! ## All releases -/

/-- How the snapshots of releases come to be generated, on a disk that nothing has been written to
yet: all of them, or those in front of the first release that is refused. Writing a snapshot may
fail as well, and what is left then is what writing leaves. -/
inductive Generates (versionedDir : String) (releases : List Release) (d : Disk) :
    Except CommandError Unit → Disk → Prop
  | all {d' : Disk} (hwritten : Replaced (d.spot versionedDir) releases d d') :
      Generates versionedDir releases d (.ok ()) d'
  | upTo {before after : List Release} {r : Release} {e : CommandError} {d' : Disk}
      (hreleases : releases = before ++ r :: after)
      (hwritten : Replaced (d.spot versionedDir) before d d') (hrefused : Refused r e) :
      Generates versionedDir releases d (.error e) d'
  | abandoned {before after : List Release} {r : Release} {cause : StorageError} {d₁ d' : Disk}
      (hreleases : releases = before ++ r :: after)
      (hwritten : Replaced (d.spot versionedDir) before d d₁)
      (habandoned : Release.Abandoned d₁ d' (d.spot versionedDir) r.version.text
        (r.version.directory versionedDir) cause) :
      Generates versionedDir releases d (.error (.artifact (.artifact
        (.unwritten r.version (r.version.directory versionedDir) cause)))) d'

/-- The releases that are left are generated after those that were. -/
theorem generates_of_forM (hcollected : ∀ r ∈ releases, r.Collected)
    (hnodup : (releases.map (·.version)).Nodup) {before rest : List Release}
    (hreleases : releases = before ++ rest)
    (hwritten : Replaced (d.spot s.versionedDir) before d d₁)
    (h : Leads (rest.forM (generateRelease s)) d₁ result d') :
    Generates s.versionedDir releases d result d' := by
  induction rest generalizing before d₁ with
  | nil =>
    obtain ⟨output, output', h⟩ := h
    cases h
    rw [List.append_nil] at hreleases
    exact .all (hreleases ▸ hwritten)
  | cons r rest ih =>
    have hr := hcollected r (by simp [hreleases])
    obtain ⟨e, rfl, hfirst⟩ | ⟨_, d₂, hfirst, hlater⟩ :=
      leads_bind (x := generateRelease s r) (f := fun _ => rest.forM (generateRelease s)) h
    · obtain ⟨e', he, hrefused, rfl⟩ | ⟨snapshot, hparse, ⟨path, he, -⟩ | ⟨error, he, hwrite⟩⟩ :=
        leads_generateRelease hfirst
      · cases he
        exact .upTo hreleases hwritten hrefused
      · cases he
      · cases he
        have hversion := Release.version_of_parse hparse
        obtain ⟨g, hrender, rfl, rfl⟩ | ⟨cause, rfl, habandoned⟩ := Release.write_eq_error hr.names
          (hversion ▸ Version.isWritten_of_parse hr.version) hwritten.evolves.sound hwrite
        · exact .upTo hreleases hwritten (.unrendered hparse hrender)
        · rw [hwritten.evolves.spot, hversion] at habandoned
          rw [hversion]
          exact .abandoned hreleases hwritten habandoned
    · obtain ⟨e', he, -⟩ | ⟨snapshot, hparse, ⟨path, -, hwrite⟩ | ⟨error, he, -⟩⟩ :=
        leads_generateRelease hfirst
      · cases he
      · have hnew : ∀ old ∈ before, old.version.text ≠ r.version.text := by
          intro old hold
          rw [hreleases, List.map_append, List.nodup_append] at hnodup
          refine hr.text_ne (hcollected old (by simp [hreleases, hold])) ?_
          exact hnodup.2.2 _ (List.mem_map_of_mem hold) _ List.mem_cons_self
        refine ih ?_ (hwritten.add hr hnew hparse rfl hwrite) hlater
        rw [hreleases, List.append_assoc, List.singleton_append]
      · cases he

/-! ## From a directory -/

/-- How the command ends that generates the snapshots of the releases in a directory. If they cannot
all be read, nothing has changed. -/
inductive GeneratesFrom (s : Settings) (path : String) (tags : Option (List String)) (d : Disk) :
    Except CommandError Unit → Disk → Prop
  | unread {fault : ReleaseFault} (hreleases : d.answer (releasesIn path tags) = .error fault) :
      GeneratesFrom s path tags d (.error (.source fault)) d
  | read {releases : List Release} {result : Except CommandError Unit} {d' : Disk}
      (hreleases : d.answer (releasesIn path tags) = .ok releases)
      (hnodup : (releases.map (·.version)).Nodup)
      (hordered : releases.Pairwise fun a b => a.version.atMost b.version = true)
      (hgenerates : Generates s.versionedDir releases d result d') :
      GeneratesFrom s path tags d result d'

theorem generatesFrom_of_leads {git : Git Run} (hd : d.Sound) {path : String}
    {tags : Option (List String)} (h : Leads (generate git s (some path) tags) d result d') :
    GeneratesFrom s path tags d result d' := by
  have hanswer : d.answer (releasesFrom git s (some path) tags) = _ :=
    congrArg Prod.fst (run_releasesFrom git s path tags d)
  rw [generate.eq_def] at h
  have h := leads_ask_bind (spares_releasesFrom git s path tags).disk h
  rw [hanswer] at h
  cases hreleases : d.answer (releasesIn path tags) with
  | error fault =>
    obtain ⟨cause, hcause, rfl, rfl⟩ | ⟨outcome, houtcome, -⟩ := h
    · rw [hreleases] at hcause
      cases hcause
      exact .unread hreleases
    · rw [hreleases] at houtcome
      cases houtcome
  | ok releases =>
    obtain ⟨cause, hcause, -⟩ | ⟨outcome, houtcome, h⟩ := h
    · rw [hreleases] at hcause
      cases hcause
    rw [hreleases] at houtcome
    cases houtcome
    obtain ⟨error, herror, -⟩ | ⟨_, heq, h⟩ := leads_purely_bind h
    · cases herror
    cases heq
    obtain ⟨source, d₁, -, hrun⟩ := run_bind_eq_ok (run_of_answer hreleases)
    refine .read hreleases (Release.nodup_of_readAll hrun) (Release.pairwise_of_readAll hrun) ?_
    split at h
    · next hempty =>
      obtain ⟨rfl, rfl⟩ := leads_print h
      rw [List.isEmpty_iff.1 hempty]
      exact .all (.nil hd _)
    · exact generates_of_forM (Release.collected_of_readAll hrun) (Release.nodup_of_readAll hrun)
        rfl (.nil hd _) h

/-! ## The program -/

/-- How the program ends with the result of its command. Two kinds of failure have no report: that
releases are looked for under names which are too long, and that a scalar is no value of its type
for a reason that is not expected. -/
inductive Closes (git : Git Run) (s : Settings) (path : String) (tags : Option (List String))
    (d : Disk) : Except CommandError Unit → Ending → Prop
  | success : Closes git s path tags d (.ok ()) .success
  | failure {e : CommandError} {text : String} (hreport : e.report? = some text) :
      Closes git s path tags d (.error e) (.failure text)
  | unread {cause : StorageError} (hunread : Unread git s d (some path) tags cause) :
      Closes git s path tags d (.error (.source (.reading (.storage cause))))
        (.interrupted (.source (.reading (.storage cause))))
  | scalar {fault : Yaml.Fault} (hfault : fault ≠ .badValue) :
      Closes git s path tags d (.error (.release (.document (.badScalar fault))))
        (.interrupted (.release (.document (.badScalar fault))))

theorem GeneratesFrom.closes {path : String} {tags : Option (List String)} (git : Git Run)
    (h : GeneratesFrom s path tags d result d') (output : String) :
    Closes git s path tags d result (Outcome.ofResult result output).ending := by
  cases result with
  | ok _ => exact .success
  | error e =>
    rw [Outcome.ofResult]
    cases hreport : e.report? with
    | some text => exact .failure hreport
    | none =>
      cases h with
      | unread hreleases =>
        obtain ⟨cause, rfl⟩ := storage_of_report? hreport
        have hrun : (releasesFrom git s (some path) tags).run d
            = (.error (.reading (.storage cause)), d) := by
          rw [run_releasesFrom, hreleases]
          rfl
        exact .unread (unread_of_releasesFrom hrun)
      | read hreleases hnodup hordered hgenerates =>
        cases hgenerates with
        | upTo hreleases hwritten hrefused =>
          cases hrefused with
          | unparsed hparse =>
            obtain ⟨fault, hfault, rfl⟩ := CommandError.badScalar_of_report? hreport
            exact .scalar hfault
          | unrendered hparse hrender => cases hreport
        | abandoned hreleases hwritten habandoned => cases hreport

/-- The program that generates the snapshots of the releases in a directory. -/
theorem run_generate {environment : Settings.Environment} {tools : Tools Run} {name : String}
    {rest : List String} {i : Invocation} {path : String} {tags : Option (List String)}
    {usual : Settings} (hd : d.Sound)
    (husual : d.answer (Settings.load environment none) = .ok usual)
    (hread : Invocation.read name rest = .ok i) (hcommand : i.command = .generate (some path) tags)
    (hs : d.answer (i.settings environment) = .ok s) :
    let done := (run environment tools (name :: rest) : Run Outcome) d
    ∃ result, GeneratesFrom s path tags d result done.2 ∧
      Closes tools.git s path tags d result done.1.ending := by
  have hexecute : (i.execute environment tools : CommandT Run Unit)
      = silently .configuration (i.settings environment) >>= fun s =>
        perform tools s i.command := rfl
  rw [run_eq, husual, hread]
  dsimp only
  rcases hdone : ((i.execute environment tools : CommandT Run Unit).run.run "").run d
    with ⟨⟨result, output⟩, d'⟩
  rw [hexecute, hcommand] at hdone
  obtain ⟨fault, hfault, -⟩ | ⟨s', hs', h⟩ :=
    leads_ask_bind (inquires_settings i environment d) ⟨"", output, hdone⟩
  · rw [hs] at hfault
    cases hfault
  · rw [hs] at hs'
    obtain rfl := Except.ok.inj hs'
    have hgenerates := generatesFrom_of_leads hd h
    exact ⟨result, hgenerates, hgenerates.closes tools.git output⟩

end

section

attribute [local instance] Readers.standard

/-- The release of a disk is generated into a directory that is not there yet. -/
theorem run_generate_switch :
    Bindings.sourceDisk.Sound ∧
    let done := (run [] bareTools
      ["generate", "--source-dir", "r", "--versioned-dir", "d"] : Run Outcome) Bindings.sourceDisk
    ∃ s result, GeneratesFrom s "r" none Bindings.sourceDisk result done.2 ∧
      Closes bareTools.git s "r" none Bindings.sourceDisk result done.1.ending := by
  refine ⟨Bindings.sound_sourceDisk, Settings.default.overlay [(.text "versioned_dir", .text "d")],
    run_generate Bindings.sound_sourceDisk
      (Attempt.eq_ok_of_toOption (a := Settings.default) (by decide +kernel)) rfl rfl
      (Attempt.eq_ok_of_toOption (by decide +kernel))⟩

/-- A disk with one release, in whose document a scalar is marked as a truth value and is none. -/
def scalarDisk : Disk :=
  (((Disk.empty ["work"]).put ["work", "r"] .directory).put ["work", "r", "v0.1.0"] .directory).put
    ["work", "r", "v0.1.0", "control_ids_core.yaml"]
      (.file ("controls:\n- Foo:\n    type: !!bool maybe\n").toUTF8)

/-- The release cannot be parsed, and the program has no exit code. -/
theorem run_generate_scalar :
    (∃ r e, scalarDisk.answer (releasesIn "r" none) = .ok [r] ∧ r.parse = .error e) ∧
    ((run [] bareTools ["generate", "--source-dir", "r"] : Run Outcome)
      scalarDisk).1.ending.exitCode? ≠ some 1 := by
  have hparsed : ((scalarDisk.answer (releasesIn "r" none)).toOption.map
      (·.map fun r => r.parse.isOk)) = some [false] := by decide +kernel
  refine ⟨?_, by decide +kernel⟩
  cases hreleases : scalarDisk.answer (releasesIn "r" none) with
  | error fault =>
    rw [hreleases] at hparsed
    cases hparsed
  | ok releases =>
    rw [hreleases] at hparsed
    obtain ⟨r, rfl, hr⟩ := List.map_eq_singleton_iff.1 (Option.some.inj hparsed)
    cases hparse : r.parse with
    | error e => exact ⟨r, e, rfl, hparse⟩
    | ok snapshot =>
      rw [hparse] at hr
      cases hr

end

end CommandLine

end ControlSchema
