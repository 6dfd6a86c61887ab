import ControlSchema.Artifact.Writing
import ControlSchema.Proofs.Artifact.Files
import ControlSchema.Proofs.Storage.Replacing
import ControlSchema.Proofs.Storage.Temporary

/-!
# Writing that fails

A snapshot that cannot be written leaves nothing of itself: the temporary directory
is swept away, unless sweeping fails as well. But what stood in its place is taken
away before the move, so it is safe only as long as neither its removal nor the move
is what fails.
-/

namespace ControlSchema

open Disk Storage

/-- The time that is written into manifests on a disk. -/
def Disk.writtenAt : String :=
  (Moment.mk ⟨1970, 1, 1⟩ ⟨0, 0, 0, 0⟩ (some 0)).joined "T"

theorem Version.isName_text {v : Version} (hv : v.IsWritten) : IsName v.text := by
  have hlong : 2 < v.text.toList.length := by
    have hmajor := List.length_pos_iff.2 (Number.digitsText_ne_nil v.major)
    have hminor := List.length_pos_iff.2 (Number.digitsText_ne_nil v.minor)
    rw [Version.toList_text]
    simp only [List.length_append, List.length_cons]
    omega
  refine ⟨?_, ?_, ?_, fun hslash => (Version.isIdentifierChar_range
    (Version.text_chars hv _ hslash)).2.2.1 rfl⟩ <;> intro heq <;>
    exact absurd (heq ▸ hlong) (by decide)

theorem Version.spot_directory {v : Version} (hv : v.IsWritten) (d : Disk) (versionedDir : String) :
    d.spot (v.directory versionedDir) = d.spot versionedDir ++ [v.text] :=
  spot_join_name d versionedDir (Version.isName_text hv)

/-- A fault is the only one: no change was told to fail, or one that this fault comes
from. -/
def StorageError.IsOnly (e : StorageError) (d : Disk) : Prop :=
  (∀ n, d.failing n = false) ∨
    e.fault = .inputOutput ∧ ∀ m n, d.failing m = true → d.failing n = true → m = n

/-- Behind the only fault no change fails any more. -/
theorem StorageError.IsOnly.quiet {e : StorageError} {d d' : Disk} (h : e.IsOnly d)
    (hsame : d'.failing = d.failing) (hblames : Blames d d' e) : Quiet d' := by
  intro n hn
  rw [hsame]
  rcases h with hnone | ⟨hfault, hone⟩
  · exact hnone n
  · obtain ⟨m, -, hm, hfailing⟩ := hblames hfault
    by_contra hn'
    rw [Bool.not_eq_false] at hn'
    have heq := hone m n hfailing hn'
    omega

namespace Release

/-! ## Filling and moving -/

theorem placeFiles_eq (files : Table String String) (temporary final : String) :
    (placeFiles files temporary final : StorageT Disk.Run Unit)
      = (writeFiles temporary files.sorted >>= fun _ => moveOver temporary final) := rfl

section

variable {files : Table String String} {temporary final : String} {d d' : Disk}
  {origin goal : Trail} {e : StorageError}

/-- Filling and moving that fail take no more than what stood at the goal, if that was
a directory. -/
theorem placeFiles_eq_error (hflat : Flat d temporary origin)
    (habsolute : Path.isAbsolute temporary = true) (hnames : Path.names temporary = origin)
    (hinner : ∀ name ∈ files.keys, Path.IsInner name) (hspot : d.spot final = goal)
    (hbelow : ¬ goal <+: origin) (habove : ¬ origin <+: goal)
    (h : (placeFiles files temporary final : StorageT Disk.Run Unit).run d = (.error e, d')) :
    Flat d' temporary origin ∧ Evolves ((lost goal).except origin) d d' ∧ Blames d d' e ∧
      ((∀ place, ¬ origin <+: place → d'.node? place = d.node? place) ∨
        d.node? goal = some .directory ∧ (e.target = some final ∨ goal <+: d.spot e.path)) := by
  have hinner' : ∀ file ∈ files.sorted, Path.IsInner file.1 := fun file hfile =>
    hinner file.1 (List.mem_map.2 ⟨file, Table.mem_sorted.1 hfile, rfl⟩)
  have hruns := hflat.runs_writeFiles hinner'
  have hwritten := hflat.writeFiles hinner'
  have hevolves : Evolves ((lost goal).except origin) d
      ((writeFiles temporary files.sorted).run d).2 :=
    hruns.evolves.mono fun _ _ _ hfate => hfate.imp_left Or.inl
  have hsame : ∀ place, ¬ origin <+: place →
      ((writeFiles temporary files.sorted).run d).2.node? place = d.node? place :=
    fun place hplace => (hruns.evolves.nodes place).resolve_right hplace
  rw [placeFiles_eq] at h
  rcases run_bind_eq_error h with hwrite | ⟨_, d₁, hwrite, hmove⟩
  · have hblames := hruns.blames e
    rw [hwrite] at hwritten hevolves hblames hsame
    exact ⟨hwritten, hevolves, hblames rfl, Or.inl hsame⟩
  · rw [hwrite] at hwritten hevolves hsame
    obtain ⟨hlost, hblames, hcases⟩ := moveOver_eq_error hwritten.sound hmove
    rw [hevolves.spot, hspot] at hlost hcases
    refine ⟨hwritten.of_lost habsolute hnames hlost hbelow,
      hevolves.trans ((steady_lost goal).except origin) (hlost.mono fun _ _ _ => Or.inl),
      hblames.of_evolves hevolves, ?_⟩
    rw [hevolves.spot, hsame goal habove] at hcases
    exact hcases.imp_left fun hkept place hplace => (hkept place).trans (hsame place hplace)

theorem replaceDirectory_run_of_error {d₁ d₂ : Disk}
    (hmade : (temporaryBeside final : StorageT Disk.Run String).run d = (.ok temporary, d₁))
    (hplace : (placeFiles files temporary final : StorageT Disk.Run Unit).run d₁ = (.error e, d₂)) :
    (replaceDirectory files final : StorageT Disk.Run Unit).run d
      = (.error e, ((sweepTree temporary : Disk.Run Unit) d₂).2) := by
  have hasked : (ExceptT.lift (placeFiles files temporary final : StorageT Disk.Run Unit).run :
      StorageT Disk.Run _).run d₁ = (.ok (.error e), d₂) := by rw [run_lift, hplace]
  rw [replaceDirectory, run_bind_of_ok hmade, run_bind_of_ok hasked]
  rfl

theorem replaceDirectory_run_of_ok {d₁ d₂ : Disk}
    (hmade : (temporaryBeside final : StorageT Disk.Run String).run d = (.ok temporary, d₁))
    (hplace : (placeFiles files temporary final : StorageT Disk.Run Unit).run d₁ = (.ok (), d₂)) :
    (replaceDirectory files final : StorageT Disk.Run Unit).run d = (.ok (), d₂) := by
  have hasked : (ExceptT.lift (placeFiles files temporary final : StorageT Disk.Run Unit).run :
      StorageT Disk.Run _).run d₁ = (.ok (.ok ()), d₂) := by rw [run_lift, hplace]
  rw [replaceDirectory, run_bind_of_ok hmade, run_bind_of_ok hasked]
  rfl

end

/-! ## What a failure leaves -/

/-- What is left of a disk where a directory for a name at a place was to be replaced
and it failed. -/
structure Abandoned (d d' : Disk) (above : Trail) (name final : String) (e : StorageError) :
    Prop where
  sound : d'.Sound
  /-- Other places are as before but for new directories above, and for the temporary
  directory. -/
  elsewhere : ∀ place, ¬ above ++ [name] <+: place →
    (∀ n, ¬ above ++ [temporaryName name n] <+: place) →
    grown above place (d.node? place) (d'.node? place)
  /-- Nothing has come to the place itself. -/
  previous : ∀ place, above ++ [name] <+: place →
    d'.node? place = d.node? place ∨ d'.node? place = none
  /-- And nothing is gone, unless there was a directory and the fault is about something
  in it or about the move. -/
  untouched : (∀ place, above ++ [name] <+: place → d'.node? place = d.node? place) ∨
    d.node? (above ++ [name]) = some .directory ∧
      (e.target = some final ∨ above ++ [name] <+: d.spot e.path)
  /-- The temporary directory is gone, if that has not failed as well. -/
  swept : e.IsOnly d → ∀ n place, above ++ [temporaryName name n] <+: place →
    d'.node? place = d.node? place

section

variable {files : Table String String} {final name : String} {d d' : Disk} {above : Trail}
  {e : StorageError}

/-- Whatever fails, this is what is left. -/
theorem replaceDirectory_eq_error (hinner : ∀ inner ∈ files.keys, Path.IsInner inner)
    (hd : d.Sound) (hspot : d.spot final = above ++ [name]) (hbase : Path.baseName final = name)
    (h : (replaceDirectory files final : StorageT Disk.Run Unit).run d = (.error e, d')) :
    Abandoned d d' above name final e := by
  rcases hmade : (temporaryBeside final : StorageT Disk.Run String).run d with ⟨r, d₁⟩
  cases r with
  | error e' =>
    obtain ⟨rfl, rfl⟩ : e' = e ∧ d₁ = d' := by
      rw [replaceDirectory, run_bind_of_error hmade] at h
      cases h
      exact ⟨rfl, rfl⟩
    have hgrown := evolves_of_temporaryBeside_eq_error hd hspot hmade
    have hkept {inner : String} {place : Trail} (hplace : above ++ [inner] <+: place) :
        d₁.node? place = d.node? place := eq_of_grown hplace (hgrown.nodes place)
    exact ⟨hgrown.sound, fun place _ _ => hgrown.nodes place, fun _ hplace => Or.inl (hkept hplace),
      Or.inl fun _ hplace => hkept hplace, fun _ _ _ hplace => hkept hplace⟩
  | ok temporary =>
    obtain ⟨n, hprepared⟩ := temporaryBeside_eq_ok hd hspot hbase hmade
    rcases hplace : (placeFiles files temporary final : StorageT Disk.Run Unit).run d₁ with ⟨r, d₂⟩
    cases r with
    | ok _ =>
      rw [replaceDirectory_run_of_ok hmade hplace] at h
      cases h
    | error e' =>
      rw [replaceDirectory_run_of_error hmade hplace] at h
      obtain ⟨heq, rfl⟩ := Prod.mk.inj h
      obtain rfl : e' = e := Except.error.inj heq
      have hne : temporaryName name n ≠ name := marked_ne name _
      obtain ⟨hflat, hplaced, hblames, hcases⟩ := placeFiles_eq_error hprepared.flat
        hprepared.absolute hprepared.names hinner (hprepared.evolves.spot final ▸ hspot)
        (not_prefix_of_ne hne.symm) (not_prefix_of_ne hne) hplace
      have hleads : above ++ [temporaryName name n] <+: d₂.spot temporary :=
        spot_of_place hflat.leads ▸ List.prefix_rfl
      have hswept := evolves_sweepDown hflat.sound depthLimit hleads
      -- Each of the three parts of the run, away from the temporary directory.
      have hprepare {place : Trail} (hT : ¬ above ++ [temporaryName name n] <+: place) :
          grown above place (d.node? place) (d₁.node? place) :=
        (hprepared.evolves.nodes place).resolve_right hT
      have hfill {place : Trail} (hT : ¬ above ++ [temporaryName name n] <+: place) :
          lost (above ++ [name]) place (d₁.node? place) (d₂.node? place) :=
        (hplaced.nodes place).resolve_right hT
      have hsweep {place : Trail} (hT : ¬ above ++ [temporaryName name n] <+: place) :
          ((sweepTree temporary : Disk.Run Unit) d₂).2.node? place = d₂.node? place :=
        (hswept.nodes place).resolve_right fun hgone => hT hgone.1
      have helse {place : Trail} (hF : ¬ above ++ [name] <+: place)
          (hT : ¬ above ++ [temporaryName name n] <+: place) :
          grown above place (d.node? place)
            (((sweepTree temporary : Disk.Run Unit) d₂).2.node? place) := by
        rw [hsweep hT, (hfill hT).resolve_right fun hgone => hF hgone.1]
        exact hprepare hT
      have hbefore {place : Trail} (hF : above ++ [name] <+: place) :
          d₁.node? place = d.node? place := Prepared.node?_of_evolves hprepared.evolves hF
      refine ⟨hswept.sound, fun place hF hT => helse hF (hT n), fun place hF => ?_, ?_, ?_⟩
      · have hT := disjoint_of_ne hne.symm hF
        rw [hsweep hT, ← hbefore hF]
        exact (hfill hT).imp_right And.right
      · refine hcases.imp (fun hkept place hF => ?_) fun ⟨hdirectory, habout⟩ => ?_
        · have hT := disjoint_of_ne hne.symm hF
          rw [hsweep hT, hkept place hT, hbefore hF]
        · rw [hbefore List.prefix_rfl] at hdirectory
          rw [hprepared.evolves.spot] at habout
          exact ⟨hdirectory, habout⟩
      · intro honly m place hm
        have hquiet : Quiet d₂ := honly.quiet (hplaced.failing.trans hprepared.evolves.failing)
          (hblames.of_evolves hprepared.evolves)
        by_cases hT : above ++ [temporaryName name n] <+: place
        · rw [hprepared.unused place hT]
          exact hflat.sweepDown hquiet 4095 (concat_ne_nil above _) hT
        · exact eq_of_grown hm (helse (disjoint_of_ne (marked_ne name _) hm) hT)

/-- A directory that the way to itself leads through is lost when it is replaced, though
no change fails. -/
theorem replaceDirectory_through (hd : d.Sound) (hquiet : Quiet d)
    (hspot : d.spot final = above ++ [name]) (hbase : Path.baseName final = name)
    {temporary : String} {d₁ : Disk}
    (hmade : (temporaryBeside final : StorageT Disk.Run String).run d = (.ok temporary, d₁))
    (hfiles : ∀ inner ∈ files.keys, IsName inner ∧ inner.utf8ByteSize ≤ nameLimit)
    (hflat : Flat d final (above ++ [name])) {front back : List String} {piece : String}
    (hpieces : trimmed (Path.pieces final) = front ++ piece :: back)
    (hfront : walk (d.start final) front = above ++ [name]) :
    ∃ e d', (replaceDirectory files final : StorageT Disk.Run Unit).run d = (.error e, d') ∧
      d'.node? (above ++ [name]) = none := by
  obtain ⟨n, hprepared⟩ := temporaryBeside_eq_ok hd hspot hbase hmade
  have hne : temporaryName name n ≠ name := marked_ne name _
  have hsorted : ∀ file ∈ files.sorted, IsName file.1 ∧ file.1.utf8ByteSize ≤ nameLimit :=
    fun file hfile => hfiles file.1 (List.mem_map.2 ⟨file, Table.mem_sorted.1 hfile, rfl⟩)
  have hinner : ∀ inner ∈ files.keys, Path.IsInner inner := fun inner hinner =>
    Path.IsInner.of_isName (hfiles inner hinner).1
  obtain ⟨d₂, hwrite, -, -, hevolves⟩ := hprepared.exists_writeFiles hquiet hsorted
  have hkept (inner : String) : d₂.node? (above ++ [name] ++ [inner])
      = d.node? (above ++ [name] ++ [inner]) :=
    Prepared.node?_of_evolves hevolves (List.prefix_append _ _)
  have hflat₂ : Flat d₂ final (above ++ [name]) :=
    ⟨hevolves.sound, place_of_directories hflat.leads hevolves.home fun _ =>
      hprepared.directory_of_evolves hevolves,
      hprepared.directory_of_evolves hevolves hflat.directory,
      fun inner => hkept inner ▸ hflat.files inner,
      fun inner hexists => hflat.short inner (hkept inner ▸ hexists)⟩
  have hstart : d₂.start final = d.start final := by rw [start, start, hevolves.home]
  obtain ⟨e, d₃, hmove, hgone⟩ := @moveOver_through d₂ hevolves.sound temporary final _ hflat₂
    (hquiet.of_evolves hevolves) (concat_ne_nil above name) _ _ _ hpieces (hstart ▸ hfront)
  have hplace : (placeFiles files temporary final : StorageT Disk.Run Unit).run d₁
      = (.error e, d₃) := by rw [placeFiles_eq, run_bind_of_ok hwrite, hmove]
  obtain ⟨hswept, -⟩ := placeFiles_eq_error hprepared.flat hprepared.absolute hprepared.names
    hinner (hprepared.evolves.spot final ▸ hspot) (not_prefix_of_ne hne.symm)
    (not_prefix_of_ne hne) hplace
  refine ⟨e, _, replaceDirectory_run_of_error hmade hplace, ?_⟩
  have hsweep := @evolves_sweepDown d₃ hswept.sound _ depthLimit temporary List.prefix_rfl
  exact (hsweep.nodes (above ++ [name])).elim (fun hsame => hsame.trans hgone) And.right

end

/-! ## Writing a release -/

section

variable {r : Release} {s : Snapshot} {versionedDir : String} {d d' : Disk}

theorem write_run_of_error {g : GenerationError} (h : r.render s Disk.writtenAt = .error g) :
    (r.write s versionedDir : ExceptT WriteError Disk.Run String).run d
      = (.error (.generation g), d) := by
  have hasked : (ExceptT.lift now : ExceptT WriteError Disk.Run Moment).run d
      = (.ok (Moment.mk ⟨1970, 1, 1⟩ ⟨0, 0, 0, 0⟩ (some 0)), d) := rfl
  rw [write, run_bind_of_ok hasked]
  have hrender : (ExceptT.mk (pure ((r.render s Disk.writtenAt).mapError .generation)) :
      ExceptT WriteError Disk.Run (Table String String)).run d = (.error (.generation g), d) := by
    rw [h]
    rfl
  exact run_bind_of_error hrender

theorem write_run_of_ok {files : Table String String} (h : r.render s Disk.writtenAt = .ok files) :
    (r.write s versionedDir : ExceptT WriteError Disk.Run String).run d
      = match (replaceDirectory files (s.version.directory versionedDir) :
          StorageT Disk.Run Unit).run d with
        | (.ok _, d') => (.ok (s.version.directory versionedDir), d')
        | (.error e, d') =>
          (.error (.artifact (.unwritten s.version (s.version.directory versionedDir) e)), d') := by
  have hasked : (ExceptT.lift now : ExceptT WriteError Disk.Run Moment).run d
      = (.ok (Moment.mk ⟨1970, 1, 1⟩ ⟨0, 0, 0, 0⟩ (some 0)), d) := rfl
  have hrender : (ExceptT.mk (pure ((r.render s Disk.writtenAt).mapError .generation)) :
      ExceptT WriteError Disk.Run (Table String String)).run d = (.ok files, d) := by
    rw [h]
    rfl
  rw [write, run_bind_of_ok hasked]
  refine (run_bind_of_ok hrender).trans ?_
  rw [run_bind_eq, run_adapt]
  rcases (replaceDirectory files (s.version.directory versionedDir) :
    StorageT Disk.Run Unit).run d with ⟨_ | _, d'⟩ <;> rfl

/-- A write that fails reports the directory, or it has not begun: the release could not
be rendered. -/
theorem write_eq_error
    (hnames : ∀ category, ∀ name ∈ (r.documents category).keys, category.hasDocument name = true)
    (hversion : s.version.IsWritten) (hd : d.Sound) {e : WriteError}
    (h : (r.write s versionedDir : ExceptT WriteError Disk.Run String).run d = (.error e, d')) :
    (∃ g, r.render s Disk.writtenAt = .error g ∧ e = .generation g ∧ d' = d) ∨
    ∃ cause,
      e = .artifact (.unwritten s.version (s.version.directory versionedDir) cause) ∧
      Abandoned d d' (d.spot versionedDir) s.version.text (s.version.directory versionedDir)
        cause := by
  cases hrender : r.render s Disk.writtenAt with
  | error g =>
    rw [write_run_of_error hrender] at h
    cases h
    exact Or.inl ⟨g, rfl, rfl, rfl⟩
  | ok files =>
    rw [write_run_of_ok hrender] at h
    rcases hreplace : (replaceDirectory files (s.version.directory versionedDir) :
      StorageT Disk.Run Unit).run d with ⟨_ | _, d₁⟩
    · rename_i cause
      rw [hreplace] at h
      cases h
      exact Or.inr ⟨cause, rfl, replaceDirectory_eq_error (isInner_of_render hnames hrender) hd
        (Version.spot_directory hversion d versionedDir)
        (Path.baseName_join versionedDir (Version.isName_text hversion)) hreplace⟩
    · rw [hreplace] at h
      cases h

end

end Release

/-! ## A switch -/

namespace Bindings

/-- A disk with a directory where the snapshot of the switch belongs, and a file in it. -/
def previousDisk : Disk :=
  (((Disk.empty ["work"]).put ["work", "d"] .directory).put ["work", "d", "0.1.0"] .directory).put
    ["work", "d", "0.1.0", "controls.py"] (.file ByteArray.empty)

theorem sound_previousDisk : previousDisk.Sound := by
  have hempty := @sound_empty ["work"] (by decide)
  have hfirst := @Sound.put _ hempty ["work"] "d" .directory (by decide) rfl (Or.inl rfl)
  have hsecond := @Sound.put _ hfirst ["work", "d"] "0.1.0" .directory (by decide) rfl (Or.inl rfl)
  exact @Sound.put _ hsecond ["work", "d", "0.1.0"] "controls.py" (.file ByteArray.empty)
    (by decide) rfl (Or.inr nofun)

theorem flat_previousDisk :
    Flat previousDisk "d/0.1.0/../0.1.0" ["work", "d", "0.1.0"] := by
  have hinner {name : String} (h : previousDisk.node? ["work", "d", "0.1.0", name] ≠ none) :
      name = "controls.py" := by
    have hmem := Table.get?_ne_none_iff.1 h
    have hkeys : previousDisk.nodes.keys = [["work"], ["work", "d"], ["work", "d", "0.1.0"],
        ["work", "d", "0.1.0", "controls.py"]] := by decide
    rw [hkeys] at hmem
    simpa using hmem
  refine ⟨sound_previousDisk, Attempt.eq_ok_of_toOption (by decide), rfl,
    fun name hdirectory => ?_, fun name hexists => ?_⟩
  · have hexists : previousDisk.node? ["work", "d", "0.1.0", name] ≠ none := fun hnone => by
      cases hnone.symm.trans hdirectory
    obtain rfl := hinner hexists
    cases hdirectory
  · rw [hinner hexists]
    decide

/-- The same disk when the third change fails, which is the first file that is written into the
temporary directory. -/
def brokenDisk : Disk := { previousDisk with failing := (· == 2) }

theorem exists_replaceDirectory_switch {files : Table String String}
    (hfiles : files.sorted ≠ []) : ∃ d',
    (Release.replaceDirectory files "d/0.1.0" : StorageT Disk.Run Unit).run brokenDisk
      = (.error ⟨.inputOutput, Path.join "/work/d/.0.1.0.00000000.tmp" (files.sorted.head hfiles).1,
          none⟩, d') := by
  have hfails : ((temporaryBeside "d/0.1.0" : StorageT Disk.Run String).run brokenDisk).2.failing
      ((temporaryBeside "d/0.1.0" : StorageT Disk.Run String).run brokenDisk).2.steps = true := by
    decide +kernel
  obtain ⟨d₁, htemporary⟩ : ∃ d₁, (temporaryBeside "d/0.1.0" : StorageT Disk.Run String).run
      brokenDisk = (.ok "/work/d/.0.1.0.00000000.tmp", d₁) :=
    run_eq_ok_of_toOption (by decide +kernel)
  rw [htemporary] at hfails
  obtain ⟨first, rest, hsorted⟩ := List.exists_cons_of_ne_nil hfiles
  have hwrite : (writeText (Path.join "/work/d/.0.1.0.00000000.tmp" first.1) first.2 :
      StorageT Disk.Run Unit).run d₁
        = (.error ⟨.inputOutput, Path.join "/work/d/.0.1.0.00000000.tmp" first.1, none⟩,
            d₁.counted (d₁.steps + 1)) := if_pos hfails
  have hplace : (Release.placeFiles files "/work/d/.0.1.0.00000000.tmp" "d/0.1.0" :
      StorageT Disk.Run Unit).run d₁
        = (.error ⟨.inputOutput, Path.join "/work/d/.0.1.0.00000000.tmp" first.1, none⟩,
            d₁.counted (d₁.steps + 1)) := by
    rw [Release.placeFiles_eq, hsorted, writeFiles_cons]
    exact run_bind_of_error (run_bind_of_error hwrite)
  simp only [hsorted, List.head_cons]
  exact ⟨_, Release.replaceDirectory_run_of_error htemporary hplace⟩

/-- On it nothing is written. What was there stays, and the temporary directory does not. -/
theorem write_eq_error_switch :
    (∀ category, ∀ name ∈ ((switchRelease "Say").documents category).keys,
      category.hasDocument name = true) ∧
    (switchSnapshot "Say").version.IsWritten ∧ brokenDisk.Sound ∧
    ∃ e d', ((switchRelease "Say").write (switchSnapshot "Say") "d" :
        ExceptT WriteError Disk.Run String).run brokenDisk = (.error e, d') ∧
      ∃ cause, e = .artifact (.unwritten ⟨0, 1, 0, []⟩ "d/0.1.0" cause) ∧
        cause.fault = .inputOutput ∧
        Release.Abandoned brokenDisk d' ["work", "d"] "0.1.0" "d/0.1.0" cause := by
  have hversion := Version.isWritten_of_parse parse_switchVersion
  have hsound : brokenDisk.Sound :=
    ⟨sound_previousDisk.nodup, sound_previousDisk.names, sound_previousDisk.parents,
      sound_previousDisk.home⟩
  have hfinal : (switchSnapshot "Say").version.directory "d" = "d/0.1.0" := by decide +kernel
  have hspot : brokenDisk.spot "d" = ["work", "d"] := by decide +kernel
  obtain ⟨files, hfiles⟩ := exists_render_switch "Say" Disk.writtenAt
  have hsorted : files.sorted ≠ [] := by
    obtain ⟨entry, hentry, -⟩ := List.mem_map.1 ((Release.mem_keys_render hfiles).2
      (.inr (.inr rfl)))
    exact List.ne_nil_of_mem (Table.mem_sorted.2 hentry)
  obtain ⟨d', hreplace⟩ := exists_replaceDirectory_switch hsorted
  have hwrite := @Release.write_run_of_ok _ _ "d" brokenDisk _ hfiles
  rw [hfinal, hreplace] at hwrite
  refine ⟨names_switch, hversion, hsound, _, d', hwrite, _, rfl, rfl, ?_⟩
  rcases Release.write_eq_error names_switch hversion hsound hwrite with
    ⟨g, hg, -⟩ | ⟨cause, he, habandoned⟩
  · rw [hfiles] at hg
    cases hg
  · rw [hspot, hfinal] at habandoned
    cases he
    exact habandoned

/-- No change fails, and the directory that was there is lost. -/
theorem write_switch_through :
    previousDisk.Sound ∧ (∀ n, previousDisk.failing n = false) ∧
    previousDisk.node? ["work", "d", "0.1.0", "controls.py"] = some (.file ByteArray.empty) ∧
    ∃ e d', ((switchRelease "Say").write (switchSnapshot "Say") "d/0.1.0/.." :
        ExceptT WriteError Disk.Run String).run previousDisk
          = (.error (.artifact (.unwritten ⟨0, 1, 0, []⟩ "d/0.1.0/../0.1.0" e)), d') ∧
      d'.node? ["work", "d", "0.1.0"] = none := by
  refine ⟨sound_previousDisk, fun _ => rfl, rfl, ?_⟩
  obtain ⟨files, hfiles⟩ := exists_render_switch "Say" Disk.writtenAt
  have hfinal : (switchSnapshot "Say").version.directory "d/0.1.0/.." = "d/0.1.0/../0.1.0" := by
    decide +kernel
  obtain ⟨d₁, htemporary⟩ : ∃ d₁, (temporaryBeside "d/0.1.0/../0.1.0" :
      StorageT Disk.Run String).run previousDisk = (.ok "/work/d/.0.1.0.00000000.tmp", d₁) :=
    run_eq_ok_of_toOption (by decide +kernel)
  have hspot : previousDisk.spot "d/0.1.0/../0.1.0" = ["work", "d"] ++ ["0.1.0"] := by
    decide +kernel
  have hpieces : trimmed (Path.pieces "d/0.1.0/../0.1.0")
      = ["d", "0.1.0"] ++ ".." :: ["0.1.0"] := by
    decide +kernel
  obtain ⟨e, d', hreplace, hgone⟩ := Release.replaceDirectory_through sound_previousDisk
    (fun _ _ => rfl) hspot (by decide +kernel) htemporary (isName_of_render_switch hfiles)
    flat_previousDisk hpieces (by decide +kernel)
  refine ⟨e, d', ?_, hgone⟩
  rw [Release.write_run_of_ok hfiles, hfinal, hreplace]
  rfl

end Bindings

end ControlSchema
