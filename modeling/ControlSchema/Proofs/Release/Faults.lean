import ControlSchema.Proofs.Storage.Holding
import ControlSchema.Proofs.Storage.Inquiry
import ControlSchema.Release.Reading
import ControlSchema.Release.Repository

/-!
# What ends the reading of releases

Reading from a directory looks first and asks then: a directory is listed only
after something has told that it is one, and a file is read only after it was
found in a listing, or else its fault is turned into one of the source. As
nothing changes the disk in between, no fault of storage gets through, except
where something is looked for under a name that is longer than names can be.
Besides, faults that are told can end the reading, and bytes that are no text.

The runs are followed on one disk. Each leaves it as it is, so what was found out
about it stays true for the runs that come after.
-/

namespace ControlSchema

open Disk Storage

variable {α β : Type} {d : Disk} {asks : String → Prop}

/-- A name on the way that the path leads is longer than names can be. -/
def Disk.Unreachable (d : Disk) (path : String) : Prop := d.place path = .error .nameTooLong

/-- The run leaves the disk as it is, and a fault of storage ends it only where a path that it asks
for cannot be followed. -/
structure Disk.Spares (d : Disk) (asks : String → Prop) (x : ExceptT ReleaseFault Run α) :
    Prop where
  disk : (x.run d).2 = d
  fault : ∀ cause, (x.run d).1 = .error (.reading (.storage cause)) →
    ∃ path, asks path ∧ d.Unreachable path ∧ cause = ⟨.nameTooLong, path, none⟩

namespace Disk.Spares

theorem of_run {x : ExceptT ReleaseFault Run α} {a : α} (h : x.run d = (.ok a, d)) :
    d.Spares asks x := by
  refine ⟨by rw [h], fun cause hfault => ?_⟩
  rw [h] at hfault
  cases hfault

theorem pure (a : α) : d.Spares asks (pure a) := of_run rfl

/-- A fault of the source is none of storage. -/
theorem throw (error : SourceError) :
    d.Spares asks (throw (.source error) : ExceptT ReleaseFault Run α) :=
  ⟨rfl, fun _ h => nomatch h⟩

theorem bind {x : ExceptT ReleaseFault Run α} {f : α → ExceptT ReleaseFault Run β}
    (hx : d.Spares asks x) (hf : ∀ a, x.run d = (.ok a, d) → d.Spares asks (f a)) :
    d.Spares asks (x >>= f) := by
  rcases hrun : x.run d with ⟨r, d'⟩
  obtain rfl : d' = d := by rw [← hx.disk, hrun]
  cases r with
  | ok a =>
    obtain ⟨hdisk, hfault⟩ := hf a hrun
    rw [← run_bind_of_ok hrun] at hdisk hfault
    exact ⟨hdisk, hfault⟩
  | error e =>
    have hbind := run_bind_of_error (f := f) hrun
    refine ⟨by rw [hbind], fun cause h => hx.fault cause ?_⟩
    rw [hbind] at h
    rw [hrun]
    exact congrArg Except.error (Except.error.inj h)

theorem mapM {f : α → ExceptT ReleaseFault Run β} {items : List α}
    (hf : ∀ a ∈ items, d.Spares asks (f a)) : d.Spares asks (items.mapM f) := by
  induction items with
  | nil => exact pure []
  | cons a items ih =>
    obtain ⟨ha, hitems⟩ := List.forall_mem_cons.1 hf
    rw [List.mapM_cons]
    exact ha.bind fun b _ => (ih hitems).bind fun rest _ => pure (b :: rest)

theorem mono {asks' : String → Prop} {x : ExceptT ReleaseFault Run α} (hx : d.Spares asks x)
    (h : ∀ path, asks path → d.Unreachable path → asks' path) : d.Spares asks' x := by
  refine ⟨hx.disk, fun cause hfault => ?_⟩
  obtain ⟨path, hpath, hunreachable, hcause⟩ := hx.fault cause hfault
  exact ⟨path, h path hpath hunreachable, hunreachable, hcause⟩

/-- What a path leads to is told unless the path cannot be followed. -/
theorem leadsTo (kind : EntryKind) {path : String} (hpath : asks path) :
    d.Spares asks (ReleaseSource.asFault (leadsTo kind path)) := by
  refine ⟨inquires_leadsTo kind path d, fun cause h => ?_⟩
  obtain ⟨e, he, hcause⟩ := Attempt.mapError_eq_error h
  obtain ⟨rfl, hunreachable⟩ := leadsTo_eq_error he
  cases hcause
  exact ⟨path, hpath, hunreachable, rfl⟩

end Disk.Spares

namespace ReleaseSource

theorem answer_asFault (x : StorageT Run α) (d : Disk) :
    d.answer (asFault x) = (d.answer x).mapError fun e => .reading (.storage e) := rfl

/-- What is found out with a question. -/
theorem kindOf_of_asFault {kind : EntryKind} {path : String} {found : Bool}
    (h : d.answer (asFault (leadsTo kind path)) = .ok found) :
    found = (d.kindOf path == some kind) := by
  rw [answer_asFault] at h
  exact kindOf_of_leadsTo (Attempt.mapError_eq_ok h)

theorem kindOf_of_run_asFault {kind : EntryKind} {path : String}
    (h : (asFault (leadsTo kind path) : ExceptT _ Run Bool).run d = (.ok true, d)) :
    d.kindOf path = some kind :=
  beq_iff_eq.1 (kindOf_of_asFault (congrArg Prod.fst h)).symm

end ReleaseSource

/-! ## Texts -/

namespace Storage

end Storage

/-- Documents are read when each of them is. -/
theorem Release.spares_readDocuments {read : String → ExceptT ReleaseFault Run String}
    {category : Category} {files : List String} (h : ∀ name ∈ files, d.Spares asks (read name)) :
    d.Spares asks (readDocuments read category files) := by
  refine (Disk.Spares.mapM fun name hname => ?_).bind fun pairs _ => .pure _
  exact (h name (List.mem_filter.1 hname).1).bind fun text _ => .pure (name, text)

/-! ## Sources in directories -/

namespace ReleaseSource

theorem spares_entriesOf {path : String} (h : d.kindOf path = some .directory) (kind : EntryKind) :
    d.Spares asks (asFault (entriesOf kind path)) :=
  .of_run (by
    rw [asFault, run_adapt, entriesOf_run h]
    rfl)

/-- A file that cannot be read is a fault of the source. -/
theorem spares_readDocument (path : String) : d.Spares asks (readDocument path) := by
  have hinquires : Inquires (readDocument path : ExceptT ReleaseFault Run String) :=
    (inquires_readText path).adapt _
  refine ⟨hinquires d, fun cause h => ?_⟩
  obtain ⟨error, -, herror⟩ := Attempt.mapError_eq_error h
  cases error <;> cases herror

/-- Of a source in a directory, only the directory of a tag may be unreachable. -/
theorem spares_files (root : String) {tag : String} (htag : asks (tagDirectory root tag)) :
    d.Spares asks ((inDirectory root : ReleaseSource Run).files tag) := by
  refine (Disk.Spares.leadsTo .directory htag).bind fun found hfound => ?_
  split
  · next hdirectory =>
    subst hdirectory
    exact spares_entriesOf (kindOf_of_run_asFault hfound) .file
  · exact .pure []

theorem spares_read (root tag name : String) :
    d.Spares asks ((inDirectory root : ReleaseSource Run).read tag name) := spares_readDocument _

theorem spares_ofDirectory {path : String} (hpath : asks (Path.tidy path)) :
    d.Spares asks (ofDirectory path) := by
  refine (Disk.Spares.leadsTo .directory hpath).bind fun found _ => ?_
  split
  · exact .pure _
  · exact .throw _

theorem kindOf_of_ofDirectory {path : String} {source : ReleaseSource Run}
    (h : d.answer (ofDirectory path : ExceptT ReleaseFault Run (ReleaseSource Run)) = .ok source) :
    d.kindOf (Path.tidy path) = some .directory ∧ source = inDirectory (Path.tidy path) := by
  have hasks : Inquires (asFault (leadsTo .directory (Path.tidy path)) : ExceptT _ Run _) :=
    (inquires_leadsTo .directory _).adapt _
  rw [ofDirectory, answer_bind hasks] at h
  obtain ⟨found, hfound, h⟩ := Attempt.bind_eq_ok h
  have hkind := kindOf_of_asFault hfound
  split at h
  · next hdirectory =>
    cases h
    exact ⟨beq_iff_eq.1 (hkind.symm.trans hdirectory), rfl⟩
  · cases h

end ReleaseSource

namespace Release

open ReleaseSource

theorem spares_ofTag (root : String) {tag : String} (htag : asks (tagDirectory root tag))
    (version : Version) :
    d.Spares asks (ofTag (inDirectory root : ReleaseSource Run) tag version) :=
  (spares_files root htag).bind fun _ _ =>
    (spares_readDocuments fun _ _ => spares_read root tag _).bind fun _ _ =>
      (spares_readDocuments fun _ _ => spares_read root tag _).bind fun _ _ => .pure _

theorem spares_collect (root : String) {tags : List String}
    (htags : ∀ tag ∈ tags, asks (tagDirectory root tag)) (found : List Release) :
    d.Spares asks (collect (inDirectory root : ReleaseSource Run) found tags) := by
  induction tags generalizing found with
  | nil => exact .pure found
  | cons tag rest ih =>
    obtain ⟨htag, hrest⟩ := List.forall_mem_cons.1 htags
    rw [collect]
    split
    · exact ih hrest found
    · split
      · exact ih hrest found
      · exact (spares_ofTag root htag _).bind fun release _ => ih hrest _

/-- The directory of a tag that was listed is reachable. -/
theorem not_unreachable_of_entriesOf {root tag : String} {tags : List String}
    (h : d.kindOf root = some .directory)
    (htags : (asFault (entriesOf .directory root) : ExceptT ReleaseFault Run _).run d
      = (.ok tags, d)) (htag : tag ∈ tags) : ¬ d.Unreachable (tagDirectory root tag) := by
  rw [asFault, run_adapt, entriesOf_run h] at htags
  cases htags
  have hkind := kindOf_eq_directory (beq_iff_eq.1 (List.mem_filter.1 htag).2)
  rw [Unreachable, tagDirectory, Path.below, place_tidy hkind.1]
  exact nofun

/-- Only the directory of a given tag ends the reading of a directory of releases with a fault of
storage. -/
theorem spares_readAll {root : String} (h : d.kindOf root = some .directory)
    (tags : Option (List String)) :
    d.Spares (fun path => ∃ tag ∈ tags.getD [], path = tagDirectory root tag)
      (readAll (inDirectory root : ReleaseSource Run) tags) := by
  cases tags with
  | some tags =>
    exact (spares_collect root (fun tag htag => ⟨tag, htag, rfl⟩) []).bind fun _ _ => .pure _
  | none =>
    refine (spares_entriesOf h .directory).bind fun tags htags => ?_
    have hcollect : d.Spares (fun path => ∃ tag ∈ tags, path = tagDirectory root tag) _ :=
      spares_collect root (fun tag htag => ⟨tag, htag, rfl⟩) []
    refine (hcollect.mono ?_).bind fun _ _ => .pure _
    rintro _ ⟨tag, htag, rfl⟩ hunreachable
    exact absurd hunreachable (not_unreachable_of_entriesOf h htags htag)

theorem spares_readAllChecked {root : String} (h : d.kindOf root = some .directory)
    (tags : Option (List String)) :
    d.Spares (fun path => ∃ tag ∈ tags.getD [], path = tagDirectory root tag)
      (readAllChecked (inDirectory root : ReleaseSource Run) tags) :=
  (spares_readAll h tags).bind fun _ _ => .pure _

end Release

/-! ## Repositories

Git may do anything to the disk, so nothing is known of it between two runs of git. It is enough to
know of every run, wherever it begins, which faults of storage it can end with. -/

/-- The program cannot be run, and not because it is missing or its directory is. -/
def Git.Fails (git : Git Run) (cause : StorageError) : Prop :=
  cause.fault ≠ .missing ∧
    ∃ arguments directory d d', (git arguments directory).run d = (.error cause, d')

/-- A fault of storage that ends the run is one of git's. -/
def Git.Ends (git : Git Run) (x : ExceptT ReleaseFault Run α) : Prop :=
  ∀ d d' cause, x.run d = (.error (.reading (.storage cause)), d') → git.Fails cause

namespace Git.Ends

variable {git : Git Run}

theorem pure (a : α) : git.Ends (pure a : ExceptT ReleaseFault Run α) := fun _ _ _ h => nomatch h

theorem bind {x : ExceptT ReleaseFault Run α} {f : α → ExceptT ReleaseFault Run β}
    (hx : git.Ends x) (hf : ∀ a, git.Ends (f a)) : git.Ends (x >>= f) := by
  intro d d' cause h
  obtain h | ⟨a, d₁, -, h⟩ := run_bind_eq_error h
  · exact hx d d' cause h
  · exact hf a d₁ d' cause h

theorem mapM {f : α → ExceptT ReleaseFault Run β} (hf : ∀ a, git.Ends (f a)) (items : List α) :
    git.Ends (items.mapM f) := by
  intro d d' cause h
  obtain ⟨a, -, d₁, h⟩ := mapM_eq_error h
  exact hf a d₁ d' cause h

theorem decoded (bytes : ByteArray) : git.Ends (ReleaseSource.decoded bytes) := by
  intro d d' cause h
  obtain ⟨fault, -, hfault⟩ := Attempt.mapError_eq_error (congrArg Prod.fst h)
  cases hfault

theorem runGit (arguments : List String) (directory : Option String) :
    git.Ends (ReleaseSource.runGit git arguments directory) := by
  intro d d' cause h
  obtain h | ⟨outcome, d₁, hgit, h⟩ := run_bind_eq_error h
  · cases h
  cases outcome with
  | error e =>
    dsimp only at h
    split at h
    · cases directory <;> cases h
    · next hfault =>
      cases h
      rw [run_lift] at hgit
      obtain ⟨hresult, rfl⟩ := Prod.mk.inj hgit
      exact ⟨hfault, arguments, directory, d, _, Prod.ext (Except.ok.inj hresult) rfl⟩
  | ok report =>
    refine bind (decoded report.output) (fun output => ?_) d₁ d' cause h
    refine bind (decoded report.messages) fun messages => ?_
    split
    · exact pure output
    · exact fun _ _ _ h => nomatch h

end Git.Ends

namespace ReleaseSource

variable {git : Git Run} {directory schemaDir : String}

theorem ends_files (tag : String) :
    git.Ends ((inRepository git directory schemaDir).files tag) := by
  intro d d' cause h
  obtain h | ⟨outcome, d₁, hgit, h⟩ := run_bind_eq_error h
  · cases h
  rw [run_lift] at hgit
  obtain ⟨hresult, rfl⟩ := Prod.mk.inj hgit
  obtain rfl := Except.ok.inj hresult
  split at h
  · cases h
  · cases h
  · next fault hsource hfault =>
    cases h
    exact Git.Ends.runGit _ _ d _ cause (Prod.ext hfault rfl)

theorem ends_ofTag (tag : String) (version : Version) :
    git.Ends (Release.ofTag (inRepository git directory schemaDir) tag version) := by
  have hread (category : Category) (files : List String) : git.Ends
      (Release.readDocuments ((inRepository git directory schemaDir).read tag) category files) :=
    (Git.Ends.mapM (fun _ => (Git.Ends.runGit _ _).bind fun _ => .pure _) _).bind fun _ => .pure _
  exact (ends_files tag).bind fun _ => (hread _ _).bind fun _ => (hread _ _).bind fun _ => .pure _

theorem ends_collect (tags : List String) (found : List Release) :
    git.Ends (Release.collect (inRepository git directory schemaDir) found tags) := by
  induction tags generalizing found with
  | nil => exact .pure found
  | cons tag rest ih =>
    rw [Release.collect]
    split
    · exact ih found
    · split
      · exact ih found
      · exact (ends_ofTag tag _).bind fun release => ih _

/-- Reading a repository that is at hand ends with a fault of storage only where git cannot be
run. -/
theorem ends_readAll (tags : Option (List String)) :
    git.Ends (Release.readAll (inRepository git directory schemaDir) tags) := by
  cases tags with
  | some tags => exact (ends_collect tags []).bind fun _ => .pure _
  | none =>
    exact ((Git.Ends.runGit _ _).bind fun _ => .pure _).bind fun tags =>
      (ends_collect tags []).bind fun _ => .pure _

theorem ends_readAllChecked (tags : Option (List String)) :
    git.Ends (Release.readAllChecked (inRepository git directory schemaDir) tags) :=
  (ends_readAll tags).bind fun _ => .pure _

theorem inquires_isRepository (directory : String) :
    Inquires (isRepository directory : StorageT Run Bool) := inquires_anyM fun _ => inquires_leads _

theorem isRepository_eq_error {e : StorageError}
    (h : d.answer (isRepository directory : StorageT Run Bool) = .error e) :
    ∃ name ∈ repositoryNames, d.Unreachable (Path.below directory name) ∧
      e = ⟨.nameTooLong, Path.below directory name, none⟩ := by
  rw [isRepository] at h
  obtain ⟨name, hname, hleads⟩ := answer_anyM_eq_error (fun _ => inquires_leads _) h
  obtain ⟨rfl, hunreachable⟩ := leads_eq_error hleads
  exact ⟨name, hname, hunreachable, rfl⟩

theorem absent_of_isRepository
    (h : d.answer (isRepository directory : StorageT Run Bool) = .ok false) :
    ∀ name ∈ repositoryNames, d.kindOf (Path.below directory name) = none := by
  intro name hname
  rw [isRepository] at h
  have hleads := answer_of_anyM_eq_false (fun _ => inquires_leads _) h name hname
  exact Option.isNone_iff_eq_none.1 (Option.isSome_eq_false_iff.1 (isSome_of_leads hleads).symm)

/-- Why the reading of a repository ends with a fault of storage, by what is on the disk before git
is run, and by git. -/
inductive Denies (git : Git Run) (directory : String) (d : Disk) : StorageError → Prop
  | unreachable {name : String} (hname : name ∈ repositoryNames)
      (hpath : d.Unreachable (Path.below (Path.tidy directory) name)) :
      Denies git directory d ⟨.nameTooLong, Path.below (Path.tidy directory) name, none⟩
  /-- There is no repository yet, and the directory for it cannot be made. -/
  | parents {cause : StorageError} {d' : Disk}
      (habsent : ∀ name ∈ repositoryNames,
        d.kindOf (Path.below (Path.tidy directory) name) = none)
      (hmake : (makeAscent (Path.ascent (Path.tidy (Path.parent (Path.tidy directory)))) :
        StorageT Run Unit).run d = (.error cause, d')) : Denies git directory d cause
  | git {cause : StorageError} (hgit : git.Fails cause) : Denies git directory d cause

theorem denies_of_ofRepository {url : String} {cause : StorageError} {d' : Disk}
    (h : (ofRepository git url directory schemaDir).run d
      = (.error (.reading (.storage cause)), d')) : Denies git directory d cause := by
  have hasks : Inquires (asFault (isRepository (Path.tidy directory)) : ExceptT _ Run Bool) :=
    (inquires_isRepository _).adapt _
  obtain h | ⟨path, d₁, -, h⟩ := run_bind_eq_error h
  · rw [prepare] at h
    -- what is asked for is asked on the disk as it is, and so is the directory made
    obtain h | ⟨found, hfound, h⟩ := hasks.bind_eq_error h
    · rw [answer_asFault] at h
      obtain ⟨e, he, hcause⟩ := Attempt.mapError_eq_error h
      obtain ⟨name, hname, hpath, rfl⟩ := isRepository_eq_error he
      cases hcause
      exact .unreachable hname hpath
    rw [answer_asFault] at hfound
    split at h
    · exact .git (((Git.Ends.runGit _ _).bind fun _ => .pure _) d d' cause h)
    · next habsent =>
      obtain rfl : found = false := by simpa using habsent
      obtain hmake | ⟨_, d₂, -, h⟩ := run_bind_eq_error h
      · rw [asFault, run_adapt] at hmake
        obtain ⟨hresult, -⟩ := Prod.mk.inj hmake
        obtain ⟨e, he, hcause⟩ := Attempt.mapError_eq_error hresult
        obtain rfl := ReadError.storage.inj (ReleaseFault.reading.inj hcause)
        exact .parents (absent_of_isRepository (Attempt.mapError_eq_ok hfound)) (run_of_answer he)
      · exact .git (((Git.Ends.runGit _ _).bind fun _ => .pure _) d₂ d' cause h)
  · cases h

end ReleaseSource

end ControlSchema
