import ControlSchema.Proofs.Storage.Evolution

/-!
# What operations leave alone

Making a lineage only adds directories above a place, taking a tree away only takes
from below it, and a temporary directory is a new name beside its path.
-/

namespace ControlSchema

namespace Storage

open Disk

/-! ## Lineages -/

/-- The last step of a lineage. -/
def makeLast (mayExist : Bool) (path : String) : StorageT Run Unit :=
  ExceptT.lift (makeDirectory path).run >>= fun
    | .ok () => pure ()
    | .error e => ExceptT.lift (isDirectory path) >>= fun found =>
      if (!(mayExist && found)) = true then throw e else pure ()

/-- What follows the directories above. -/
def makeInner (mayExist : Bool) (path : String) : StorageT Run Unit :=
  if (Path.split path).2 == "." then pure () else makeLast mayExist path

/-- A lineage with directories above it. -/
def makeWithin (mayExist : Bool) (path head : String) (above : List String) : StorageT Run Unit :=
  ExceptT.lift (present head) >>= fun found =>
    if (!found) = true then
      ExceptT.lift (makeLineage mayExist above).run >>= fun
        | .ok () => makeInner mayExist path
        | .error e => if e.fault ≠ .alreadyExists then throw e else makeInner mayExist path
    else makeLast mayExist path

theorem makeLineage_cons (mayExist : Bool) (path : String) (above : List String) :
    (makeLineage mayExist (path :: above) : StorageT Run Unit)
      = above.head?.elim (makeLast mayExist path) fun head =>
        makeWithin mayExist path head above := by
  rw [makeLineage]
  cases above.head? with
  | none => rfl
  | some head =>
    refine congrArg (_ >>= ·) (funext fun found => ?_)
    split
    · refine congrArg (_ >>= ·) (funext fun r => ?_)
      cases r with
      | ok a => rfl
      | error e =>
        simp only
        split <;> rfl
    · rfl

section

variable {d : Disk} (hd : d.Sound) {bottom : Trail}
include hd

theorem runs_makeDirectory {path : String} (hpath : d.spot path <+: bottom) :
    Runs (grown bottom) (makeDirectory path : StorageT Run Unit) d := by
  refine Runs.alter (steady_grown bottom) hd (own_makeDirectory d path) fun d₁ h => ?_
  obtain ⟨above, name, hspot, hin, hnone, rfl⟩ := hd.makeDirectory_eq_ok h
  refine ⟨hd.put hin.isName hin.directory (Or.inl rfl), rfl, rfl, fun place => ?_⟩
  rw [node?_put (concat_ne_nil above name)]
  split
  · rename_i heq
    rw [heq, ← hspot]
    exact Or.inr ⟨hpath, hspot ▸ hnone, rfl⟩
  · exact Or.inl rfl

theorem runs_makeLast (mayExist : Bool) {path : String} (hpath : d.spot path <+: bottom) :
    Runs (grown bottom) (makeLast mayExist path) d := by
  refine Runs.attempt (steady_grown bottom) (runs_makeDirectory hd hpath) fun r d' hrun hd' => ?_
  cases r with
  | ok a => exact Or.inl (Runs.pure (steady_grown bottom) hd'.sound ())
  | error e =>
    have hasked : (ExceptT.lift (isDirectory path) : StorageT Run Bool).run d'
        = (.ok (d'.kindOf path == some .directory), d') := by
      rw [run_lift, isDirectory_eq]
    by_cases hthrow : (!(mayExist && d'.kindOf path == some .directory)) = true
    · refine Or.inr ⟨e, rfl, ?_⟩
      rw [run_bind_of_ok hasked, if_pos hthrow]
      rfl
    · refine Or.inl ?_
      refine Runs.bind (steady_grown bottom) (Runs.lift (steady_grown bottom) hd'.sound ?_)
        fun a d'' h _ => ?_
      · rw [isDirectory_eq]
      · rw [hasked] at h
        cases h
        rw [if_neg hthrow]
        exact Runs.pure (steady_grown bottom) hd'.sound ()

/-- A lineage only adds directories above its end. -/
theorem runs_makeLineage (mayExist : Bool) {paths : List String}
    (hpaths : ∀ path ∈ paths, d.spot path <+: bottom) :
    Runs (grown bottom) (makeLineage mayExist paths : StorageT Run Unit) d := by
  induction paths generalizing d with
  | nil => exact Runs.pure (steady_grown bottom) hd ()
  | cons path above ih =>
    obtain ⟨hpath, habove⟩ := List.forall_mem_cons.1 hpaths
    rw [makeLineage_cons]
    cases above.head? with
    | none => exact runs_makeLast hd mayExist hpath
    | some head =>
      have hinner {d' : Disk} (hd' : d'.Sound) (hspot : d'.spot path <+: bottom) :
          Runs (grown bottom) (makeInner mayExist path) d' := by
        rw [makeInner]
        split
        · exact Runs.pure (steady_grown bottom) hd' ()
        · exact runs_makeLast hd' mayExist hspot
      refine Runs.bind (steady_grown bottom) (Runs.lift (steady_grown bottom) hd ?_)
        fun a d' h _ => ?_
      · rw [present_eq]
      · obtain rfl : d' = d := by
          rw [run_lift, present_eq] at h
          cases h
          rfl
        split
        · have hlineage := ih hd habove
          refine Runs.attempt (steady_grown bottom) hlineage fun r d₁ _ hd₁ => ?_
          have hspot : d₁.spot path <+: bottom := by rwa [hd₁.spot]
          cases r with
          | ok a => exact Or.inl (hinner hd₁.sound hspot)
          | error e =>
            by_cases hthrow : e.fault ≠ .alreadyExists
            · exact Or.inr ⟨e, rfl, by simp only [if_pos hthrow]; rfl⟩
            · simp only [if_neg hthrow]
              exact Or.inl (hinner hd₁.sound hspot)
        · exact runs_makeLast hd mayExist hpath

/-! ## Trees -/

variable {top : Trail}

omit hd in
theorem lost_clear (h : d.Sound) {place : Trail} (hplace : top <+: place) (other : Trail) :
    lost top other (d.node? other) ((d.clear place).node? other) := by
  rw [h.node?_clear]
  split
  · rename_i hgone
    exact Or.inr ⟨hplace.trans hgone.2, rfl⟩
  · exact Or.inl rfl

theorem runs_removeFile {path : String} (hpath : top <+: d.spot path) :
    Runs (lost top) (removeFile path : StorageT Run Unit) d := by
  refine Runs.alter (steady_lost top) hd (own_removeFile d path) fun d₁ h => ?_
  obtain ⟨-, rfl⟩ := removeFile_eq_ok h
  exact ⟨hd.clear _, rfl, rfl, lost_clear hd hpath⟩

theorem runs_removeDirectory {path : String} (hpath : top <+: d.spot path) :
    Runs (lost top) (removeDirectory path : StorageT Run Unit) d := by
  refine Runs.alter (steady_lost top) hd (own_removeDirectory d path) fun d₁ h => ?_
  obtain ⟨-, -, rfl⟩ := removeDirectory_eq_ok h
  exact ⟨hd.clear _, rfl, rfl, lost_clear hd hpath⟩

/-- What is listed in a directory stands below it. -/
theorem prefix_spot_join {path name : String} {d' : Disk} {found : List String}
    (hpath : top <+: d.spot path) (hfound : (names path : StorageT Run _).run d = (.ok found, d'))
    (hname : name ∈ found) {fate : Fate} {d₁ : Disk} (hd₁ : Evolves fate d' d₁) :
    top <+: d₁.spot (Path.join path name) := by
  obtain ⟨hnames, rfl⟩ := inquire_eq_ok hfound
  obtain ⟨-, -, rfl⟩ := names_eq_ok hnames
  rw [hd₁.spot, spot_join_name d' path (isName_of_mem_namesAt hd hname)]
  exact hpath.trans (List.prefix_append _ _)

/-- What taking a tree away does to one of its entries. -/
def removeEntry (depth : Nat) (path name : String) : StorageT Run Unit := do
  let inner := Path.join path name
  if ← ExceptT.lift (isDirectory inner) then removeDown depth inner else removeFile inner

omit hd in
theorem removeDown_succ (depth : Nat) (path : String) :
    (removeDown (depth + 1) path : StorageT Run Unit) = (names path >>= fun found =>
      found.forM (removeEntry depth path) >>= fun _ => removeDirectory path) := rfl

omit hd in
theorem removeEntry_run (depth : Nat) (path name : String) (d : Disk) :
    (removeEntry depth path name).run d
      = if d.kindOf (Path.join path name) == some .directory then
          (removeDown depth (Path.join path name) : StorageT Run Unit).run d
        else (removeFile (Path.join path name) : StorageT Run Unit).run d := by
  have hasked : (ExceptT.lift (isDirectory (Path.join path name)) : StorageT Run Bool).run d
      = (.ok (d.kindOf (Path.join path name) == some .directory), d) := by
    rw [run_lift, isDirectory_eq]
  rw [removeEntry, run_bind_of_ok hasked]
  split <;> rfl

theorem runs_removeEntry {depth : Nat} {path name : String}
    (hpath : top <+: d.spot (Path.join path name))
    (hdown : Runs (lost top) (removeDown depth (Path.join path name) : StorageT Run Unit) d) :
    Runs (lost top) (removeEntry depth path name) d := by
  have hfile := runs_removeFile hd hpath
  have hrun := removeEntry_run depth path name d
  split at hrun
  · exact ⟨hrun ▸ hdown.evolves, hrun ▸ hdown.blames⟩
  · exact ⟨hrun ▸ hfile.evolves, hrun ▸ hfile.blames⟩

/-- Taking a tree away takes nothing from outside of it, even where it ends in a
fault. -/
theorem runs_removeDown (depth : Nat) {path : String} (hpath : top <+: d.spot path) :
    Runs (lost top) (removeDown depth path : StorageT Run Unit) d := by
  induction depth generalizing d path with
  | zero =>
    refine ⟨Evolves.refl (steady_lost top) hd, fun e heq hfault => ?_⟩
    cases heq
    cases hfault
  | succ depth ih =>
    have hnames : Runs (lost top) (names path : StorageT Run _) d :=
      Runs.inquire (steady_lost top) hd (own_names d path)
    rw [removeDown_succ]
    refine Runs.bind (steady_lost top) hnames fun found d' hfound hd' => ?_
    refine Runs.bind (steady_lost top) (Runs.forM (steady_lost top) hd'.sound ?_)
      fun _ d'' _ hd'' => ?_
    · intro name hname d₁ hd₁
      have hinner := prefix_spot_join hd hpath hfound hname hd₁
      exact runs_removeEntry hd₁.sound hinner (ih hd₁.sound hinner)
    · refine runs_removeDirectory hd''.sound ?_
      rwa [hd''.spot, hd'.spot]

/-- Where a tree could not be taken away, the fault is about something in it. -/
theorem removeDown_eq_error (depth : Nat) {path : String} {d' : Disk} {e : StorageError}
    (h : (removeDown depth path : StorageT Run Unit).run d = (.error e, d')) :
    e.target = none ∧ d.spot path <+: d.spot e.path := by
  induction depth generalizing d path with
  | zero =>
    cases h
    exact ⟨rfl, List.prefix_rfl⟩
  | succ depth ih =>
    rw [removeDown_succ] at h
    rcases run_bind_eq_error h with hnames | ⟨found, d₁, hfound, hrest⟩
    · obtain ⟨-, rfl, htarget, -⟩ := inquire_eq_error hnames
      exact ⟨htarget, List.prefix_rfl⟩
    · obtain ⟨-, rfl⟩ := inquire_eq_ok hfound
      have hentries : ∀ name ∈ found, ∀ d₂, Evolves (lost (d₁.spot path)) d₁ d₂ →
          Runs (lost (d₁.spot path)) (removeEntry depth path name) d₂ := fun name hname d₂ hd₂ =>
        have hinner := prefix_spot_join hd List.prefix_rfl hfound hname hd₂
        runs_removeEntry hd₂.sound hinner (runs_removeDown hd₂.sound depth hinner)
      rcases run_bind_eq_error hrest with hloop | ⟨_, d₂, hloop, hremove⟩
      · obtain ⟨name, hname, d₂, hd₂, hentry⟩ :=
          Runs.forM_eq_error (steady_lost _) hd hentries hloop
        have hinner := prefix_spot_join hd List.prefix_rfl hfound hname hd₂
        rw [removeEntry_run] at hentry
        rw [← hd₂.spot e.path]
        split at hentry
        · obtain ⟨htarget, hwithin⟩ := ih hd₂.sound hentry
          exact ⟨htarget, hinner.trans hwithin⟩
        · obtain ⟨-, hrefused⟩ := alter_eq_error hentry
          exact ⟨hrefused.target, hrefused.path ▸ hinner⟩
      · obtain ⟨-, hrefused⟩ := alter_eq_error hremove
        exact ⟨hrefused.target, hrefused.path ▸ List.prefix_rfl⟩

/-- A tree that could be taken away is gone. -/
theorem removeDown_eq_ok (depth : Nat) {path : String} {d' : Disk}
    (h : (removeDown depth path : StorageT Run Unit).run d = (.ok (), d')) {other : Trail}
    (hother : d.spot path <+: other) (hne : other ≠ []) : d'.node? other = none := by
  cases depth with
  | zero => cases h
  | succ depth =>
    rw [removeDown_succ] at h
    obtain ⟨found, d₁, hfound, hrest⟩ := run_bind_eq_ok h
    obtain ⟨-, rfl⟩ := inquire_eq_ok hfound
    obtain ⟨_, d₂, hloop, hremove⟩ := run_bind_eq_ok hrest
    have hd₂ := (Runs.forM (steady_lost (d₁.spot path)) hd (f := removeEntry depth path)
      fun name hname d₂ hd₂ => have hinner := prefix_spot_join hd List.prefix_rfl hfound hname hd₂
      runs_removeEntry hd₂.sound hinner (runs_removeDown hd₂.sound depth hinner)).evolves
    rw [hloop] at hd₂
    obtain ⟨-, d₃, hremoved, rfl⟩ := alter_eq_ok hremove
    obtain ⟨-, -, rfl⟩ := removeDirectory_eq_ok hremoved
    rw [node?_counted, hd₂.sound.node?_clear, hd₂.spot, if_pos ⟨hne, hother⟩]

omit hd in
/-- What sweeping a directory does to one of its entries. -/
def sweepEntry (depth : Nat) (path name : String) : Run Unit := do
  let inner := Path.join path name
  if ← isDirectory inner then sweepDown depth inner
  else do let _ ← (removeFile inner : StorageT Run Unit).run

omit hd in
theorem sweepDown_of_ok (depth : Nat) {path : String} {found : List String} {d' : Disk}
    (h : (names path : StorageT Run _).run d = (.ok found, d')) :
    (sweepDown (depth + 1) path : Run Unit) d = ((), ((removeDirectory path : StorageT Run Unit).run
      ((found.forM (sweepEntry depth path) : Run Unit) d').2).2) := by
  rw [sweepDown, bind_apply, h]
  rfl

omit hd in
theorem sweepDown_of_error (depth : Nat) {path : String} {e : StorageError} {d' : Disk}
    (h : (names path : StorageT Run _).run d = (.error e, d')) :
    (sweepDown (depth + 1) path : Run Unit) d = ((), d') := by
  rw [sweepDown, bind_apply, h]
  rfl

/-- The same is true of sweeping. -/
theorem evolves_sweepDown (depth : Nat) {path : String} (hpath : top <+: d.spot path) :
    Evolves (lost top) d ((sweepDown depth path : Run Unit) d).2 := by
  induction depth generalizing d path with
  | zero => exact Evolves.refl (steady_lost top) hd
  | succ depth ih =>
    have hnames : Runs (lost top) (names path : StorageT Run _) d :=
      Runs.inquire (steady_lost top) hd (own_names d path)
    have hd' := hnames.evolves
    rcases hfound : (names path : StorageT Run _).run d with ⟨r, d'⟩
    rw [hfound] at hd'
    cases r with
    | error e =>
      rw [sweepDown_of_error depth hfound]
      exact hd'
    | ok found =>
      rw [sweepDown_of_ok depth hfound]
      have hloop : Evolves (lost top) d'
          ((found.forM (sweepEntry depth path) : Run Unit) d').2 := by
        refine evolves_forM (steady_lost top) hd'.sound fun name hname d₁ hd₁ => ?_
        have hinner := prefix_spot_join hd hpath hfound hname hd₁
        rw [sweepEntry, bind_apply, isDirectory_eq]
        split
        · exact ih hd₁.sound hinner
        · exact (runs_removeFile hd₁.sound hinner).evolves
      refine hd'.trans (steady_lost top) (hloop.trans (steady_lost top) ?_)
      refine (runs_removeDirectory hloop.sound ?_).evolves
      rwa [hloop.spot, hd'.spot]

theorem evolves_sweepEntry (depth : Nat) {path name : String}
    (hpath : top <+: d.spot (Path.join path name)) :
    Evolves (lost top) d (sweepEntry depth path name d).2 := by
  rw [sweepEntry, bind_apply, isDirectory_eq]
  split
  · exact evolves_sweepDown hd depth hpath
  · exact (runs_removeFile hd hpath).evolves

end

end Storage

end ControlSchema
