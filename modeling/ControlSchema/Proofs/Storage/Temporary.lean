import ControlSchema.Proofs.Storage.Flat

/-!
# Temporary directories

A temporary directory is made in the directory that its path is in, which is made
first if it is missing. Its name is the name of the path between points, with a
number, so it is never the name that the path itself ends in.
-/

namespace ControlSchema

namespace Storage

open Disk

/-- A name between the marks of a temporary directory. -/
def marked (name middle : String) : String := "." ++ name ++ "." ++ middle ++ ".tmp"

theorem two_lt_length_marked (name middle : String) :
    2 < (marked name middle).length ∧ name.length < (marked name middle).length := by
  have hpoint : ".".length = 1 := rfl
  have hending : ".tmp".length = 4 := rfl
  simp only [marked, String.length_append]
  omega

theorem marked_ne (name middle : String) : marked name middle ≠ name := fun h =>
  absurd (congrArg String.length h) (two_lt_length_marked name middle).2.ne'

theorem isName_marked {name middle : String} (h : '/' ∉ name.toList)
    (hmiddle : '/' ∉ middle.toList) :
    IsName (marked name middle) := by
  have hlong := (two_lt_length_marked name middle).1
  refine ⟨fun heq => ?_, fun heq => ?_, fun heq => ?_, ?_⟩
  · exact absurd (heq ▸ hlong) (by decide)
  · exact absurd (heq ▸ hlong) (by decide)
  · exact absurd (heq ▸ hlong) (by decide)
  · simp only [marked, String.toList_append, List.mem_append, not_or]
    exact ⟨⟨⟨⟨by decide, h⟩, by decide⟩, hmiddle⟩, by decide⟩

/-- The numbered names of temporary directories beside a name. -/
def temporaryName (name : String) (n : Nat) : String := marked name (padded 8 n)

theorem isName_temporaryName {name : String} (h : IsName name) (n : Nat) :
    IsName (temporaryName name n) := by
  refine isName_marked h.not_mem ?_
  rw [padded, String.toList_ofList, List.mem_append, not_or]
  exact ⟨fun hzero => absurd (List.eq_of_mem_replicate hzero) (by decide),
    fun hdigit => absurd (Nat.isDigit_of_mem_toDigits (by decide) (by decide) hdigit) (by decide)⟩

/-- The directory that a temporary directory is made in. -/
def besideDirectory (d : Disk) (path : String) : String :=
  Path.parent (Path.absolute ("/" ++ "/".intercalate d.home) path)

theorem temporaryBeside_run (path : String) (d : Disk) :
    (temporaryBeside path : StorageT Run String).run d
      = (makeDirectories (besideDirectory d path) true >>= fun _ =>
          (makeTemporary (besideDirectory d path) ("." ++ Path.baseName path ++ ".") ".tmp" :
            StorageT Run String)).run d := by
  have hasked : (ExceptT.lift workingDirectory : StorageT Run String).run d
      = (.ok ("/" ++ "/".intercalate d.home), d) := rfl
  rw [temporaryBeside, run_bind_of_ok hasked]
  rfl

section

variable {d d' : Disk} (hd : d.Sound) {path : String} {above : Trail} {name : String}
  (hspot : d.spot path = above ++ [name])
include hd hspot

theorem names_besideDirectory :
    Path.isAbsolute (besideDirectory d path) = true ∧
      Path.names (besideDirectory d path) = above := by
  obtain ⟨habsolute, hnames⟩ := names_absolute hd.home path
  rw [hspot] at hnames
  have hname : IsName name := isName_of_mem_spot hd.home path name (hspot ▸ by simp)
  exact ⟨(Path.names_parent habsolute).1,
    Path.names_parent_of_baseName habsolute hname hnames (baseName_absolute hd.home hspot)⟩

omit hd hspot in
/-- Where an absolute path of names leads. -/
theorem spot_of_isAbsolute (habsolute : Path.isAbsolute path = true)
    (hnames : ∀ n ∈ Path.names path, IsName n) : d.spot path = Path.names path := by
  rw [spot_eq_names, start, if_pos habsolute, walk_of_isName hnames, List.nil_append]

theorem isName_of_mem_above : ∀ n ∈ above, IsName n := fun n hn =>
  isName_of_mem_spot hd.home path n (hspot ▸ List.mem_append_left [name] hn)

/-- The paths of directories that are made lead to where the temporary directory will
be, or above. -/
theorem spot_lineage {other : String} (hother : other ∈ Path.lineage (besideDirectory d path)) :
    d.spot other <+: above := by
  obtain ⟨habsolute, hnames⟩ := names_besideDirectory hd hspot
  obtain ⟨hotherAbsolute, hwithin⟩ := Path.mem_lineage habsolute hother
  rw [hnames] at hwithin
  rw [spot_of_isAbsolute hotherAbsolute fun n hn =>
    isName_of_mem_above hd hspot n (hwithin.subset hn)]
  exact hwithin

theorem spot_besideDirectory : d.spot (besideDirectory d path) = above := by
  obtain ⟨habsolute, hnames⟩ := names_besideDirectory hd hspot
  rw [spot_of_isAbsolute habsolute (by rw [hnames]; exact isName_of_mem_above hd hspot), hnames]

theorem runs_makeAbove :
    Runs (grown above) (makeDirectories (besideDirectory d path) true : StorageT Run Unit) d :=
  runs_makeLineage hd true fun _ hother => spot_lineage hd hspot hother

end

/-- A temporary directory for a name in a directory, on a disk that was made from
another to have it. -/
structure Prepared (d d' : Disk) (temporary : String) (above : Trail) (name : String) (n : Nat) :
    Prop where
  /-- The directory and those above it may be new. -/
  evolves : Evolves ((grown above).except (above ++ [temporaryName name n])) d d'
  directory : d'.node? above = some .directory
  unused : ∀ place, above ++ [temporaryName name n] <+: place → d.node? place = none
  absolute : Path.isAbsolute temporary = true
  names : Path.names temporary = above ++ [temporaryName name n]
  flat : Flat d' temporary (above ++ [temporaryName name n])
  empty : ∀ inner, d'.node? (above ++ [temporaryName name n] ++ [inner]) = none

namespace Prepared

variable {d d' d'' : Disk} {temporary : String} {above : Trail} {name : String} {n : Nat}

/-- Filling the directory changes nothing else. -/
theorem evolves_writeFiles (h : Prepared d d' temporary above name n)
    {files : List (String × String)} (hinner : ∀ file ∈ files, Path.IsInner file.1) :
    Evolves ((grown above).except (above ++ [temporaryName name n])) d
      ((writeFiles temporary files).run d').2 :=
  h.evolves.trans ((steady_grown above).except _) <|
    (h.flat.runs_writeFiles hinner).evolves.mono fun _ _ _ hfate => hfate.imp_left Or.inl

/-- The directory is filled when no change fails. -/
theorem exists_writeFiles (h : Prepared d d' temporary above name n) (hquiet : Quiet d)
    {files : List (String × String)}
    (hfiles : ∀ file ∈ files, IsName file.1 ∧ file.1.utf8ByteSize ≤ nameLimit) :
    ∃ d'', (writeFiles temporary files).run d' = (.ok (), d'') ∧
      Flat d'' temporary (above ++ [temporaryName name n]) ∧
      Evolves (inside (above ++ [temporaryName name n])) d' d'' ∧
      Evolves ((grown above).except (above ++ [temporaryName name n])) d d'' := by
  have hinner : ∀ file ∈ files, Path.IsInner file.1 := fun file hfile =>
    Path.IsInner.of_isName (hfiles file hfile).1
  have hwritten := h.flat.writeFiles_of_quiet (hquiet.of_evolves h.evolves) hfiles
  exact ⟨_, Prod.ext hwritten rfl, h.flat.writeFiles hinner,
    (h.flat.runs_writeFiles hinner).evolves, h.evolves_writeFiles hinner⟩

/-- Nothing has happened yet at the place that the directory is for. -/
theorem node?_of_evolves
    (hd'' : Evolves ((grown above).except (above ++ [temporaryName name n])) d d'')
    {place : Trail} (hplace : above ++ [name] <+: place) : d''.node? place = d.node? place :=
  eq_of_grown hplace <| (hd''.nodes place).resolve_right <|
    disjoint_of_ne (marked_ne name _).symm hplace

/-- All directories are still there. -/
theorem directory_of_evolves (h : Prepared d d' temporary above name n)
    (hd'' : Evolves ((grown above).except (above ++ [temporaryName name n])) d d'')
    {place : Trail} (hplace : d.node? place = some .directory) :
    d''.node? place = some .directory := by
  rcases hd''.nodes place with (hsame | hnew) | hinside
  · rw [hsame, hplace]
  · exact hnew.2.2
  · rw [h.unused place hinside] at hplace
    cases hplace

end Prepared

section

variable {d d' : Disk} (hd : d.Sound) {path : String} {above : Trail} {name : String}
  (hspot : d.spot path = above ++ [name])
include hd hspot

/-- A temporary directory has been made. -/
theorem temporaryBeside_eq_ok (hbase : Path.baseName path = name) {temporary : String}
    (h : (temporaryBeside path : StorageT Run String).run d = (.ok temporary, d')) :
    ∃ n, Prepared d d' temporary above name n := by
  rw [temporaryBeside_run] at h
  obtain ⟨_, d₁, hmade, h⟩ := run_bind_eq_ok h
  have hevolves := (runs_makeAbove hd hspot).evolves
  rw [hmade] at hevolves
  obtain ⟨-, d₂, hmake, rfl⟩ := change_eq_ok h
  obtain ⟨hplace, hdirectory, fresh, hfresh, hshort, rfl, rfl⟩ := makeTemporary_eq_ok hmake
  have habove : d₁.spot (besideDirectory d path) = above := by
    rw [hevolves.spot, spot_besideDirectory hd hspot]
  rw [habove] at hplace hdirectory hfresh
  obtain ⟨⟨n, hnumber⟩, hunused⟩ :=
    freshName_spec d₁ above ("." ++ Path.baseName path ++ ".") ".tmp"
  rw [← hfresh, hbase] at hnumber
  rw [← hfresh] at hunused
  obtain rfl : fresh = temporaryName name n := hnumber
  have hname : IsName name := isName_of_mem_spot hd.home path name (hspot ▸ by simp)
  have htemporary := isName_temporaryName hname n
  have habsent (place : Trail) (hplace : above ++ [temporaryName name n] <+: place) :
      d₁.node? place = none := hevolves.sound.node?_eq_none_of_within hunused hplace
  have hput (place : Trail) : ((d₁.put (above ++ [temporaryName name n]) .directory).counted
      (d₁.steps + 1)).node? place = if place = above ++ [temporaryName name n] then
        some .directory else d₁.node? place := node?_put (concat_ne_nil above _) _ place
  have hkept (place : Trail) (hplace : place <+: above) :
      ((d₁.put (above ++ [temporaryName name n]) .directory).counted (d₁.steps + 1)).node? place
        = d₁.node? place := by
    rw [hput, if_neg]
    rintro rfl
    exact not_concat_prefix above _ hplace
  obtain ⟨habsolute, hnames⟩ := names_besideDirectory hd hspot
  have hsound := (hevolves.sound.put htemporary hdirectory (Or.inl rfl)).counted (d₁.steps + 1)
  have hrelative := Path.isAbsolute_of_not_mem htemporary.not_mem
  rw [habove]
  have hinner (inner : String) : ((d₁.put (above ++ [temporaryName name n]) .directory).counted
      (d₁.steps + 1)).node? (above ++ [temporaryName name n] ++ [inner]) = none := by
    rw [hput, if_neg (by simp), habsent _ (List.prefix_append _ _)]
  refine ⟨n, ?_, ?_, ?_, ?_, ?_, ?_, hinner⟩
  · refine ⟨hsound, hevolves.home, hevolves.failing, Nat.le_succ_of_le hevolves.steps,
      fun place => ?_⟩
    rw [hput]
    split
    · rename_i heq
      exact Or.inr (heq ▸ List.prefix_rfl)
    · exact Or.inl (hevolves.nodes place)
  · rw [hkept above List.prefix_rfl, hdirectory]
  · intro place hplace
    rcases hevolves.nodes place with hsame | hnew
    · rw [← hsame, habsent place hplace]
    · exact hnew.2.1
  · rw [Path.isAbsolute_join _ hrelative, habsolute]
  · rw [Path.names_join _ hrelative, hnames, Path.names_of_matters
      ⟨htemporary.ne_empty, htemporary.ne_point, htemporary.not_mem⟩]
  · refine ⟨hsound, ?_, ?_, fun inner => ?_, fun inner hnode => absurd (hinner inner) hnode⟩
    · refine Disk.place_join (place_of_above hplace habsolute hnames
        (isName_of_mem_above hd hspot) fun place hwithin hnode => ?_) ?_ htemporary hshort
      · rw [hkept place hwithin, hnode]
      · rw [hkept above List.prefix_rfl, hdirectory]
    · rw [hput, if_pos rfl]
    · rw [hinner]
      exact nofun

/-- Where none could be made, no more than directories above it were. -/
theorem evolves_of_temporaryBeside_eq_error {e : StorageError}
    (h : (temporaryBeside path : StorageT Run String).run d = (.error e, d')) :
    Evolves (grown above) d d' := by
  have hevolves := (runs_makeAbove hd hspot).evolves
  rw [temporaryBeside_run] at h
  rcases run_bind_eq_error h with hmake | ⟨_, d₁, hmade, htemporary⟩
  · rw [hmake] at hevolves
    exact hevolves
  · rw [hmade] at hevolves
    obtain ⟨rfl, -⟩ := change_eq_error htemporary
    exact hevolves.counted (Nat.le_succ_of_le hevolves.steps)

end

end Storage

end ControlSchema
