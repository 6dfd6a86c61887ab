import ControlSchema.Proofs.Storage.Operation

/-!
# Flat directories

A directory that holds files only can be filled file by file: a name with a slash in
it would lead through a file or through nothing, so such a write is refused, and
every write that is not puts one file there. And it can be swept away whole, as long
as no change fails: each file goes, the way to the directory stays open, and what is
left is empty. A directory of any depth is taken away in the same manner, if the way to
it does not lead through what is in it.
-/

namespace ControlSchema

namespace Path

/-- A relative path that goes down at first. -/
structure IsInner (path : String) : Prop where
  relative : isAbsolute path = false
  first : ∀ piece rest, pieces path = piece :: rest → IsName piece

theorem IsInner.of_isName {name : String} (h : IsName name) : IsInner name where
  relative := isAbsolute_of_not_mem h.not_mem
  first := by
    intro piece rest hpieces
    rw [pieces_of_not_mem h.not_mem] at hpieces
    exact (List.cons.inj hpieces).1 ▸ h

end Path

namespace Storage

open Disk

/-- A directory of files that a path leads to. -/
structure Flat (d : Disk) (path : String) (place : Trail) : Prop where
  sound : d.Sound
  leads : d.place path = .ok place
  directory : d.node? place = some .directory
  files : ∀ name, d.node? (place ++ [name]) ≠ some .directory
  short : ∀ name, d.node? (place ++ [name]) ≠ none → name.utf8ByteSize ≤ nameLimit

/-- No change fails any more. -/
def Quiet (d : Disk) : Prop := ∀ n, d.steps ≤ n → d.failing n = false

theorem Quiet.of_evolves {d d' : Disk} {fate : Fate} (h : Quiet d) (hd' : Evolves fate d d') :
    Quiet d' := fun n hn => hd'.failing ▸ h n (hd'.steps.trans hn)

section

variable {d d' : Disk} {path : String} {place : Trail}

/-- A path leads where it led before, if no directory is lost. -/
theorem place_of_directories (h : d.place path = .ok place) (hhome : d'.home = d.home)
    (hkept : ∀ other, d.node? other = some .directory → d'.node? other = some .directory) :
    d'.place path = .ok place := by
  obtain ⟨hne, hpassable, rfl⟩ := place_eq_ok_iff.1 h
  have hstart : d'.start path = d.start path := by rw [start, start, hhome]
  refine place_eq_ok_iff.2 ⟨hne, ?_, ?_⟩
  · rw [hstart]
    exact hpassable.mono fun _ _ _ _ => hkept _
  · rw [spot, spot, hstart]

/-- For a path of names only the directories above count. -/
theorem place_of_above (h : d.place path = .ok place) (habsolute : Path.isAbsolute path = true)
    (hnames : Path.names path = place) (hplace : ∀ name ∈ place, IsName name)
    (hkept : ∀ above, above <+: place → d.node? above = some .directory →
      d'.node? above = some .directory) : d'.place path = .ok place := by
  obtain ⟨hne, hpassable, hspot⟩ := place_eq_ok_iff.1 h
  have hstart (d : Disk) : d.start path = [] := if_pos habsolute
  rw [hstart] at hpassable
  refine place_eq_ok_iff.2 ⟨hne, ?_, ?_⟩
  · rw [hstart]
    refine hpassable.mono fun front piece back hpieces => hkept _ ?_
    have hsplit : place = front.filter Path.matters ++ (piece :: back).filter Path.matters := by
      rw [← hnames, Path.names_eq, hpieces, List.filter_append]
    have hfront : ∀ name ∈ front.filter Path.matters, IsName name := fun name hname =>
      hplace name (hsplit ▸ List.mem_append_left _ hname)
    rw [← walk_filter, walk_of_isName hfront, List.nil_append, hsplit]
    exact List.prefix_append _ _
  · rw [← hspot, spot, spot, hstart, hstart]

namespace Flat

theorem isName_of_mem (h : Flat d path place) : ∀ name ∈ place, IsName name :=
  h.sound.isName_of_node? (by rw [h.directory]; exact nofun)

theorem counted (h : Flat d path place) (steps : Nat) : Flat (d.counted steps) path place :=
  ⟨h.sound.counted steps, place_of_directories h.leads rfl fun _ => id, h.directory, h.files,
    h.short⟩

/-- What is lost elsewhere does not matter, if the path consists of names. -/
theorem of_lost {top : Trail} (h : Flat d path place) (habsolute : Path.isAbsolute path = true)
    (hnames : Path.names path = place) (hd' : Evolves (lost top) d d') (htop : ¬ top <+: place) :
    Flat d' path place := by
  have hsame (above : Trail) (hwithin : above <+: place) : d'.node? above = d.node? above :=
    (hd'.nodes above).resolve_right fun hgone => htop (hgone.1.trans hwithin)
  have hchild (name : String) : d'.node? (place ++ [name]) = d.node? (place ++ [name]) ∨
      d'.node? (place ++ [name]) = none := (hd'.nodes _).imp_right And.right
  refine ⟨hd'.sound, place_of_above h.leads habsolute hnames h.isName_of_mem fun above hwithin =>
    (hsame above hwithin).trans, (hsame place List.prefix_rfl).trans h.directory,
    fun name => ?_, fun name hname => ?_⟩
  · rcases hchild name with hsame | hnone
    · rw [hsame]
      exact h.files name
    · rw [hnone]
      exact nofun
  · rcases hchild name with hsame | hnone
    · exact h.short name (hsame ▸ hname)
    · exact absurd hnone hname

theorem place_join (h : Flat d path place) {name : String} (hname : IsName name)
    (hshort : name.utf8ByteSize ≤ nameLimit) :
    d.place (Path.join path name) = .ok (place ++ [name]) :=
  Disk.place_join h.leads h.directory hname hshort

theorem spot_join (h : Flat d path place) {name : String} (hname : IsName name) :
    d.spot (Path.join path name) = place ++ [name] := by
  rw [spot_join_name d path hname, ← spot_of_place h.leads]

/-! ## Filling -/

theorem put (h : Flat d path place) {name : String} (hname : IsName name)
    (hshort : name.utf8ByteSize ≤ nameLimit) (content : ByteArray) :
    Flat (d.put (place ++ [name]) (.file content)) path place := by
  have hput (other : Trail) : (d.put (place ++ [name]) (.file content)).node? other
      = if other = place ++ [name] then some (.file content) else d.node? other :=
    node?_put (concat_ne_nil place name) _ other
  have hkept (other : Trail) (hother : d.node? other = some .directory) :
      (d.put (place ++ [name]) (.file content)).node? other = some .directory := by
    rw [hput, if_neg (fun heq => h.files name (by rw [← heq, hother])), hother]
  refine ⟨h.sound.put hname h.directory (Or.inr (h.files name)),
    place_of_directories h.leads rfl hkept, hkept place h.directory, fun other => ?_,
    fun other hother => ?_⟩
  · rw [hput]
    split
    · exact nofun
    · exact h.files other
  · rw [hput] at hother
    split at hother
    · rename_i heq
      have hnames := (List.append_inj' heq rfl).2
      rwa [(List.cons.inj hnames).1]
    · exact h.short other hother

/-- A path into the directory leads to a name in it, or nowhere. -/
theorem isName_of_place (h : Flat d path place) {inner : String} (hinner : Path.IsInner inner)
    {target : Trail} (htarget : d.place (Path.join path inner) = .ok target) :
    IsName inner ∧ inner.utf8ByteSize ≤ nameLimit ∧ target = place ++ [inner] := by
  obtain ⟨-, hpassable, hspot⟩ := place_eq_ok_iff.1 htarget
  obtain ⟨front, empties, hempties, hpath, hjoin⟩ := Path.pieces_join path hinner.relative
  obtain ⟨first, rest, hpieces⟩ := List.exists_cons_of_ne_nil (Path.pieces_ne_nil inner)
  have hfirst := hinner.first first rest hpieces
  have hfront : walk (d.start path) front = place := by
    rw [spot_of_place h.leads, spot, hpath, walk_append, walk_empties hempties]
  rw [start_join d path hinner.relative, hjoin, passable_append, hfront, hpieces] at hpassable
  obtain ⟨-, -, hshort, hrest⟩ := hpassable
  cases rest with
  | nil =>
    obtain ⟨rfl, -⟩ := Path.eq_of_pieces hpieces
    exact ⟨hfirst, hshort, hspot.symm.trans (h.spot_join hfirst)⟩
  | cons next rest =>
    rw [stepTo_name hfirst] at hrest
    exact absurd hrest.1 (h.files first)

theorem writeText_eq_ok (h : Flat d path place) {inner text : String}
    (hinner : Path.IsInner inner)
    (hrun : (writeText (Path.join path inner) text : StorageT Run Unit).run d = (.ok (), d')) :
    IsName inner ∧ inner.utf8ByteSize ≤ nameLimit ∧
      d' = (d.put (place ++ [inner]) (.file text.toUTF8)).counted (d.steps + 1) := by
  obtain ⟨-, d₁, hwrite, rfl⟩ := alter_eq_ok hrun
  obtain ⟨target, htarget, hput⟩ := Attempt.bind_eq_ok hwrite
  obtain ⟨hname, hshort, rfl⟩ := h.isName_of_place hinner htarget
  refine ⟨hname, hshort, ?_⟩
  split at hput
  · cases hput
  · cases hput
    rfl

theorem writeText (h : Flat d path place) {inner : String} (hinner : Path.IsInner inner)
    (text : String) :
    Flat ((writeText (Path.join path inner) text : StorageT Run Unit).run d).2 path place := by
  rcases hrun : (Storage.writeText (Path.join path inner) text : StorageT Run Unit).run d
    with ⟨r, d'⟩
  cases r with
  | error e =>
    obtain ⟨rfl, -⟩ := alter_eq_error hrun
    exact h.counted _
  | ok _ =>
    obtain ⟨hname, hshort, rfl⟩ := h.writeText_eq_ok hinner hrun
    exact (h.put hname hshort _).counted _

theorem runs_writeText (h : Flat d path place) {inner : String} (hinner : Path.IsInner inner)
    (text : String) : Runs (inside place)
      (Storage.writeText (Path.join path inner) text : StorageT Run Unit) d := by
  refine Runs.alter (steady_inside place) h.sound (own_write d _ _) fun d₁ hwrite => ?_
  obtain ⟨target, htarget, hput⟩ := Attempt.bind_eq_ok hwrite
  obtain ⟨hname, hshort, rfl⟩ := h.isName_of_place hinner htarget
  split at hput
  · cases hput
  · cases hput
    refine ⟨(h.put hname hshort _).sound, rfl, rfl, fun other => ?_⟩
    rw [node?_put (concat_ne_nil place inner)]
    split
    · rename_i heq
      exact Or.inr (heq ▸ List.prefix_append place [inner])
    · exact Or.inl rfl

end Flat

/-- Writes files into a directory. -/
def writeFiles (path : String) (files : List (String × String)) : StorageT Run Unit :=
  files.forM fun file => writeText (Path.join path file.1) file.2

theorem writeFiles_cons (path : String) (file : String × String) (files : List (String × String)) :
    writeFiles path (file :: files)
      = (writeText (Path.join path file.1) file.2 >>= fun _ => writeFiles path files) := rfl

namespace Flat

section

variable {files : List (String × String)} (hinner : ∀ file ∈ files, Path.IsInner file.1)
include hinner

theorem writeFiles (h : Flat d path place) : Flat ((writeFiles path files).run d).2 path place :=
  forM_induction (P := fun d => Flat d path place) h fun file hfile _ hd =>
    hd.writeText (hinner file hfile) file.2

/-- Nothing is written outside of the directory. -/
theorem runs_writeFiles (h : Flat d path place) :
    Runs (inside place) (Storage.writeFiles path files) d := by
  induction files generalizing d with
  | nil => exact Runs.pure (steady_inside place) h.sound ()
  | cons file files ih =>
    obtain ⟨hfile, hrest⟩ := List.forall_mem_cons.1 hinner
    refine Runs.bind (steady_inside place) (h.runs_writeText hfile file.2) fun _ d' hrun _ => ?_
    have hd' := h.writeText hfile file.2
    rw [hrun] at hd'
    exact ih hrest hd'

/-- Each file is there with its text, and nothing else has changed. -/
theorem writeFiles_eq_ok (h : Flat d path place) (hnodup : (files.map Prod.fst).Nodup)
    (hrun : (Storage.writeFiles path files).run d = (.ok (), d')) :
    (∀ file ∈ files, IsName file.1 ∧
      d'.node? (place ++ [file.1]) = some (.file file.2.toUTF8)) ∧
    ∀ other, (∀ file ∈ files, other ≠ place ++ [file.1]) → d'.node? other = d.node? other := by
  induction files generalizing d with
  | nil =>
    cases hrun
    exact ⟨fun _ hfile => absurd hfile List.not_mem_nil, fun _ _ => rfl⟩
  | cons file files ih =>
    obtain ⟨hfile, hrest⟩ := List.forall_mem_cons.1 hinner
    obtain ⟨hnew, hnodup⟩ := List.nodup_cons.1 hnodup
    obtain ⟨_, d₁, hfirst, hlater⟩ := run_bind_eq_ok hrun
    have hd₁ := h.writeText hfile file.2
    rw [hfirst] at hd₁
    obtain ⟨hname, -, rfl⟩ := h.writeText_eq_ok hfile hfirst
    obtain ⟨hwritten, hothers⟩ := ih hrest hd₁ hnodup hlater
    have hput (other : Trail) : ((d.put (place ++ [file.1]) (.file file.2.toUTF8)).counted
        (d.steps + 1)).node? other = if other = place ++ [file.1] then
          some (.file file.2.toUTF8) else d.node? other :=
      node?_put (concat_ne_nil place file.1) _ other
    refine ⟨List.forall_mem_cons.2 ⟨⟨hname, ?_⟩, hwritten⟩, fun other hother => ?_⟩
    · -- No later file has the same name.
      rw [hothers _ fun later hmem heq => ?_, hput, if_pos rfl]
      have hnames := (List.append_inj' heq rfl).2
      exact hnew (List.mem_map.2 ⟨later, hmem, (List.cons.inj hnames).1.symm⟩)
    · obtain ⟨hne, hother⟩ := List.forall_mem_cons.1 hother
      rw [hothers other hother, hput, if_neg hne]

end

/-- Short names are written when no change fails. -/
theorem writeFiles_of_quiet (h : Flat d path place) (hquiet : Quiet d)
    {files : List (String × String)}
    (hfiles : ∀ file ∈ files, IsName file.1 ∧ file.1.utf8ByteSize ≤ nameLimit) :
    ((Storage.writeFiles path files).run d).1 = .ok () := by
  induction files generalizing d with
  | nil => rfl
  | cons file files ih =>
    obtain ⟨⟨hname, hshort⟩, hrest⟩ := List.forall_mem_cons.1 hfiles
    have hinner := Path.IsInner.of_isName hname
    have hd₁ := h.writeText hinner file.2
    have hquiet₁ := hquiet.of_evolves (h.runs_writeText hinner file.2).evolves
    rcases hrun : (Storage.writeText (Path.join path file.1) file.2 : StorageT Run Unit).run d
      with ⟨r, d₁⟩
    rw [hrun] at hd₁ hquiet₁
    cases r with
    | ok _ =>
      rw [writeFiles_cons, run_bind_of_ok hrun]
      exact ih hd₁ hquiet₁ hrest
    | error e =>
      obtain ⟨-, hrefused⟩ := alter_eq_error hrun
      rcases hrefused.fault with ⟨-, hfailing⟩ | haction
      · rw [hquiet d.steps (Nat.le_refl _)] at hfailing
        cases hfailing
      · -- The disk itself has no objection.
        simp only [Disk.write, h.place_join hname hshort, bind, Except.bind] at haction
        split at haction
        · rename_i hdirectory
          exact absurd hdirectory (h.files file.1)
        · cases haction

/-! ## Sweeping -/

/-- One file goes. -/
theorem clear (h : Flat d path place) (name : String) :
    Flat (d.clear (place ++ [name])) path place := by
  have hkept (other : Trail) (hother : d.node? other = some .directory) :
      (d.clear (place ++ [name])).node? other = some .directory := by
    rw [h.sound.node?_clear, if_neg, hother]
    rintro ⟨-, hbelow⟩
    have heq := h.sound.eq_of_within (h.files name) (by rw [hother]; exact nofun) hbelow
    exact h.files name (heq ▸ hother)
  have hchild (other : String) : (d.clear (place ++ [name])).node? (place ++ [other]) ≠ none →
      (d.clear (place ++ [name])).node? (place ++ [other]) = d.node? (place ++ [other]) := by
    rw [h.sound.node?_clear]
    split
    · exact fun hnone => absurd rfl hnone
    · exact fun _ => rfl
  refine ⟨h.sound.clear _, place_of_directories h.leads rfl hkept, hkept place h.directory,
    fun other hdirectory => ?_, fun other hother => ?_⟩
  · rw [hchild other (by rw [hdirectory]; exact nofun)] at hdirectory
    exact h.files other hdirectory
  · exact h.short other (hchild other hother ▸ hother)

theorem sweepEntry (h : Flat d path place) (hquiet : Quiet d) (depth : Nat) {name : String}
    (hname : IsName name) (hshort : name.utf8ByteSize ≤ nameLimit) :
    Flat (sweepEntry depth path name d).2 path place ∧
      Quiet (Storage.sweepEntry depth path name d).2 ∧
      (Storage.sweepEntry depth path name d).2.node? (place ++ [name]) = none := by
  have hinner := h.place_join hname hshort
  have hkind : (d.kindOf (Path.join path name) == some EntryKind.directory) = false := by
    rw [beq_eq_false_iff_ne, kindOf, hinner]
    exact fun hdirectory => h.files name (kindAt?_eq_directory.1 hdirectory)
  rw [Storage.sweepEntry, bind_apply, isDirectory_eq,
    if_neg (by rw [hkind]; exact Bool.false_ne_true)]
  rcases hrun : (removeFile (Path.join path name) : StorageT Run Unit).run d with ⟨r, d'⟩
  show Flat ((removeFile (Path.join path name) : StorageT Run Unit).run d).2 path place ∧
    Quiet ((removeFile (Path.join path name) : StorageT Run Unit).run d).2 ∧
    ((removeFile (Path.join path name) : StorageT Run Unit).run d).2.node? _ = none
  rw [hrun]
  cases r with
  | ok a =>
    obtain ⟨-, d₁, hremoved, rfl⟩ := alter_eq_ok hrun
    obtain ⟨-, rfl⟩ := removeFile_eq_ok hremoved
    rw [h.spot_join hname]
    refine ⟨(h.clear name).counted _, fun n hn => hquiet n (Nat.le_of_succ_le hn), ?_⟩
    rw [node?_counted, h.sound.node?_clear, if_pos ⟨concat_ne_nil place name, List.prefix_rfl⟩]
  | error e =>
    obtain ⟨rfl, hrefused⟩ := alter_eq_error hrun
    refine ⟨h.counted _, fun n hn => hquiet n (Nat.le_of_succ_le hn), ?_⟩
    rw [node?_counted]
    cases hnode : d.node? (place ++ [name]) with
    | none => rfl
    | some node =>
      cases node with
      | directory => exact absurd hnode (h.files name)
      | file content =>
        rcases hrefused.fault with ⟨-, hfailing⟩ | haction
        · rw [hquiet d.steps (Nat.le_refl _)] at hfailing
          cases hfailing
        · simp only [Disk.removeFile, hinner, bind, Except.bind, hnode] at haction
          cases haction

/-- All files go. -/
theorem forM_sweepEntry (h : Flat d path place) (hquiet : Quiet d) (depth : Nat)
    {found : List String} (hfound : ∀ name ∈ found, IsName name ∧ name.utf8ByteSize ≤ nameLimit) :
    Flat ((found.forM (Storage.sweepEntry depth path) : Run Unit) d).2 path place ∧
      Quiet ((found.forM (Storage.sweepEntry depth path) : Run Unit) d).2 ∧
      ∀ name, name ∈ found ∨ d.node? (place ++ [name]) = none →
        ((found.forM (Storage.sweepEntry depth path) : Run Unit) d).2.node? (place ++ [name])
          = none := by
  induction found generalizing d with
  | nil => exact ⟨h, hquiet, fun name hname => hname.resolve_left List.not_mem_nil⟩
  | cons first found ih =>
    obtain ⟨⟨hname, hshort⟩, hrest⟩ := List.forall_mem_cons.1 hfound
    obtain ⟨hflat, hquiet₁, hgone⟩ := h.sweepEntry hquiet depth hname hshort
    obtain ⟨hflat', hquiet', hgone'⟩ := ih hflat hquiet₁ hrest
    refine ⟨hflat', hquiet', fun name hname' => hgone' name ?_⟩
    rcases hname' with hname' | hnone
    · rcases List.mem_cons.1 hname' with rfl | hname'
      · exact Or.inr hgone
      · exact Or.inl hname'
    · have hspot : place <+: d.spot (Path.join path first) := by
        rw [h.spot_join hname]
        exact List.prefix_append _ _
      rcases (evolves_sweepEntry h.sound depth hspot).nodes (place ++ [name]) with hsame | hlost
      · exact Or.inr (hsame.trans hnone)
      · exact Or.inr hlost.2

/-- A flat directory is swept away whole. -/
theorem sweepDown (h : Flat d path place) (hquiet : Quiet d) (depth : Nat) (hplace : place ≠ [])
    {other : Trail} (hother : place <+: other) :
    ((Storage.sweepDown (depth + 1) path : Run Unit) d).2.node? other = none := by
  have hfound : ∀ name ∈ d.namesAt place, IsName name ∧ name.utf8ByteSize ≤ nameLimit :=
    fun name hname => ⟨isName_of_mem_namesAt h.sound hname, h.short name (mem_namesAt.1 hname)⟩
  obtain ⟨hflat, hquiet', hgone⟩ := h.forM_sweepEntry hquiet depth hfound
  rw [sweepDown_of_ok depth (Disk.names_run h.leads h.directory)]
  generalize ((d.namesAt place).forM (Storage.sweepEntry depth path) : Run Unit) d = swept
    at hflat hquiet' hgone ⊢
  have hempty : swept.2.namesAt place = [] := by
    refine List.eq_nil_iff_forall_not_mem.2 fun name hname => mem_namesAt.1 hname (hgone name ?_)
    by_cases hmem : name ∈ d.namesAt place
    · exact Or.inl hmem
    · exact Or.inr (not_not.1 fun hnode => hmem (mem_namesAt.2 hnode))
  rcases hrun : (removeDirectory path : StorageT Run Unit).run swept.2 with ⟨r, d'⟩
  cases r with
  | ok a =>
    obtain ⟨-, d₁, hremoved, rfl⟩ := alter_eq_ok hrun
    obtain ⟨-, -, rfl⟩ := removeDirectory_eq_ok hremoved
    rw [node?_counted, hflat.sound.node?_clear, ← spot_of_place hflat.leads,
      if_pos ⟨fun hnil => hplace (List.prefix_nil.1 (hnil ▸ hother)), hother⟩]
  | error e =>
    obtain ⟨-, hrefused⟩ := alter_eq_error hrun
    rcases hrefused.fault with ⟨-, hfailing⟩ | haction
    · rw [hquiet' _ (Nat.le_refl _)] at hfailing
      cases hfailing
    · simp only [Disk.removeDirectory, hflat.leads, bind, Except.bind, hflat.directory, hempty]
        at haction
      cases haction

end Flat

/-! ## Taking away -/

/-- A directory with all that is in it, not nested deeper than so many directories. The way to it
does not lead through what is in it. -/
structure Tree (d : Disk) (path : String) (place : Trail) (depth : Nat) : Prop where
  sound : d.Sound
  leads : d.place path = .ok place
  directory : d.node? place = some .directory
  way : ∀ name, ¬ d.Crosses path (place ++ [name])
  depth : ∀ other, place <+: other → d.node? other = some .directory →
    other.length < place.length + depth
  short : ∀ other name, place <+: other → d.node? (other ++ [name]) ≠ none →
    name.utf8ByteSize ≤ nameLimit

/-- A way through what is in a flat directory would be closed. -/
theorem Flat.tree (h : Flat d path place) (depth : Nat) : Tree d path place (depth + 1) where
  sound := h.sound
  leads := h.leads
  directory := h.directory
  way := by
    rintro name ⟨front, piece, back, hpieces, hwithin⟩
    obtain ⟨-, hpassable, -⟩ := place_eq_ok_iff.1 h.leads
    rw [hpieces, passable_append] at hpassable
    have hdirectory := hpassable.2.1
    by_cases heq : place ++ [name] = walk (d.start path) front
    · exact h.files name (heq ▸ hdirectory)
    · exact h.files name (h.sound.directory_of_within (by rw [hdirectory]; exact nofun) hwithin heq)
  depth := by
    rintro _ ⟨rest, rfl⟩ hdirectory
    cases rest with
    | nil =>
      rw [List.append_nil]
      omega
    | cons name rest =>
      refine absurd ?_ (h.files name)
      cases rest with
      | nil => exact hdirectory
      | cons next rest =>
        exact h.sound.directory_of_within (by rw [hdirectory]; exact nofun)
          ⟨next :: rest, by rw [List.append_assoc, List.singleton_append]⟩ (by simp)
  short := by
    rintro _ name ⟨rest, rfl⟩ hexists
    cases rest with
    | nil =>
      rw [List.append_nil] at hexists
      exact h.short name hexists
    | cons inner rest =>
      have hinner := h.sound.parents _ _ hexists
      refine absurd ?_ (h.files inner)
      cases rest with
      | nil => exact hinner
      | cons next rest =>
        exact h.sound.directory_of_within (by rw [hinner]; exact nofun)
          ⟨next :: rest, by rw [List.append_assoc, List.singleton_append]⟩ (by simp)

namespace Tree

variable {depth : Nat}

theorem isName (h : Tree d path place depth) {name : String}
    (hexists : d.node? (place ++ [name]) ≠ none) : IsName name :=
  h.sound.isName_of_node? hexists name (by simp)

theorem place_join (h : Tree d path place depth) {name : String}
    (hexists : d.node? (place ++ [name]) ≠ none) :
    d.place (Path.join path name) = .ok (place ++ [name]) :=
  Disk.place_join h.leads h.directory (h.isName hexists)
    (h.short place name List.prefix_rfl hexists)

/-- What is lost in the directory does not matter. -/
theorem of_lost {name : String} (h : Tree d path place depth)
    (hd' : Evolves (lost (place ++ [name])) d d') : Tree d' path place depth := by
  have hstart : d'.start path = d.start path := by rw [start, start, hd'.home]
  have hkept {other : Trail} (hother : ¬ place ++ [name] <+: other) :
      d'.node? other = d.node? other := (hd'.nodes other).resolve_right fun hgone => hother hgone.1
  obtain ⟨hne, hpassable, hspot⟩ := place_eq_ok_iff.1 h.leads
  refine ⟨hd'.sound, place_eq_ok_iff.2 ⟨hne, ?_, (hd'.spot path).trans hspot⟩,
    (hkept ( not_concat_prefix place name)).trans h.directory, fun inner => ?_,
    fun other hother hdirectory => ?_, fun other inner hother hexists => ?_⟩
  · rw [hstart]
    exact hpassable.mono fun front piece back hpieces hfront =>
      (hkept fun hwithin => h.way name ⟨front, piece, back, hpieces, hwithin⟩).trans hfront
  · rw [Crosses, hstart]
    exact h.way inner
  · refine h.depth other hother ?_
    rcases hd'.nodes other with hsame | ⟨-, hnone⟩
    · rw [← hsame, hdirectory]
    · rw [hnone] at hdirectory
      cases hdirectory
  · refine h.short other inner hother fun hnone => hexists ?_
    rcases hd'.nodes (other ++ [inner]) with hsame | ⟨-, hgone⟩
    · rw [hsame, hnone]
    · exact hgone

/-- A directory in it is nested less deep. -/
theorem entry (h : Tree d path place (depth + 1)) {name : String}
    (hdirectory : d.node? (place ++ [name]) = some .directory) :
    Tree d (Path.join path name) (place ++ [name]) depth := by
  have hexists : d.node? (place ++ [name]) ≠ none := by
    rw [hdirectory]
    exact nofun
  have hname := h.isName hexists
  have habsolute := Path.isAbsolute_of_not_mem hname.not_mem
  obtain ⟨before, empties, hempties, hpath, hjoin⟩ := Path.pieces_join path habsolute
  refine ⟨h.sound, h.place_join hexists, hdirectory, ?_, fun other hother hnode => ?_,
    fun other inner hother => h.short other inner ((List.prefix_append _ _).trans hother)⟩
  · rintro inner ⟨front, piece, back, hpieces, hwithin⟩
    rw [start_join d path habsolute] at hwithin
    rw [hjoin, Path.pieces_of_not_mem hname.not_mem] at hpieces
    have hspot : d.spot path = place := (place_eq_ok_iff.1 h.leads).2.2
    rcases List.append_eq_append_iff.1 hpieces with ⟨middle, rfl, hrest⟩ | ⟨middle, rfl, hrest⟩
    · -- the whole path is behind, so the way is at the place itself
      obtain ⟨rfl, -⟩ : middle = [] ∧ _ := by
        cases middle with
        | nil => exact ⟨rfl, trivial⟩
        | cons first middle =>
          have hlength := congrArg List.length hrest
          simp at hlength
      have hwalk : walk (d.start path) before = place := by
        rw [← hspot, spot, hpath, walk_append, walk_empties hempties]
      rw [List.append_nil, hwalk] at hwithin
      exact not_concat_prefix place name ((List.prefix_append _ _).trans hwithin)
    · cases middle with
      | nil =>
        have hwalk : walk (d.start path) front = place := by
          rw [← hspot, spot, hpath, List.append_nil, walk_append, walk_empties hempties]
        rw [hwalk] at hwithin
        exact absurd ((List.prefix_append _ _).trans hwithin) ( not_concat_prefix place name)
      | cons next middle =>
        refine h.way name ⟨front, next, middle ++ empties, ?_,
          (List.prefix_append _ _).trans hwithin⟩
        rw [hpath, List.append_assoc, List.cons_append]
  · have hless := h.depth other ((List.prefix_append _ _).trans hother) hnode
    rw [List.length_append, List.length_singleton]
    omega

/-- One entry goes, and nothing else. -/
theorem exists_removeEntry (h : Tree d path place (depth + 1)) (hquiet : Quiet d) {name : String}
    (hexists : d.node? (place ++ [name]) ≠ none)
    (hdown : Tree d (Path.join path name) (place ++ [name]) depth →
      ((removeDown depth (Path.join path name) : StorageT Run Unit).run d).1 = .ok ()) :
    ∃ d', (removeEntry depth path name).run d = (.ok (), d') ∧
      Evolves (lost (place ++ [name])) d d' ∧ d'.node? (place ++ [name]) = none := by
  have hinner := h.place_join hexists
  have hspot : d.spot (Path.join path name) = place ++ [name] := (place_eq_ok_iff.1 hinner).2.2
  have hwithin : place ++ [name] <+: d.spot (Path.join path name) := hspot ▸ List.prefix_rfl
  have hevolves := (runs_removeEntry h.sound hwithin
    (runs_removeDown h.sound depth hwithin)).evolves
  have hrun := removeEntry_run depth path name d
  split at hrun
  · next hkind =>
    have hdirectory := (kindOf_eq_directory (beq_iff_eq.1 hkind)).2
    rw [hspot] at hdirectory
    have hremoved := hdown (h.entry hdirectory)
    rcases hresult : (removeDown depth (Path.join path name) : StorageT Run Unit).run d
      with ⟨r, d'⟩
    rw [hresult] at hremoved hrun
    obtain rfl : r = .ok () := hremoved
    rw [hrun] at hevolves
    refine ⟨d', hrun, hevolves, removeDown_eq_ok h.sound depth hresult ?_ (concat_ne_nil _ _)⟩
    rw [hspot]
  · next hkind =>
    obtain ⟨content, hfile⟩ : ∃ content, d.node? (place ++ [name]) = some (.file content) := by
      cases hnode : d.node? (place ++ [name]) with
      | none => exact absurd hnode hexists
      | some node =>
        cases node with
        | file content => exact ⟨content, rfl⟩
        | directory =>
          rw [beq_iff_eq, kindOf, hinner] at hkind
          exact absurd (kindAt?_eq_directory.2 hnode) hkind
    have hremove : d.removeFile (Path.join path name) = .ok (d.clear (place ++ [name])) := by
      simp only [Disk.removeFile, hinner, bind, Except.bind, hfile]
      rfl
    rw [show (removeFile (Path.join path name) : StorageT Run Unit).run d = _ from
      alter_of_ok (hquiet d.steps (Nat.le_refl _)) hremove] at hrun
    rw [hrun] at hevolves
    refine ⟨_, hrun, hevolves, ?_⟩
    rw [node?_counted, h.sound.node?_clear, if_pos ⟨concat_ne_nil _ _, List.prefix_rfl⟩]

theorem forM_removeEntry (h : Tree d path place (depth + 1)) (hquiet : Quiet d)
    (hdown : ∀ {d : Disk} {path : String} {place : Trail}, Tree d path place depth → Quiet d →
      ((removeDown depth path : StorageT Run Unit).run d).1 = .ok ())
    {found : List String} (hnodup : found.Nodup)
    (hfound : ∀ name ∈ found, d.node? (place ++ [name]) ≠ none) :
    ∃ d', (found.forM (removeEntry depth path)).run d = (.ok (), d') ∧
      Tree d' path place (depth + 1) ∧ Quiet d' ∧
      ∀ name, name ∈ found ∨ d.node? (place ++ [name]) = none →
        d'.node? (place ++ [name]) = none := by
  induction found generalizing d with
  | nil => exact ⟨d, rfl, h, hquiet, fun _ hname => hname.resolve_left List.not_mem_nil⟩
  | cons first found ih =>
    obtain ⟨hnew, hnodup⟩ := List.nodup_cons.1 hnodup
    obtain ⟨hfirst, hrest⟩ := List.forall_mem_cons.1 hfound
    obtain ⟨d₁, hentry, hevolves, hgone⟩ :=
      h.exists_removeEntry hquiet hfirst fun htree => hdown htree hquiet
    have hkept {name : String} (hname : name ≠ first) :
        d₁.node? (place ++ [name]) = d.node? (place ++ [name]) :=
      (hevolves.nodes _).resolve_right fun hlost => not_prefix_of_ne hname.symm hlost.1
    obtain ⟨d', hrun, htree, hquiet', hempty⟩ := ih (h.of_lost hevolves)
      (hquiet.of_evolves hevolves) hnodup fun name hname => by
        rw [hkept fun heq => hnew (heq ▸ hname)]
        exact hrest name hname
    refine ⟨d', ?_, htree, hquiet', fun name hname => hempty name ?_⟩
    · show (removeEntry depth path first >>= fun _ => found.forM (removeEntry depth path)).run d = _
      rw [run_bind_of_ok hentry, hrun]
    · by_cases heq : name = first
      · exact Or.inr (heq ▸ hgone)
      · rcases hname with hname | hnone
        · exact Or.inl ((List.mem_cons.1 hname).resolve_left heq)
        · exact Or.inr (by rw [hkept heq, hnone])

/-- A tree is taken away when no change fails. -/
theorem removeDown_of_quiet (h : Tree d path place depth) (hquiet : Quiet d) :
    ((removeDown depth path : StorageT Run Unit).run d).1 = .ok () := by
  induction depth generalizing d path place with
  | zero => exact absurd (h.depth place List.prefix_rfl h.directory) (Nat.lt_irrefl _)
  | succ depth ih =>
    obtain ⟨d', hloop, htree, hquiet', hgone⟩ := h.forM_removeEntry hquiet ih
      (nodup_namesAt h.sound place) fun name hname => mem_namesAt.1 hname
    have hempty : d'.namesAt place = [] := by
      refine List.eq_nil_iff_forall_not_mem.2 fun name hname => mem_namesAt.1 hname (hgone name ?_)
      by_cases hmem : name ∈ d.namesAt place
      · exact Or.inl hmem
      · exact Or.inr (not_not.1 fun hnode => hmem (mem_namesAt.2 hnode))
    have hremove : d'.removeDirectory path = .ok (d'.clear place) := by
      simp only [Disk.removeDirectory, htree.leads, bind, Except.bind, htree.directory, hempty]
      rfl
    rw [removeDown_succ, run_bind_of_ok (Disk.names_run h.leads h.directory), run_bind_of_ok hloop]
    exact congrArg Prod.fst (alter_of_ok (hquiet' d'.steps (Nat.le_refl _)) hremove)

end Tree

end

end Storage

end ControlSchema
