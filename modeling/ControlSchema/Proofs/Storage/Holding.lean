import ControlSchema.Proofs.Storage.Replacing
import ControlSchema.Proofs.Storage.Temporary
import ControlSchema.Proofs.Text.Bytes
import ControlSchema.Proofs.Text.Order
import ControlSchema.Release.Source

/-!
# Directories of given files

What a directory holds is found by listing and reading it: the names come sorted, and
a file gives the text that was written to it. A directory that was filled beside its
place and moved there holds the files that it was filled with and no others, whatever
stood at the place before. The path that it was meant for leads to it, unless the way
went through the directory while it was being filled.
-/

namespace ControlSchema

/-- A directory holds these files as texts, and nothing else. -/
structure Disk.Holds (d : Disk) (place : Trail) (files : Table String String) : Prop where
  sound : d.Sound
  directory : d.node? place = some .directory
  nodes : ∀ name, d.node? (place ++ [name]) = (files.get? name).map fun text => .file text.toUTF8
  short : ∀ name ∈ files.keys, name.utf8ByteSize ≤ Disk.nameLimit

/-- A path leads to a place in a directory, under the name that the place has there. -/
structure Disk.Locates (d : Disk) (path : String) (above : Trail) (name : String) : Prop where
  place : d.place path = .ok (above ++ [name])
  name : Path.lastName (Path.tidy path) = name

/-- No temporary directory is on the way along a path, if it is still to be made. -/
def Disk.Unhindered (d : Disk) (path : String) (above : Trail) (name : String) : Prop :=
  ∀ n, d.node? (above ++ [Storage.temporaryName name n]) = none →
    ¬ d.Crosses path (above ++ [Storage.temporaryName name n])

/-- A path that never goes up is unhindered. -/
theorem Disk.unhindered_of_not_mem {d : Disk} {path name : String} {above : Trail}
    (h : ".." ∉ Path.pieces path) (hspot : d.spot path = above ++ [name]) :
    d.Unhindered path above name := by
  rintro n - ⟨front, piece, back, hpieces, hwithin⟩
  have hback : ".." ∉ piece :: back := fun hmem =>
    h (hpieces ▸ List.mem_append_right front hmem)
  have hdown := prefix_walk hback (walk (d.start path) front)
  rw [← walk_append, ← hpieces, ← spot, hspot] at hdown
  exact not_prefix_of_ne (Storage.marked_ne name _) (hwithin.trans hdown)

namespace Storage

open Disk

/-! ## Reading -/

section

variable {d : Disk} {path text : String} {place : Trail}

theorem readExact_run (hplace : d.place path = .ok place)
    (hfile : d.node? place = some (.file text.toUTF8)) :
    (readExact path : ExceptT ReadError Run String).run d = (.ok text, d) := by
  have hread : ((read path).adapt ReadError.storage : ExceptT ReadError Run ByteArray).run d
      = (.ok text.toUTF8, d) := by
    rw [run_adapt, read_run hplace hfile]
    rfl
  rw [readExact, run_bind_of_ok hread, Text.ofBytes_toUTF8]
  rfl

theorem readText_run (hplace : d.place path = .ok place)
    (hfile : d.node? place = some (.file text.toUTF8)) :
    (readText path : ExceptT ReadError Run String).run d = (.ok (Text.unifyBreaks text), d) := by
  rw [readText, run_bind_of_ok (readExact_run hplace hfile)]
  rfl

theorem leadsTo_run (hplace : d.place path = .ok place) (kind : EntryKind) :
    (leadsTo kind path : StorageT Run Bool).run d = (.ok (d.kindAt? place == some kind), d) := by
  have hlook : (look path : StorageT Run _).run d = (.ok (d.kindAt? place), d) := by
    show (inquire path fun d => d.look path).run d = _
    simp only [inquire, ExceptT.run, ExceptT.mk, Disk.look, hplace]
  rw [leadsTo, run_bind_of_ok hlook]
  rfl

theorem sortedNames_run (hplace : d.place path = .ok place)
    (hdirectory : d.node? place = some .directory) :
    (sortedNames path : StorageT Run _).run d
      = (.ok ((d.namesAt place).mergeSort textAtMost), d) := by
  have hasked : (ExceptT.lift (names path : StorageT Run _).run : StorageT Run _).run d
      = (.ok (.ok (d.namesAt place)), d) := by rw [run_lift, names_run hplace hdirectory]
  rw [sortedNames, run_bind_of_ok hasked]
  rfl

/-- A directory is listed in order, and the names that lead to something of a kind are kept. -/
theorem entriesOf_run (hdirectory : d.kindOf path = some .directory) (kind : EntryKind) :
    (ReleaseSource.entriesOf kind path : StorageT Run _).run d
      = (.ok (((d.namesAt (d.spot path)).mergeSort textAtMost).filter fun name =>
        d.kindOf (Path.join path name) == some kind), d) := by
  obtain ⟨hplace, hnode⟩ := kindOf_eq_directory hdirectory
  have hkind : ∀ name ∈ (d.namesAt (d.spot path)).mergeSort textAtMost,
      ((do return (← ExceptT.lift (kind? (Path.join path name))) == some kind :
        StorageT Run Bool)).run d = (.ok (d.kindOf (Path.join path name) == some kind), d) := by
    intro name _
    have hasked : (ExceptT.lift (kind? (Path.join path name)) : StorageT Run _).run d
        = (.ok (d.kindOf (Path.join path name)), d) := by rw [run_lift, kind?_eq]
    rw [run_bind_of_ok hasked]
    rfl
  rw [ReleaseSource.entriesOf, run_bind_of_ok (names_run hplace hnode), filterM_of_ok hkind]

/-- All that a flat directory holds are files. -/
theorem Flat.entriesOf_file_run (h : Flat d path place) :
    (ReleaseSource.entriesOf .file path : StorageT Run _).run d
      = (.ok ((d.namesAt place).mergeSort textAtMost), d) := by
  obtain rfl : d.spot path = place := (place_eq_ok_iff.1 h.leads).2.2
  have hdirectory : d.kindOf path = some .directory := by
    rw [kindOf, h.leads]
    exact kindAt?_eq_directory.2 h.directory
  have hfiles : ∀ name ∈ (d.namesAt (d.spot path)).mergeSort textAtMost,
      (d.kindOf (Path.join path name) == some .file) = true := by
    intro name hname
    rw [List.mem_mergeSort] at hname
    have hexists := mem_namesAt.1 hname
    have hinner := h.place_join (isName_of_mem_namesAt h.sound hname) (h.short name hexists)
    rw [beq_iff_eq, kindOf, hinner]
    simp only [kindAt?]
    cases hnode : d.node? (d.spot path ++ [name]) with
    | none => exact absurd hnode hexists
    | some node =>
      cases node with
      | file content => rfl
      | directory => exact absurd hnode (h.files name)
  rw [entriesOf_run hdirectory, List.filter_eq_self.2 hfiles]

end

end Storage

namespace Disk.Holds

open Storage

variable {d : Disk} {path name text : String} {place : Trail} {files : Table String String}

theorem flat (h : d.Holds place files) (hplace : d.place path = .ok place) :
    Flat d path place where
  sound := h.sound
  leads := hplace
  directory := h.directory
  files := by
    intro name
    rw [h.nodes]
    cases files.get? name <;> exact nofun
  short := by
    intro name hexists
    rw [h.nodes, ne_eq, Option.map_eq_none_iff] at hexists
    exact h.short name (Table.get?_ne_none_iff.1 hexists)

theorem mem_namesAt (h : d.Holds place files) : name ∈ d.namesAt place ↔ name ∈ files.keys := by
  rw [Disk.mem_namesAt, h.nodes, ne_eq, Option.map_eq_none_iff, ← ne_eq, Table.get?_ne_none_iff]

theorem isName (h : d.Holds place files) (hname : name ∈ files.keys) : IsName name :=
  isName_of_mem_namesAt h.sound (h.mem_namesAt.2 hname)

/-- Each file is where its name leads. -/
theorem place_join (h : d.Holds place files) (hplace : d.place path = .ok place)
    (hname : name ∈ files.keys) : d.place (Path.join path name) = .ok (place ++ [name]) :=
  Disk.place_join hplace h.directory (h.isName hname) (h.short name hname)

theorem node?_of_get? (h : d.Holds place files) (htext : files.get? name = some text) :
    d.node? (place ++ [name]) = some (.file text.toUTF8) := by
  rw [h.nodes, htext]
  rfl

end Disk.Holds

/-! ## Filling and moving -/

namespace Storage

open Disk

variable {d d' : Disk} {above : Trail} {name temporary target : String}
  {files : Table String String}

/-- A temporary directory that was filled holds what it was filled with. -/
theorem Prepared.holds_writeFiles {n : Nat} (h : Prepared d d' temporary above name n)
    (hinner : ∀ inner ∈ files.keys, Path.IsInner inner) (hnodup : files.keys.Nodup) {d'' : Disk}
    (hrun : (writeFiles temporary files.sorted).run d' = (.ok (), d'')) :
    d''.Holds (above ++ [temporaryName name n]) files := by
  have hinner' : ∀ file ∈ files.sorted, Path.IsInner file.1 := fun file hfile =>
    hinner file.1 (List.mem_map.2 ⟨file, Table.mem_sorted.1 hfile, rfl⟩)
  have hflat := h.flat.writeFiles hinner'
  rw [hrun] at hflat
  obtain ⟨hwritten, hothers⟩ :=
    h.flat.writeFiles_eq_ok hinner' (Table.nodup_keys_sorted hnodup) hrun
  have hnode {inner text : String} (hmem : (inner, text) ∈ files) :
      d''.node? (above ++ [temporaryName name n] ++ [inner]) = some (.file text.toUTF8) :=
    (hwritten _ (Table.mem_sorted.2 hmem)).2
  refine ⟨hflat.sound, hflat.directory, fun inner => ?_, fun inner hinner => ?_⟩
  · cases htext : files.get? inner with
    | some text => exact hnode (Table.mem_of_get? htext)
    | none =>
      -- No file has this name, so nothing was written there.
      rw [hothers _ fun file hfile heq => ?_, h.empty inner]
      · rfl
      · have hname : inner = file.1 := (List.cons.inj (List.append_inj' heq rfl).2).1
        exact Table.get?_ne_none_iff.2 (hname ▸ Table.mem_keys_sorted.1
          (List.mem_map.2 ⟨file, hfile, rfl⟩)) htext
  · obtain ⟨⟨_, text⟩, hmem, rfl⟩ := List.mem_map.1 hinner
    exact hflat.short _ (by rw [hnode hmem]; exact nofun)

/-- When it is moved, it holds the same at its new place, and the path leads there if
the way to it does not go through the temporary directory. -/
theorem holds_of_moveOver {origin : Trail} (h : d.Holds origin files)
    (hsource : d.spot temporary = origin) (htarget : d.spot target = above ++ [name])
    (hbelow : ¬ origin <+: above ++ [name]) (habove : ¬ above ++ [name] <+: origin)
    (hrun : (moveOver temporary target : StorageT Run Unit).run d = (.ok (), d')) :
    d'.Holds (above ++ [name]) files ∧
      (¬ d.Crosses target origin → d'.place target = .ok (above ++ [name])) := by
  have hne : d.spot temporary ≠ d.spot target := by
    rw [hsource, htarget]
    exact fun heq => hbelow (heq ▸ List.prefix_rfl)
  obtain ⟨d₁, hlost, hgoal, hgone, rfl, hroot, -, -, parent, last, hsplit, hparent, hlast⟩ :=
    moveOver_eq_ok h.sound hne hrun
  rw [hsource, htarget] at *
  obtain ⟨rfl, hlast'⟩ := List.append_inj' hsplit rfl
  obtain rfl : name = last := (List.cons.inj hlast').1
  have hmoved (place : Trail) := hlost.sound.node?_move hroot (concat_ne_nil above name) hbelow
    habove place
  have hkept {rest : List String} : d₁.node? (origin ++ rest) = d.node? (origin ++ rest) :=
    (hlost.nodes _).resolve_right fun hgone =>
      (List.prefix_or_prefix_of_prefix hgone.1 (List.prefix_append origin rest)).elim habove hbelow
  have hnode (rest : List String) : ((d₁.move origin (above ++ [name])).counted
      (d₁.steps + 1)).node? (above ++ [name] ++ rest) = d.node? (origin ++ rest) := by
    rw [node?_counted, hmoved, if_pos (List.prefix_append _ _), List.drop_left, hkept]
  have hsound := (hlost.sound.move hroot hbelow habove hparent hlast).counted (d₁.steps + 1)
  have hdirectory : ((d₁.move origin (above ++ [name])).counted (d₁.steps + 1)).node?
      (above ++ [name]) = some .directory := by
    have hself := hnode []
    rw [List.append_nil, List.append_nil, h.directory] at hself
    exact hself
  refine ⟨⟨hsound, hdirectory, fun inner => (hnode [inner]).trans (h.nodes inner), h.short⟩,
    fun hway => place_of_newPlace ?_ hdirectory⟩
  obtain ⟨hempty, hpassable, hspot⟩ := newPlace_eq_ok_iff.1 hgoal
  obtain ⟨empties, -, hpieces⟩ := exists_trimmed_append (Path.pieces target)
  refine newPlace_eq_ok_iff.2 ⟨hempty, hpassable.mono fun front piece back heq hfront => ?_, hspot⟩
  -- A directory on the way is neither where the target stood nor in the temporary one.
  rw [node?_counted, hmoved, if_neg, if_neg, hfront]
  · refine fun hthrough => hway ⟨front, piece, back ++ empties, ?_, ?_⟩
    · rw [← hpieces, heq, List.append_assoc]
      rfl
    · rwa [start, hlost.home] at hthrough
  · intro hover
    have heq := hlost.sound.eq_of_within hgone (by rw [hfront]; exact Option.some_ne_none _) hover
    exact hgone (heq ▸ hfront)

/-- What is moved over a place is gone from where it was, and elsewhere nothing has changed. -/
theorem evolves_of_moveOver (hd : d.Sound) {origin : Trail} (hsource : d.spot temporary = origin)
    (htarget : d.spot target = above ++ [name]) (hbelow : ¬ origin <+: above ++ [name])
    (habove : ¬ above ++ [name] <+: origin)
    (hrun : (moveOver temporary target : StorageT Run Unit).run d = (.ok (), d')) :
    Evolves ((lost origin).except (above ++ [name])) d d' ∧
      ∀ place, origin <+: place → d'.node? place = none := by
  have hne : d.spot temporary ≠ d.spot target := by
    rw [hsource, htarget]
    exact fun heq => hbelow (heq ▸ List.prefix_rfl)
  obtain ⟨d₁, hlost, -, -, rfl, hroot, -, -, parent, last, hsplit, hparent, hlast⟩ :=
    moveOver_eq_ok hd hne hrun
  rw [hsource, htarget] at *
  obtain ⟨rfl, hlast'⟩ := List.append_inj' hsplit rfl
  obtain rfl : name = last := (List.cons.inj hlast').1
  have hnode (place : Trail) (hplace : ¬ above ++ [name] <+: place) :
      ((d₁.move origin (above ++ [name])).counted (d₁.steps + 1)).node? place
        = if origin <+: place then none else d.node? place := by
    have hkept : d₁.node? place = d.node? place :=
      (hlost.nodes place).resolve_right fun hgone => hplace hgone.1
    rw [node?_counted, hlost.sound.node?_move hroot (concat_ne_nil above name) hbelow habove,
      if_neg hplace, hkept]
  have hsound := (hlost.sound.move hroot hbelow habove hparent hlast).counted (d₁.steps + 1)
  refine ⟨⟨hsound, hlost.home, hlost.failing, Nat.le_succ_of_le hlost.steps, fun place => ?_⟩,
    fun place hplace => ?_⟩
  · by_cases hgoal : above ++ [name] <+: place
    · exact Or.inr hgoal
    · left
      rw [hnode place hgoal]
      split
      · next horigin => exact Or.inr ⟨horigin, rfl⟩
      · exact Or.inl rfl
  · have hgoal : ¬ above ++ [name] <+: place := fun hgoal =>
      (List.prefix_or_prefix_of_prefix hplace hgoal).elim hbelow habove
    rw [hnode place hgoal, if_pos hplace]

end Storage

end ControlSchema
