import ControlSchema.Proofs.Definition
import ControlSchema.Proofs.Storage.Disk

/-!
# Changes of a disk

Every change is made at one place, which is a name in a directory, and what it does
there is one of three things: a node is put there, or everything at the place and
below it is taken away, or it is moved. When a change is refused, the fault is one
of the disk's own and never the one that stands for a broken device.
-/

namespace ControlSchema

namespace Disk

theorem kindAt?_eq_directory {d : Disk} {place : Trail} :
    d.kindAt? place = some .directory ↔ d.node? place = some .directory := by
  rw [kindAt?]
  cases d.node? place with
  | none => exact ⟨nofun, nofun⟩
  | some node => cases node <;> simp

theorem kindAt?_eq_none {d : Disk} {place : Trail} :
    d.kindAt? place = none ↔ d.node? place = none := by
  rw [kindAt?, Option.map_eq_none_iff]

theorem node?_ne_none_of_kindAt? {d : Disk} {place : Trail} {kind : EntryKind}
    (h : d.kindAt? place = some kind) : d.node? place ≠ none := fun hnone => by
  rw [kindAt?_eq_none.2 hnone] at h
  cases h

theorem node?_ne_directory_of_kindAt? {d : Disk} {place : Trail}
    (h : d.kindAt? place = some .file) : d.node? place ≠ some .directory := fun hdirectory => by
  rw [kindAt?_eq_directory.2 hdirectory] at h
  cases h

/-! ## Where changes are made -/

/-- A place in a directory, under a name that is not too long. -/
structure InDirectory (d : Disk) (above : Trail) (name : String) : Prop where
  directory : d.node? above = some .directory
  isName : IsName name
  short : name.utf8ByteSize ≤ nameLimit

namespace Sound

variable {d : Disk} (h : d.Sound)
include h

theorem walk_cases {place : Trail} {pieces : List String}
    (hslash : ∀ piece ∈ pieces, '/' ∉ piece.toList)
    (hplace : d.node? place = some .directory) (hpassable : d.Passable place pieces) :
    d.node? (walk place pieces) = some .directory ∨
      ∃ above name, walk place pieces = above ++ [name] ∧ d.InDirectory above name := by
  induction pieces using List.reverseRecOn with
  | nil => exact Or.inl hplace
  | append_singleton front piece _ =>
    obtain ⟨-, hfront, hshort, -⟩ := passable_append.1 hpassable
    have hlast : walk place (front ++ [piece]) = stepTo (walk place front) piece :=
      walk_append place front [piece]
    rw [hlast]
    rcases stepTo_cases (hslash piece (List.mem_append_right front (List.mem_singleton_self piece)))
      (walk place front) with hstep | hstep | ⟨hname, hstep⟩
    · rw [hstep]
      exact Or.inl hfront
    · rw [hstep]
      by_cases htop : walk place front = []
      · rw [htop]
        exact Or.inl rfl
      · refine Or.inl (h.directory_of_within (by rw [hfront]; exact nofun)
          (List.dropLast_prefix _) fun heq => ?_)
        have hlength := congrArg List.length heq
        rw [List.length_dropLast] at hlength
        have hpos := List.length_pos_iff.2 htop
        omega
    · exact Or.inr ⟨_, piece, hstep, hfront, hname, hshort⟩

theorem newPlace_cases {path : String} {target : Trail} (hplace : d.newPlace path = .ok target) :
    d.node? target = some .directory ∨
      ∃ above name, target = above ++ [name] ∧ d.InDirectory above name := by
  obtain ⟨hne, hpassable, rfl⟩ := newPlace_eq_ok_iff.1 hplace
  obtain ⟨empties, hempties, hpieces⟩ := exists_trimmed_append (Path.pieces path)
  have hspot : d.spot path = walk (d.start path) (trimmed (Path.pieces path)) := by
    rw [spot, ← hpieces, walk_append, walk_empties hempties, hpieces]
  have hslash : ∀ piece ∈ trimmed (Path.pieces path), '/' ∉ piece.toList := fun piece hpiece =>
    Path.not_mem_of_mem_pieces (hpieces ▸ List.mem_append_left empties hpiece)
  rw [hspot]
  refine h.walk_cases hslash ?_ hpassable
  cases htrimmed : trimmed (Path.pieces path) with
  | cons piece rest =>
    rw [htrimmed] at hpassable
    exact hpassable.1
  | nil =>
    have hroot : Path.isAbsolute path = true := by
      refine Path.isAbsolute_of_pieces hne fun piece hpiece => hempties piece ?_
      rwa [← hpieces, htrimmed] at hpiece
    rw [start, if_pos hroot]
    rfl

end Sound

/-! ## What changes do -/

open Attempt (bind_eq_ok)

section

variable {d d₁ : Disk} {path : String}

theorem spot_of_place {target : Trail} (h : d.place path = .ok target) : target = d.spot path :=
  (place_eq_ok_iff.1 h).2.2.symm

theorem spot_of_newPlace {target : Trail} (h : d.newPlace path = .ok target) :
    target = d.spot path := (newPlace_eq_ok_iff.1 h).2.2.symm

theorem names_eq_ok {found : List String} (h : d.names path = .ok found) :
    d.place path = .ok (d.spot path) ∧ d.node? (d.spot path) = some .directory ∧
      found = d.namesAt (d.spot path) := by
  obtain ⟨place, hplace, h⟩ := bind_eq_ok h
  obtain rfl := spot_of_place hplace
  split at h
  · rename_i hnode
    cases h
    exact ⟨hplace, hnode, rfl⟩
  · cases h
  · cases h

theorem removeFile_eq_ok (h : d.removeFile path = .ok d₁) :
    (∃ content, d.node? (d.spot path) = some (.file content)) ∧ d₁ = d.clear (d.spot path) := by
  obtain ⟨place, hplace, h⟩ := bind_eq_ok h
  obtain rfl := spot_of_place hplace
  split at h
  · rename_i hnode
    cases h
    exact ⟨⟨_, hnode⟩, rfl⟩
  · cases h
  · cases h

theorem removeDirectory_eq_ok (h : d.removeDirectory path = .ok d₁) :
    d.node? (d.spot path) = some .directory ∧ d.namesAt (d.spot path) = [] ∧
      d₁ = d.clear (d.spot path) := by
  obtain ⟨place, hplace, h⟩ := bind_eq_ok h
  obtain rfl := spot_of_place hplace
  split at h
  · rename_i hnode
    split at h
    · rename_i hempty
      cases h
      exact ⟨hnode, List.isEmpty_iff.1 hempty, rfl⟩
    · cases h
  · cases h
  · cases h

theorem makeTemporary_eq_ok {beginning ending temporary : String}
    (h : d.makeTemporary path beginning ending = .ok (temporary, d₁)) :
    d.place path = .ok (d.spot path) ∧ d.node? (d.spot path) = some .directory ∧
      ∃ name, name = d.freshName (d.spot path) beginning ending ∧ name.utf8ByteSize ≤ nameLimit ∧
        temporary = Path.join path name ∧ d₁ = d.put (d.spot path ++ [name]) .directory := by
  obtain ⟨place, hplace, h⟩ := bind_eq_ok h
  obtain rfl := spot_of_place hplace
  split at h
  · rename_i hnode
    simp only at h
    split at h
    · cases h
    · rename_i hshort
      cases h
      exact ⟨hplace, hnode, _, rfl, Nat.not_lt.1 hshort, rfl, rfl⟩
  · cases h
  · cases h

namespace Sound

variable (hd : d.Sound)
include hd

theorem makeDirectory_eq_ok (h : d.makeDirectory path = .ok d₁) :
    ∃ above name, d.spot path = above ++ [name] ∧ d.InDirectory above name ∧
      d.node? (above ++ [name]) = none ∧ d₁ = d.put (above ++ [name]) .directory := by
  obtain ⟨place, hplace, h⟩ := bind_eq_ok h
  obtain rfl := spot_of_newPlace hplace
  split at h
  · cases h
  · rename_i hnode
    cases h
    rcases hd.newPlace_cases hplace with hdirectory | ⟨above, name, heq, hin⟩
    · rw [hnode] at hdirectory
      cases hdirectory
    · rw [heq] at hnode ⊢
      exact ⟨above, name, rfl, hin, hnode, rfl⟩

/-- Everything but the root stands in a directory. -/
theorem exists_above {place : Trail} (hplace : d.node? place ≠ none) (hne : place ≠ []) :
    ∃ above name, place = above ++ [name] ∧ d.node? above = some .directory ∧ IsName name := by
  obtain ⟨above, name, rfl⟩ := (List.eq_nil_or_concat' place).resolve_left hne
  exact ⟨above, name, rfl, hd.parents above name hplace,
    hd.isName_of_node? hplace name (List.mem_append_right above (List.mem_singleton_self name))⟩

/-- Nothing stands below a file, or below a place where nothing is. -/
theorem eq_of_within {above place : Trail} (habove : d.node? above ≠ some .directory)
    (hplace : d.node? place ≠ none) (hwithin : above <+: place) : above = place := by
  by_contra hne
  exact habove (hd.directory_of_within hplace hwithin hne)

/-- Below a directory that has no names nothing stands. -/
theorem eq_of_prefix_of_namesAt {above place : Trail} (hempty : d.namesAt above = [])
    (hplace : d.node? place ≠ none) (hwithin : above <+: place) : above = place := by
  obtain ⟨rest, rfl⟩ := hwithin
  cases rest with
  | nil => exact (List.append_nil above).symm
  | cons name rest =>
    have hchild : d.node? (above ++ [name]) ≠ none := by
      intro hnone
      refine hplace (hd.node?_eq_none_of_within hnone ⟨rest, ?_⟩)
      rw [List.append_assoc]
      rfl
    have hmem := mem_namesAt.2 hchild
    rw [hempty] at hmem
    cases hmem

/-- A node is moved to a name in a directory, or stays where it is. -/
theorem replace_eq_ok {target : String} (h : d.replace path target = .ok d₁) :
    d.place path = .ok (d.spot path) ∧ d.newPlace target = .ok (d.spot target) ∧
      d.node? (d.spot path) ≠ none ∧
      (d.spot path = d.spot target ∧ d₁ = d ∨
        d₁ = d.move (d.spot path) (d.spot target) ∧ d.spot path ≠ [] ∧
        ¬ d.spot path <+: d.spot target ∧ ¬ d.spot target <+: d.spot path ∧
        ∃ above name, d.spot target = above ++ [name] ∧ d.node? above = some .directory ∧
          IsName name) := by
  obtain ⟨source, hsource, h⟩ := bind_eq_ok h
  obtain ⟨goal, hgoal, h⟩ := bind_eq_ok h
  obtain rfl := spot_of_place hsource
  obtain rfl := spot_of_newPlace hgoal
  refine ⟨hsource, hgoal, ?_⟩
  have hroot {place : Trail} (hplace : d.node? place ≠ some .directory) : place ≠ [] := by
    rintro rfl
    exact hplace rfl
  have habove (hgoal' : d.node? (d.spot target) ≠ some .directory) :
      ∃ above name, d.spot target = above ++ [name] ∧ d.node? above = some .directory ∧
        IsName name := by
    rcases hd.newPlace_cases hgoal with hdirectory | ⟨above, name, heq, hin⟩
    · exact absurd hdirectory hgoal'
    · exact ⟨above, name, heq, hin.directory, hin.isName⟩
  generalize d.spot path = source, d.spot target = goal at h habove ⊢
  split at h
  · cases h
  -- Nothing stands at the target.
  · rename_i kind hkind hnone
    have hexists := node?_ne_none_of_kindAt? hkind
    split at h
    · cases h
    · rename_i hbelow
      cases h
      rw [List.isPrefixOf_iff_prefix] at hbelow
      have hnode := kindAt?_eq_none.1 hnone
      have hgoal' : d.node? goal ≠ some .directory := by
        rw [hnode]
        exact nofun
      refine ⟨hexists, Or.inr ⟨rfl, ?_, hbelow, fun hwithin => ?_, habove hgoal'⟩⟩
      · rintro rfl
        exact hbelow List.nil_prefix
      · exact hexists (hd.node?_eq_none_of_within hnode hwithin)
  -- A file gives way to a file.
  · rename_i hsourceKind hgoalKind
    have hexists := node?_ne_none_of_kindAt? hsourceKind
    have hsource := node?_ne_directory_of_kindAt? hsourceKind
    have hgoal := node?_ne_directory_of_kindAt? hgoalKind
    split at h
    · rename_i heq
      cases h
      exact ⟨hexists, Or.inl ⟨beq_iff_eq.1 heq, rfl⟩⟩
    · rename_i hne
      cases h
      rw [beq_iff_eq] at hne
      refine ⟨hexists, Or.inr ⟨rfl, hroot hsource, fun hwithin => ?_, fun hwithin => ?_,
        habove hgoal⟩⟩
      · exact hne (hd.eq_of_within hsource (node?_ne_none_of_kindAt? hgoalKind) hwithin)
      · exact hne (hd.eq_of_within hgoal hexists hwithin).symm
  · cases h
  · cases h
  -- A directory gives way to a directory that is empty.
  · rename_i hsourceKind hgoalKind
    have hexists := node?_ne_none_of_kindAt? hsourceKind
    split at h
    · rename_i heq
      cases h
      exact ⟨hexists, Or.inl ⟨beq_iff_eq.1 heq, rfl⟩⟩
    · rename_i hne
      rw [beq_iff_eq] at hne
      split at h
      · cases h
      · rename_i hbelow
        rw [List.isPrefixOf_iff_prefix] at hbelow
        split at h
        · rename_i hempty
          cases h
          have hgone := hd.eq_of_prefix_of_namesAt (List.isEmpty_iff.1 hempty) hexists
          have hgoalRoot : goal ≠ [] := by
            rintro rfl
            exact hne (hgone List.nil_prefix).symm
          refine ⟨hexists, Or.inr ⟨rfl, ?_, hbelow,
            fun hwithin => hne (hgone hwithin).symm,
            hd.exists_above (node?_ne_none_of_kindAt? hgoalKind) hgoalRoot⟩⟩
          rintro rfl
          exact hbelow List.nil_prefix
        · cases h

end Sound

end

/-! ## Faults of a disk's own -/

/-- Whatever comes of it, it is not the fault of a device. -/
def Own {α : Type} (x : Except StorageFault α) : Prop := x ≠ .error .inputOutput

theorem own_ok {α : Type} (a : α) : Own (.ok a) := fun h => by cases h

theorem own_error {α : Type} {fault : StorageFault} (h : fault ≠ .inputOutput) :
    Own (.error fault : Except StorageFault α) := fun heq => h (Except.error.inj heq)

section

variable (d : Disk) (path : String)

theorem own_bind {α β : Type} {x : Except StorageFault α} {f : α → Except StorageFault β}
    (hx : Own x) (hf : ∀ a, Own (f a)) : Own (x >>= f) := by
  cases x with
  | error e => exact fun h => hx (by cases h; rfl)
  | ok a => exact hf a

theorem own_follow (place : Trail) (pieces : List String) : Own (d.follow place pieces) := by
  induction pieces generalizing place with
  | nil => exact own_ok _
  | cons piece rest ih =>
    by_cases hnode : d.node? place = some .directory
    · rw [follow_cons hnode]
      split
      · exact own_error (by decide)
      · exact ih _
    · rw [follow]
      split
      · exact own_error (by decide)
      · exact own_error (by decide)
      · rename_i hdirectory
        exact absurd hdirectory hnode

theorem own_place : Own (d.place path) := by
  rw [place]
  split
  · exact own_error (by decide)
  · exact d.own_follow _ _

theorem own_newPlace : Own (d.newPlace path) := by
  rw [newPlace]
  split
  · exact own_error (by decide)
  · exact d.own_follow _ _

theorem own_names : Own (d.names path) :=
  own_bind (d.own_place path) fun _ => by split <;> exact nofun

theorem own_write (content : ByteArray) : Own (d.write path content) :=
  own_bind (d.own_place path) fun _ => by split <;> exact nofun

theorem own_makeDirectory : Own (d.makeDirectory path) :=
  own_bind (d.own_newPlace path) fun _ => by split <;> exact nofun

theorem own_removeFile : Own (d.removeFile path) :=
  own_bind (d.own_place path) fun _ => by split <;> exact nofun

theorem own_removeDirectory : Own (d.removeDirectory path) :=
  own_bind (d.own_place path) fun _ => by
    split
    · split <;> exact nofun
    · exact nofun
    · exact nofun

theorem own_replace (target : String) : Own (d.replace path target) :=
  own_bind (d.own_place path) fun _ => own_bind (d.own_newPlace target) fun _ => by
    split
    · exact nofun
    · split <;> exact nofun
    · split <;> exact nofun
    · exact nofun
    · exact nofun
    · split
      · exact nofun
      · split
        · exact nofun
        · split <;> exact nofun

end

end Disk

end ControlSchema
