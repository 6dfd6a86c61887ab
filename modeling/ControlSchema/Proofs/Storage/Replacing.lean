import ControlSchema.Proofs.Storage.Flat

/-!
# Moving over a directory

What stands at the target is taken away before the move, so a move that fails may
have taken it, in part or whole. It takes nothing else, and it does not touch a
target that is no directory.
-/

namespace ControlSchema

namespace Disk

/-- A path to something that is to be made leads there as well when there is a directory
already. -/
theorem place_of_newPlace {d : Disk} {path : String} {place : Trail}
    (h : d.newPlace path = .ok place) (hdirectory : d.node? place = some .directory) :
    d.place path = .ok place := by
  obtain ⟨hne, hpassable, rfl⟩ := newPlace_eq_ok_iff.1 h
  obtain ⟨empties, hempties, hpieces⟩ := exists_trimmed_append (Path.pieces path)
  have hspot : walk (d.start path) (trimmed (Path.pieces path)) = d.spot path := by
    rw [spot, ← hpieces, walk_append, walk_empties hempties, hpieces]
  refine place_eq_ok_iff.2 ⟨hne, ?_, rfl⟩
  rw [← hpieces, passable_append, hspot, ← List.append_nil empties]
  exact ⟨hpassable, passable_stays hdirectory (fun piece hpiece hmatters =>
    (Path.matters_iff.1 hmatters).1 (hempties piece hpiece)) trivial⟩

end Disk

namespace Storage

open Disk

section

variable {d d' : Disk} (hd : d.Sound) {source target : String}

theorem moveOver_run (d : Disk) (source target : String) :
    (moveOver source target : StorageT Run Unit).run d
      = if d.kindOf target == some .directory then
          (removeTree target >>= fun _ => replace source target : StorageT Run Unit).run d
        else (replace source target : StorageT Run Unit).run d := by
  have hasked : (ExceptT.lift (isDirectory target) : StorageT Run Bool).run d
      = (.ok (d.kindOf target == some .directory), d) := by rw [run_lift, isDirectory_eq]
  rw [moveOver, run_bind_of_ok hasked]
  split <;> rfl

include hd

theorem runs_removeTree (path : String) :
    Runs (lost (d.spot path)) (removeTree path : StorageT Run Unit) d :=
  runs_removeDown hd depthLimit List.prefix_rfl

/-- A move that fails may have taken what stood at the target, if that was a directory;
then the fault is about something there, or about the move itself. -/
theorem moveOver_eq_error {e : StorageError}
    (h : (moveOver source target : StorageT Run Unit).run d = (.error e, d')) :
    Evolves (lost (d.spot target)) d d' ∧ Blames d d' e ∧
      ((∀ place, d'.node? place = d.node? place) ∨ d.node? (d.spot target) = some .directory ∧
        (e.target = some target ∨ d.spot target <+: d.spot e.path)) := by
  have hreplace {d d' : Disk}
      (h : (replace source target : StorageT Run Unit).run d = (.error e, d')) :
      d' = d.counted (d.steps + 1) ∧ Blames d d' e ∧ e.target = some target := by
    obtain ⟨rfl, hrefused⟩ := alter_eq_error h
    refine ⟨rfl, fun hfault => ?_, hrefused.target⟩
    rcases hrefused.fault with ⟨-, hfailing⟩ | haction
    · exact ⟨d.steps, Nat.le_refl _, Nat.lt_succ_self _, hfailing⟩
    · rw [hfault] at haction
      exact absurd haction (own_replace d source target)
  rw [moveOver_run] at h
  split at h
  · rename_i hkind
    have hdirectory := (kindOf_eq_directory (beq_iff_eq.1 hkind)).2
    have hremove := runs_removeTree hd target
    rcases run_bind_eq_error h with hremoved | ⟨_, d₁, hremoved, hmoved⟩
    · have hblames := hremove.blames e
      have hevolves := hremove.evolves
      rw [hremoved] at hblames hevolves
      exact ⟨hevolves, hblames rfl, Or.inr ⟨hdirectory, Or.inr
        (removeDown_eq_error hd depthLimit hremoved).2⟩⟩
    · have hevolves := hremove.evolves
      rw [hremoved] at hevolves
      obtain ⟨rfl, hblames, htarget⟩ := hreplace hmoved
      exact ⟨hevolves.counted (Nat.le_succ_of_le hevolves.steps), hblames.of_evolves hevolves,
        Or.inr ⟨hdirectory, Or.inl htarget⟩⟩
  · obtain ⟨rfl, hblames, -⟩ := hreplace h
    exact ⟨(Evolves.refl (steady_lost _) hd).counted (Nat.le_succ d.steps), hblames,
      Or.inl fun _ => rfl⟩

/-- A move that is made puts the source where the target was, on a disk that has no
directory there any more. -/
theorem moveOver_eq_ok (hne : d.spot source ≠ d.spot target)
    (h : (moveOver source target : StorageT Run Unit).run d = (.ok (), d')) :
    ∃ d₁, Evolves (lost (d.spot target)) d d₁ ∧
      d₁.newPlace target = .ok (d.spot target) ∧
      d₁.node? (d.spot target) ≠ some .directory ∧
      d' = (d₁.move (d.spot source) (d.spot target)).counted (d₁.steps + 1) ∧
      d.spot source ≠ [] ∧ ¬ d.spot source <+: d.spot target ∧ ¬ d.spot target <+: d.spot source ∧
      ∃ above name, d.spot target = above ++ [name] ∧ d₁.node? above = some .directory ∧
        IsName name := by
  have hreplace {d₁ : Disk} (hd₁ : Evolves (lost (d.spot target)) d d₁)
      (h : (replace source target : StorageT Run Unit).run d₁ = (.ok (), d')) :
      d₁.newPlace target = .ok (d.spot target) ∧
      d' = (d₁.move (d.spot source) (d.spot target)).counted (d₁.steps + 1) ∧
      d.spot source ≠ [] ∧ ¬ d.spot source <+: d.spot target ∧ ¬ d.spot target <+: d.spot source ∧
      ∃ above name, d.spot target = above ++ [name] ∧ d₁.node? above = some .directory ∧
        IsName name := by
    obtain ⟨-, d₂, hmove, rfl⟩ := alter_eq_ok h
    obtain ⟨-, hgoal, -, hcases⟩ := hd₁.sound.replace_eq_ok hmove
    rw [hd₁.spot, hd₁.spot] at hcases
    rw [hd₁.spot] at hgoal
    rcases hcases with ⟨heq, -⟩ | ⟨rfl, hcases⟩
    · exact absurd heq hne
    · exact ⟨hgoal, rfl, hcases⟩
  rw [moveOver_run] at h
  split at h
  · obtain ⟨_, d₁, hremoved, hmoved⟩ := run_bind_eq_ok h
    have hevolves := (runs_removeTree hd target).evolves
    rw [hremoved] at hevolves
    obtain ⟨hgoal, heq, hsource, hbelow, habove, hlast⟩ := hreplace hevolves hmoved
    have htarget : d.spot target ≠ [] := by
      obtain ⟨above, name, hspot, -⟩ := hlast
      rw [hspot]
      exact concat_ne_nil above name
    refine ⟨d₁, hevolves, hgoal, ?_, heq, hsource, hbelow, habove, hlast⟩
    rw [removeDown_eq_ok hd depthLimit hremoved List.prefix_rfl htarget]
    exact nofun
  · rename_i hkind
    have hevolves := Evolves.refl (steady_lost (d.spot target)) hd
    obtain ⟨hgoal, hrest⟩ := hreplace hevolves h
    refine ⟨d, hevolves, hgoal, fun hdirectory => hkind ?_, hrest⟩
    rw [beq_iff_eq, kindOf, place_of_newPlace hgoal hdirectory]
    exact kindAt?_eq_directory.2 hdirectory

omit hd in
theorem replace_of_missing {origin goal : Trail} (hquiet : Quiet d)
    (horigin : d.place source = .ok origin) (hdirectory : d.node? origin = some .directory)
    (hnew : d.newPlace target = .ok goal) (hmissing : d.node? goal = none)
    (hbelow : ¬ origin <+: goal) :
    ((replace source target : StorageT Run Unit).run d).1 = .ok () := by
  have hreplace : d.replace source target = .ok (d.move origin goal) := by
    have hwithin : ¬ origin.isPrefixOf goal = true := fun h =>
      hbelow (List.isPrefixOf_iff_prefix.1 h)
    simp only [Disk.replace, horigin, hnew, bind, Except.bind, kindAt?_eq_none.2 hmissing,
      kindAt?_eq_directory.2 hdirectory, if_neg hwithin]
    rfl
  exact congrArg Prod.fst (alter_of_ok (hquiet d.steps (Nat.le_refl _)) hreplace)

omit hd in
/-- A directory is moved to where nothing is, when no change fails. -/
theorem moveOver_of_missing {origin goal : Trail} (hquiet : Quiet d)
    (hflat : Flat d source origin) (hgoal : d.place target = .ok goal)
    (hmissing : d.node? goal = none) (hbelow : ¬ origin <+: goal) :
    ((moveOver source target : StorageT Run Unit).run d).1 = .ok () := by
  have hkind : ¬ (d.kindOf target == some EntryKind.directory) = true := by
    rw [beq_iff_eq, kindOf, hgoal]
    simp only [kindAt?_eq_none.2 hmissing]
    exact (Option.some_ne_none _).symm
  rw [moveOver_run, if_neg hkind]
  exact replace_of_missing hquiet hflat.leads hflat.directory (newPlace_of_place hgoal) hmissing
    hbelow

omit hd in
/-- It is moved over a directory as well, if the way there does not lead through what goes. -/
theorem moveOver_of_tree {origin goal : Trail} (hquiet : Quiet d) (hflat : Flat d source origin)
    (habsolute : Path.isAbsolute source = true) (hnames : Path.names source = origin)
    (htree : Tree d target goal depthLimit) (hway : ¬ d.Crosses target goal) (hne : goal ≠ [])
    (hbelow : ¬ origin <+: goal) (habove : ¬ goal <+: origin) :
    ((moveOver source target : StorageT Run Unit).run d).1 = .ok () := by
  obtain ⟨hempty, -, hspot⟩ := place_eq_ok_iff.1 htree.leads
  have hkind : (d.kindOf target == some EntryKind.directory) = true := by
    rw [beq_iff_eq, kindOf, htree.leads]
    exact kindAt?_eq_directory.2 htree.directory
  have hremoved : ((removeTree target : StorageT Run Unit).run d).1 = .ok () :=
    htree.removeDown_of_quiet hquiet
  have hevolves := (runs_removeTree htree.sound target).evolves
  rcases hremove : (removeTree target : StorageT Run Unit).run d with ⟨r, d₁⟩
  rw [hremove] at hremoved hevolves
  obtain rfl : r = .ok () := hremoved
  rw [hspot] at hevolves
  have hgone : d₁.node? goal = none :=
    removeDown_eq_ok htree.sound depthLimit hremove (hspot ▸ List.prefix_rfl) hne
  have hflat₁ := hflat.of_lost habsolute hnames hevolves habove
  -- the way to the goal is open as before, since nothing on it is gone
  have hnew : d₁.newPlace target = .ok goal := by
    have hstart : d₁.start target = d.start target := by rw [start, start, hevolves.home]
    obtain ⟨-, htrimmed, -⟩ := newPlace_eq_ok_iff.1 (newPlace_of_place htree.leads)
    refine newPlace_eq_ok_iff.2 ⟨hempty, ?_, (hevolves.spot target).trans hspot⟩
    rw [hstart]
    refine htrimmed.mono fun front piece back hpieces hfront => ?_
    rw [(hevolves.nodes _).resolve_right fun hlost => hway ?_, hfront]
    obtain ⟨empties, -, hwhole⟩ := exists_trimmed_append (Path.pieces target)
    refine ⟨front, piece, back ++ empties, ?_, hlost.1⟩
    rw [← hwhole, hpieces, List.append_assoc, List.cons_append]
  rw [moveOver_run, if_pos hkind, run_bind_of_ok hremove]
  exact replace_of_missing (hquiet.of_evolves hevolves) hflat₁.leads hflat₁.directory hnew hgone
    hbelow

/-- A directory that the way to itself leads through is lost, though no change fails:
the way is gone with it. -/
theorem moveOver_through {goal : Trail} (hflat : Flat d target goal) (hquiet : Quiet d)
    (hgoal : goal ≠ []) {front back : List String} {piece : String}
    (hpieces : trimmed (Path.pieces target) = front ++ piece :: back)
    (hfront : walk (d.start target) front = goal) :
    ∃ e d', (moveOver source target : StorageT Run Unit).run d = (.error e, d') ∧
      d'.node? goal = none := by
  have hspot := spot_of_place hflat.leads
  have hkind : (d.kindOf target == some EntryKind.directory) = true := by
    rw [beq_iff_eq, kindOf, hflat.leads]
    exact kindAt?_eq_directory.2 hflat.directory
  have hremoved : ((removeTree target : StorageT Run Unit).run d).1 = .ok () :=
    (hflat.tree 4095).removeDown_of_quiet hquiet
  have hevolves := (runs_removeTree hd target).evolves
  rcases hremove : (removeTree target : StorageT Run Unit).run d with ⟨r, d₁⟩
  rw [hremove] at hremoved hevolves
  obtain rfl : r = .ok () := hremoved
  have hgone : d₁.node? goal = none :=
    removeDown_eq_ok hd depthLimit hremove (hspot ▸ List.prefix_rfl) hgoal
  rw [moveOver_run, if_pos hkind, run_bind_of_ok hremove]
  rcases hreplace : (replace source target : StorageT Run Unit).run d₁ with ⟨r, d₂⟩
  cases r with
  | error e =>
    obtain ⟨rfl, -⟩ := alter_eq_error hreplace
    exact ⟨e, _, rfl, hgone⟩
  | ok _ =>
    obtain ⟨-, d₃, hmove, -⟩ := alter_eq_ok hreplace
    obtain ⟨-, hnew, -⟩ := hevolves.sound.replace_eq_ok hmove
    obtain ⟨-, hpassable, -⟩ := newPlace_eq_ok_iff.1 hnew
    have hstart : d₁.start target = d.start target := by rw [start, start, hevolves.home]
    rw [hpieces, passable_append, hstart, hfront] at hpassable
    have hdirectory := hpassable.2.1
    rw [hgone] at hdirectory
    cases hdirectory

end

end Storage

end ControlSchema
