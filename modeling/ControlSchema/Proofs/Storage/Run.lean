import ControlSchema.Proofs.Storage.Change
import ControlSchema.Storage.Operation

/-!
# Runs on a disk

A run takes a disk to a disk and may fail on the way. The primitive operations
change one place or nothing, and what a failed one leaves is the disk as it was,
with one more change counted.
-/

namespace ControlSchema

namespace Disk

section

variable {ε ε' α β : Type}

/-! ## Steps of a run -/

theorem run_bind_eq (x : ExceptT ε Run α) (f : α → ExceptT ε Run β) (d : Disk) :
    (x >>= f).run d = match x.run d with
      | (.ok a, d') => (f a).run d'
      | (.error e, d') => (.error e, d') := by
  show (ExceptT.bindCont f (x d).1) (x d).2 = _
  rcases hx : x d with ⟨r, d'⟩
  have hrun : x.run d = (r, d') := hx
  rw [hrun]
  cases r <;> rfl

theorem run_bind_of_ok {x : ExceptT ε Run α} {f : α → ExceptT ε Run β} {d d' : Disk} {a : α}
    (h : x.run d = (.ok a, d')) : (x >>= f).run d = (f a).run d' := by
  rw [run_bind_eq, h]

theorem run_bind_of_error {x : ExceptT ε Run α} {f : α → ExceptT ε Run β} {d d' : Disk} {e : ε}
    (h : x.run d = (.error e, d')) : (x >>= f).run d = (.error e, d') := by
  rw [run_bind_eq, h]

theorem run_bind_eq_ok {x : ExceptT ε Run α} {f : α → ExceptT ε Run β} {d d'' : Disk} {b : β}
    (h : (x >>= f).run d = (.ok b, d'')) :
    ∃ a d', x.run d = (.ok a, d') ∧ (f a).run d' = (.ok b, d'') := by
  rw [run_bind_eq] at h
  rcases hx : x.run d with ⟨r, d'⟩
  rw [hx] at h
  cases r with
  | error e => cases h
  | ok a => exact ⟨a, d', rfl, h⟩

theorem run_bind_eq_error {x : ExceptT ε Run α} {f : α → ExceptT ε Run β} {d d'' : Disk} {e : ε}
    (h : (x >>= f).run d = (.error e, d'')) :
    x.run d = (.error e, d'') ∨ ∃ a d', x.run d = (.ok a, d') ∧ (f a).run d' = (.error e, d'') := by
  rw [run_bind_eq] at h
  rcases hx : x.run d with ⟨r, d'⟩
  rw [hx] at h
  cases r with
  | error e' =>
    cases h
    exact Or.inl rfl
  | ok a => exact Or.inr ⟨a, d', rfl, h⟩

theorem run_lift (x : Run α) (d : Disk) :
    (ExceptT.lift x : ExceptT ε Run α).run d = (.ok (x d).1, (x d).2) := rfl

theorem run_adapt (f : ε → ε') (x : ExceptT ε Run α) (d : Disk) :
    (x.adapt f).run d = ((x.run d).1.mapError f, (x.run d).2) := rfl

/-- The same of a run that carries a state beside the disk. -/
theorem run_state_bind_eq {σ : Type} (x : ExceptT ε (StateT σ Run) α)
    (f : α → ExceptT ε (StateT σ Run) β) (s : σ) (d : Disk) :
    ((x >>= f).run.run s).run d = match (x.run.run s).run d with
      | ((.ok a, s'), d') => ((f a).run.run s').run d'
      | ((.error e, s'), d') => ((.error e, s'), d') := by
  show (ExceptT.bindCont f (x s d).1.1 (x s d).1.2 (x s d).2) = _
  rcases hx : x s d with ⟨⟨r, s'⟩, d'⟩
  have hrun : (x.run.run s).run d = ((r, s'), d') := hx
  rw [hrun]
  cases r <;> rfl

/-- What every item keeps, wherever it ends, is kept. -/
theorem forM_induction {P : Disk → Prop} {items : List α} {f : α → ExceptT ε Run PUnit} {d : Disk}
    (hd : P d) (hf : ∀ a ∈ items, ∀ d, P d → P ((f a).run d).2) : P ((items.forM f).run d).2 := by
  induction items generalizing d with
  | nil => exact hd
  | cons a items ih =>
    have ha := hf a List.mem_cons_self d hd
    show P ((f a >>= fun _ => items.forM f).run d).2
    rw [run_bind_eq]
    rcases hrun : (f a).run d with ⟨r, d'⟩
    rw [hrun] at ha
    cases r with
    | error e => exact ha
    | ok _ => exact ih ha fun b hb => hf b (List.mem_cons_of_mem a hb)

/-- Results come from their items, one by one. -/
theorem mapM_eq_ok {f : α → ExceptT ε Run β} {items : List α} {results : List β} {d d' : Disk}
    (h : (items.mapM f).run d = (.ok results, d')) :
    List.Forall₂ (fun a b => ∃ d d', (f a).run d = (.ok b, d')) items results := by
  induction items generalizing d results with
  | nil =>
    cases h
    exact List.Forall₂.nil
  | cons a items ih =>
    rw [List.mapM_cons] at h
    obtain ⟨b, d₁, hfirst, h⟩ := run_bind_eq_ok h
    obtain ⟨rest, d₂, hrest, h⟩ := run_bind_eq_ok h
    cases h
    exact List.Forall₂.cons ⟨d, d₁, hfirst⟩ (ih hrest)

/-- An error is that of some item. -/
theorem mapM_eq_error {f : α → ExceptT ε Run β} {items : List α} {d d' : Disk} {e : ε}
    (h : (items.mapM f).run d = (.error e, d')) :
    ∃ a ∈ items, ∃ d₁, (f a).run d₁ = (.error e, d') := by
  induction items generalizing d with
  | nil => cases h
  | cons a items ih =>
    rw [List.mapM_cons] at h
    obtain h | ⟨b, d₁, -, h⟩ := run_bind_eq_error h
    · exact ⟨a, List.mem_cons_self, d, h⟩
    obtain h | ⟨rest, d₂, -, h⟩ := run_bind_eq_error h
    · obtain ⟨other, hother, hrun⟩ := ih h
      exact ⟨other, List.mem_cons_of_mem a hother, hrun⟩
    · cases h

/-- What a run answers can be seen without its disk. -/
theorem run_eq_ok_of_toOption {x : ExceptT ε Run α} {d : Disk} {a : α}
    (h : (x.run d).1.toOption = some a) : ∃ d', x.run d = (.ok a, d') := by
  rcases hrun : x.run d with ⟨r, d'⟩
  rw [hrun] at h
  obtain rfl : r = .ok a := Attempt.eq_ok_of_toOption h
  exact ⟨d', rfl⟩

/-! ## Steps that leave the disk -/

theorem mapM_of_forall₂ {f : α → ExceptT ε Run β} {items : List α} {results : List β} {d : Disk}
    (h : List.Forall₂ (fun a b => (f a).run d = (.ok b, d)) items results) :
    (items.mapM f).run d = (.ok results, d) := by
  induction h with
  | nil => rfl
  | cons hfirst _ ih =>
    rw [List.mapM_cons, run_bind_of_ok hfirst, run_bind_of_ok ih]
    rfl

theorem filterM_of_ok {f : α → ExceptT ε Run Bool} {p : α → Bool} {items : List α} {d : Disk}
    (h : ∀ a ∈ items, (f a).run d = (.ok (p a), d)) :
    (items.filterM f).run d = (.ok (items.filter p), d) := by
  have hloop (taken : List α) : (items.filterAuxM f taken).run d
      = (.ok ((items.filter p).reverse ++ taken), d) := by
    induction items generalizing taken with
    | nil => rfl
    | cons a items ih =>
      obtain ⟨hfirst, hrest⟩ := List.forall_mem_cons.1 h
      rw [List.filterAuxM, run_bind_of_ok hfirst, ih hrest]
      cases hkept : p a with
      | true =>
        rw [List.filter_cons_of_pos hkept, List.reverse_cons, List.append_assoc]
        rfl
      | false =>
        rw [List.filter_cons_of_neg (Bool.not_eq_true _ ▸ hkept)]
        rfl
  rw [List.filterM, run_bind_of_ok (hloop []), List.append_nil]
  exact congrArg (fun found => (Except.ok found, d)) (List.reverse_reverse _)

end

/-! ## Changes -/

/-- The disk with the given number of changes asked for. -/
def counted (d : Disk) (steps : Nat) : Disk := { d with steps }

theorem node?_counted (d : Disk) (steps : Nat) (place : Trail) :
    (d.counted steps).node? place = d.node? place := rfl

theorem Sound.counted {d : Disk} (h : d.Sound) (steps : Nat) : (d.counted steps).Sound :=
  ⟨h.nodup, h.names, h.parents, h.home⟩

/-- How a change fails: because it was told to, or on its own account. -/
structure Refused (d : Disk) (path : String) (target : Option String) (own : StorageFault → Prop)
    (e : StorageError) : Prop where
  path : e.path = path
  target : e.target = target
  fault : e.fault = .inputOutput ∧ d.failing d.steps = true ∨ own e.fault

section

variable {α : Type} {path : String} {target : Option String} {d d' : Disk} {e : StorageError}

theorem change_eq_ok {action : Disk → Except StorageFault (α × Disk)} {a : α}
    (h : (change path target action).run d = (.ok a, d')) :
    d.failing d.steps = false ∧
      ∃ d₁, action d = .ok (a, d₁) ∧ d' = d₁.counted (d.steps + 1) := by
  simp only [change, ExceptT.run, ExceptT.mk] at h
  split at h
  · cases h
  · rename_i hfailing
    refine ⟨Bool.not_eq_true _ ▸ hfailing, ?_⟩
    split at h
    · rename_i a' d₁ haction
      cases h
      exact ⟨d₁, haction, rfl⟩
    · cases h

theorem change_eq_error {action : Disk → Except StorageFault (α × Disk)}
    (h : (change path target action).run d = (.error e, d')) :
    d' = d.counted (d.steps + 1) ∧
      d.Refused path target (fun fault => action d = .error fault) e := by
  simp only [change, ExceptT.run, ExceptT.mk] at h
  split at h
  · rename_i hfailing
    cases h
    exact ⟨rfl, rfl, rfl, Or.inl ⟨rfl, hfailing⟩⟩
  · split at h
    · cases h
    · rename_i fault haction
      cases h
      exact ⟨rfl, rfl, rfl, Or.inr haction⟩

theorem alter_eq_ok {action : Disk → Except StorageFault Disk}
    (h : (alter path target action).run d = (.ok (), d')) :
    d.failing d.steps = false ∧ ∃ d₁, action d = .ok d₁ ∧ d' = d₁.counted (d.steps + 1) := by
  obtain ⟨hfailing, d₁, haction, rfl⟩ := change_eq_ok h
  refine ⟨hfailing, d₁, ?_, rfl⟩
  cases hresult : action d with
  | error fault =>
    rw [hresult] at haction
    cases haction
  | ok d₂ =>
    rw [hresult] at haction
    cases haction
    rfl

theorem alter_eq_error {action : Disk → Except StorageFault Disk}
    (h : (alter path target action).run d = (.error e, d')) :
    d' = d.counted (d.steps + 1) ∧
      d.Refused path target (fun fault => action d = .error fault) e := by
  obtain ⟨hd, hpath, htarget, hfault⟩ := change_eq_error h
  refine ⟨hd, hpath, htarget, hfault.imp_right fun haction => ?_⟩
  cases hresult : action d with
  | error fault =>
    rw [hresult] at haction
    cases haction
    rfl
  | ok d₂ =>
    rw [hresult] at haction
    cases haction

/-- A change that is not told to fail is made, if the disk has no objection. -/
theorem alter_of_ok {action : Disk → Except StorageFault Disk} {d₁ : Disk}
    (hfailing : d.failing d.steps = false) (haction : action d = .ok d₁) :
    (alter path target action).run d = (.ok (), d₁.counted (d.steps + 1)) := by
  have hchange : ((action d).map fun d' => ((), d')) = .ok ((), d₁) := by
    rw [haction]
    rfl
  simp only [alter, change, ExceptT.run, ExceptT.mk, hfailing, hchange]
  rfl

theorem inquire_eq_ok {answer : Disk → Except StorageFault α} {a : α}
    (h : (inquire path answer).run d = (.ok a, d')) : answer d = .ok a ∧ d' = d := by
  simp only [inquire, ExceptT.run, ExceptT.mk] at h
  split at h
  · rename_i hanswer
    cases h
    exact ⟨hanswer, rfl⟩
  · cases h

theorem inquire_eq_error {answer : Disk → Except StorageFault α}
    (h : (inquire path answer).run d = (.error e, d')) :
    answer d = .error e.fault ∧ e.path = path ∧ e.target = none ∧ d' = d := by
  simp only [inquire, ExceptT.run, ExceptT.mk] at h
  split at h
  · cases h
  · rename_i hanswer
    cases h
    exact ⟨hanswer, rfl, rfl, rfl⟩

end

/-! ## Questions -/

/-- What a path leads to. -/
def kindOf (d : Disk) (path : String) : Option EntryKind :=
  match d.place path with
  | .ok place => d.kindAt? place
  | .error _ => none

/-- A path that cannot be followed for its own sake leads nowhere either. -/
theorem toOption_look (d : Disk) (path : String) : (d.look path).toOption.join = d.kindOf path := by
  rw [kindOf, look]
  cases d.place path with
  | ok place => rfl
  | error fault => cases fault <;> rfl

theorem look_eq_error {d : Disk} {path : String} {fault : StorageFault}
    (h : d.look path = .error fault) :
    fault = .nameTooLong ∧ d.place path = .error .nameTooLong := by
  rw [look] at h
  split at h
  · cases h
  · next hplace =>
    cases h
    exact ⟨rfl, hplace⟩
  · cases h

theorem look_eq_ok {d : Disk} {path : String} {kind : Option EntryKind}
    (h : d.look path = .ok kind) : d.kindOf path = kind := by
  rw [← toOption_look, h]
  rfl

theorem kind?_eq (path : String) (d : Disk) :
    (Storage.kind? path : Run _) d = (d.kindOf path, d) := by
  show (((inquire path fun d => d.look path).run d).1.toOption.join,
    ((inquire path fun d => d.look path).run d).2) = _
  rw [← toOption_look]
  simp only [inquire, ExceptT.run, ExceptT.mk]
  cases d.look path <;> rfl

theorem isDirectory_eq (path : String) (d : Disk) :
    (Storage.isDirectory path : Run Bool) d = (d.kindOf path == some .directory, d) := by
  show ((Storage.kind? path : Run _) d |> fun r => (r.1 == some EntryKind.directory, r.2)) = _
  rw [kind?_eq]

theorem present_eq (path : String) (d : Disk) :
    (Storage.present path : Run Bool) d = ((d.kindOf path).isSome, d) := by
  show ((Storage.kind? path : Run _) d |> fun r => (r.1.isSome, r.2)) = _
  rw [kind?_eq]

/-- A directory that a path leads to is listed. -/
theorem names_run {d : Disk} {path : String} {place : Trail} (hplace : d.place path = .ok place)
    (hdirectory : d.node? place = some .directory) :
    (Storage.names path : StorageT Run _).run d = (.ok (d.namesAt place), d) := by
  have hnames : d.names path = .ok (d.namesAt place) := by
    simp only [Disk.names, hplace, bind, Except.bind, hdirectory]
    rfl
  show (inquire path fun d => d.names path).run d = _
  simp only [inquire, ExceptT.run, ExceptT.mk, hnames]

/-- A file that a path leads to is read. -/
theorem read_run {d : Disk} {path : String} {place : Trail} {content : ByteArray}
    (hplace : d.place path = .ok place) (hfile : d.node? place = some (.file content)) :
    (Storage.read path : StorageT Run _).run d = (.ok content, d) := by
  have hread : d.read path = .ok content := by
    simp only [Disk.read, hplace, bind, Except.bind, hfile]
    rfl
  show (inquire path fun d => d.read path).run d = _
  simp only [inquire, ExceptT.run, ExceptT.mk, hread]

theorem kindOf_eq_directory {d : Disk} {path : String} (h : d.kindOf path = some .directory) :
    d.place path = .ok (d.spot path) ∧ d.node? (d.spot path) = some .directory := by
  rw [kindOf] at h
  split at h
  · rename_i place hplace
    obtain rfl := (place_eq_ok_iff.1 hplace).2.2
    exact ⟨hplace, kindAt?_eq_directory.1 h⟩
  · cases h

/-- What a path with a name behind it leads to is in the directory of the path. -/
theorem kindOf_of_join {d : Disk} {path name : String} (hpath : path ≠ "")
    (hname : '/' ∉ name.toList) (h : d.kindOf (Path.join path name) ≠ none) :
    d.kindOf path = some .directory := by
  rw [kindOf] at h
  split at h
  · next place hplace =>
    have habsolute := Path.isAbsolute_of_not_mem hname
    obtain ⟨-, hpassable, -⟩ := place_eq_ok_iff.1 hplace
    obtain ⟨front, empties, hempties, hpieces, hjoin⟩ := Path.pieces_join path habsolute
    rw [start_join d path habsolute, hjoin, Path.pieces_of_not_mem hname, passable_append]
      at hpassable
    obtain ⟨hfront, hdirectory, -⟩ := hpassable
    have hspot : d.spot path = walk (d.start path) front := by
      rw [spot, hpieces, walk_append, walk_empties hempties]
    have hstays : d.Passable (walk (d.start path) front) (empties ++ []) :=
      passable_stays hdirectory (fun piece hpiece hmatters =>
        (Path.matters_iff.1 hmatters).1 (hempties piece hpiece)) trivial
    rw [List.append_nil] at hstays
    have hleads : d.place path = .ok (d.spot path) :=
      place_eq_ok_iff.2 ⟨hpath, by rw [hpieces, passable_append]; exact ⟨hfront, hstays⟩, rfl⟩
    rw [kindOf, hleads, hspot]
    exact kindAt?_eq_directory.2 hdirectory
  · exact absurd rfl h

end Disk

end ControlSchema
