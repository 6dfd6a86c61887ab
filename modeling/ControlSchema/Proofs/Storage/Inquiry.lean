import ControlSchema.Proofs.Storage.Run

/-!
# Runs that only ask

Many runs ask the disk and change nothing. Such a run is a computation with what
the disk answers: it can be divided at its binds into the answers of its parts,
and the disk that it was started on is the disk that it ends on, whether it
succeeds or not.
-/

namespace ControlSchema

namespace Disk

section

variable {ε ε' α β : Type}

/-- The run ends on the disk that it was started on. -/
def Inquires (x : ExceptT ε Run α) : Prop := ∀ d, (x.run d).2 = d

/-- What the disk answers to a run. -/
def answer (d : Disk) (x : ExceptT ε Run α) : Except ε α := (x.run d).1

theorem Inquires.run_eq {x : ExceptT ε Run α} (h : Inquires x) (d : Disk) :
    x.run d = (d.answer x, d) := Prod.ext rfl (h d)

theorem run_of_answer {x : ExceptT ε Run α} {d : Disk} {r : Except ε α} (h : d.answer x = r) :
    x.run d = (r, (x.run d).2) := Prod.ext h rfl

theorem Inquires.of_run {x : ExceptT ε Run α} (h : Inquires x) {d d' : Disk} {r : Except ε α}
    (hrun : x.run d = (r, d')) : d.answer x = r ∧ d' = d := by
  rw [h.run_eq d] at hrun
  cases hrun
  exact ⟨rfl, rfl⟩

/-! ## Parts -/

theorem inquires_mk (r : Except ε α) : Inquires (ExceptT.mk (pure r) : ExceptT ε Run α) :=
  fun _ => rfl

theorem answer_mk (d : Disk) (r : Except ε α) :
    d.answer (ExceptT.mk (pure r) : ExceptT ε Run α) = r := rfl

theorem inquires_pure (a : α) : Inquires (pure a : ExceptT ε Run α) := fun _ => rfl

theorem answer_pure (d : Disk) (a : α) : d.answer (pure a : ExceptT ε Run α) = .ok a := rfl

theorem inquires_throw (e : ε) : Inquires (throw e : ExceptT ε Run α) := fun _ => rfl

theorem Inquires.bind {x : ExceptT ε Run α} {f : α → ExceptT ε Run β} (hx : Inquires x)
    (hf : ∀ a, Inquires (f a)) : Inquires (x >>= f) := by
  intro d
  rw [run_bind_eq, hx.run_eq]
  cases d.answer x with
  | error e => rfl
  | ok a => exact hf a d

theorem answer_bind {x : ExceptT ε Run α} (hx : Inquires x) (f : α → ExceptT ε Run β) (d : Disk) :
    d.answer (x >>= f) = d.answer x >>= fun a => d.answer (f a) := by
  rw [answer, run_bind_eq, hx.run_eq]
  cases d.answer x <;> rfl

theorem Inquires.adapt {x : ExceptT ε Run α} (h : Inquires x) (f : ε → ε') :
    Inquires (x.adapt f) := h

theorem answer_adapt (f : ε → ε') (x : ExceptT ε Run α) (d : Disk) :
    d.answer (x.adapt f) = (d.answer x).mapError f := rfl

/-- A run that begins by asking fails with what is asked, or goes on with the answer. -/
theorem Inquires.bind_eq_error {x : ExceptT ε Run α} (hx : Inquires x) {f : α → ExceptT ε Run β}
    {d d' : Disk} {e : ε} (h : (x >>= f).run d = (.error e, d')) :
    d.answer x = .error e ∨ ∃ a, d.answer x = .ok a ∧ (f a).run d = (.error e, d') := by
  rw [run_bind_eq, hx.run_eq] at h
  cases hanswer : d.answer x with
  | ok a =>
    rw [hanswer] at h
    exact .inr ⟨a, rfl, h⟩
  | error cause =>
    rw [hanswer] at h
    cases h
    exact .inl rfl

/-- A run that is tried tells how it ended. -/
theorem Inquires.attempt {x : ExceptT ε Run α} (h : Inquires x) :
    Inquires (ExceptT.lift x.run : ExceptT ε' Run (Except ε α)) := h

theorem answer_attempt (x : ExceptT ε Run α) (d : Disk) :
    d.answer (ExceptT.lift x.run : ExceptT ε' Run (Except ε α)) = .ok (d.answer x) := rfl

theorem inquires_filterM {f : α → ExceptT ε Run Bool} (hf : ∀ a, Inquires (f a)) (items : List α) :
    Inquires (items.filterM f) := by
  have hloop (taken : List α) : Inquires (items.filterAuxM f taken) := by
    induction items generalizing taken with
    | nil => exact inquires_pure taken
    | cons a items ih => exact (hf a).bind fun kept => ih _
  exact (hloop []).bind fun _ => inquires_pure _

theorem answer_filterM {f : α → ExceptT ε Run Bool} (hf : ∀ a, Inquires (f a)) (items : List α)
    (d : Disk) : d.answer (items.filterM f) = items.filterM fun a => d.answer (f a) := by
  have hloop (taken : List α) :
      Inquires (items.filterAuxM f taken) ∧ d.answer (items.filterAuxM f taken)
        = items.filterAuxM (fun a => d.answer (f a)) taken := by
    induction items generalizing taken with
    | nil => exact ⟨inquires_pure taken, rfl⟩
    | cons a items ih =>
      refine ⟨(hf a).bind fun kept => (ih _).1, ?_⟩
      rw [List.filterAuxM, List.filterAuxM, answer_bind (hf a)]
      exact congrArg _ (funext fun kept => (ih _).2)
  rw [List.filterM, List.filterM, answer_bind (hloop []).1, (hloop []).2]
  rfl

/-- Items are asked for one after another, up to the first that answers yes. -/
theorem inquires_anyM {f : α → ExceptT ε Run Bool} (hf : ∀ a, Inquires (f a)) {items : List α} :
    Inquires (items.anyM f) := by
  induction items with
  | nil => exact inquires_pure false
  | cons a items ih =>
    refine (hf a).bind fun found => ?_
    cases found
    · exact ih
    · exact inquires_pure true

theorem answer_anyM_cons {f : α → ExceptT ε Run Bool} (hf : ∀ a, Inquires (f a)) (a : α)
    (items : List α) (d : Disk) : d.answer ((a :: items).anyM f)
      = d.answer (f a) >>= fun found => if found then .ok true else d.answer (items.anyM f) := by
  rw [List.anyM, answer_bind (hf a)]
  refine congrArg _ (funext fun found => ?_)
  cases found <;> rfl

theorem answer_anyM_eq_error {f : α → ExceptT ε Run Bool} (hf : ∀ a, Inquires (f a))
    {items : List α} {d : Disk} {e : ε} (h : d.answer (items.anyM f) = .error e) :
    ∃ a ∈ items, d.answer (f a) = .error e := by
  induction items with
  | nil => cases h
  | cons a items ih =>
    rw [answer_anyM_cons hf] at h
    obtain h | ⟨found, -, h⟩ := Attempt.bind_eq_error h
    · exact ⟨a, List.mem_cons_self, h⟩
    · split at h
      · cases h
      · obtain ⟨b, hb, hanswer⟩ := ih h
        exact ⟨b, List.mem_cons_of_mem a hb, hanswer⟩

theorem answer_of_anyM_eq_false {f : α → ExceptT ε Run Bool} (hf : ∀ a, Inquires (f a))
    {items : List α} {d : Disk} (h : d.answer (items.anyM f) = .ok false) :
    ∀ a ∈ items, d.answer (f a) = .ok false := by
  induction items with
  | nil => exact List.forall_mem_nil _
  | cons a items ih =>
    rw [answer_anyM_cons hf] at h
    obtain ⟨found, hfound, h⟩ := Attempt.bind_eq_ok h
    cases found with
    | true => cases h
    | false => exact List.forall_mem_cons.2 ⟨hfound, ih h⟩

/-! ## Primitive questions -/

theorem inquires_inquire (path : String) (question : Disk → Except StorageFault α) :
    Inquires (inquire path question) := by
  intro d
  simp only [inquire, ExceptT.run, ExceptT.mk]
  split <;> rfl

theorem answer_inquire (path : String) (question : Disk → Except StorageFault α) (d : Disk) :
    d.answer (inquire path question)
      = (question d).mapError fun fault => ⟨fault, path, none⟩ := by
  simp only [answer, inquire, ExceptT.run, ExceptT.mk]
  split <;> rename_i h <;> rw [h] <;> rfl

end

end Disk

namespace Storage

open Disk

variable {ε : Type}

theorem inquires_isDirectory (path : String) :
    Inquires (ExceptT.lift (isDirectory path) : ExceptT ε Run Bool) := by
  intro d
  rw [run_lift, isDirectory_eq]

theorem inquires_present (path : String) :
    Inquires (ExceptT.lift (present path) : ExceptT ε Run Bool) := by
  intro d
  rw [run_lift, present_eq]

theorem answer_present (path : String) (d : Disk) :
    d.answer (ExceptT.lift (present path) : ExceptT ε Run Bool)
      = .ok (d.kindOf path).isSome := by
  rw [answer, run_lift, present_eq]

theorem inquires_look (path : String) : Inquires (look path : StorageT Run _) :=
  inquires_inquire path fun d => d.look path

theorem answer_look (path : String) (d : Disk) : d.answer (look path : StorageT Run _)
    = (d.look path).mapError fun fault => ⟨fault, path, none⟩ := answer_inquire path _ d

theorem look_eq_error {path : String} {d : Disk} {e : StorageError}
    (h : d.answer (look path : StorageT Run _) = .error e) :
    e = ⟨.nameTooLong, path, none⟩ ∧ d.place path = .error .nameTooLong := by
  rw [answer_look] at h
  obtain ⟨fault, hfault, rfl⟩ := Attempt.mapError_eq_error h
  obtain ⟨rfl, hplace⟩ := Disk.look_eq_error hfault
  exact ⟨rfl, hplace⟩

theorem look_eq_ok {path : String} {d : Disk} {kind : Option EntryKind}
    (h : d.answer (look path : StorageT Run _) = .ok kind) : d.kindOf path = kind := by
  rw [answer_look] at h
  exact Disk.look_eq_ok (Attempt.mapError_eq_ok h)

theorem inquires_leads (path : String) : Inquires (leads path : StorageT Run Bool) :=
  (inquires_look path).bind fun _ => inquires_pure _

theorem inquires_leadsTo (kind : EntryKind) (path : String) :
    Inquires (leadsTo kind path : StorageT Run Bool) :=
  (inquires_look path).bind fun _ => inquires_pure _

/-- What a path leads to is told, unless the path cannot be followed. -/
theorem isSome_of_leads {path : String} {d : Disk} {found : Bool}
    (h : d.answer (leads path : StorageT Run Bool) = .ok found) :
    found = (d.kindOf path).isSome := by
  rw [leads, answer_bind (inquires_look path)] at h
  obtain ⟨looked, hlooked, h⟩ := Attempt.bind_eq_ok h
  cases h
  rw [look_eq_ok hlooked]

theorem kindOf_of_leadsTo {kind : EntryKind} {path : String} {d : Disk} {found : Bool}
    (h : d.answer (leadsTo kind path : StorageT Run Bool) = .ok found) :
    found = (d.kindOf path == some kind) := by
  rw [leadsTo, answer_bind (inquires_look path)] at h
  obtain ⟨looked, hlooked, h⟩ := Attempt.bind_eq_ok h
  cases h
  rw [look_eq_ok hlooked]

theorem leads_eq_error {path : String} {d : Disk} {e : StorageError}
    (h : d.answer (leads path : StorageT Run Bool) = .error e) :
    e = ⟨.nameTooLong, path, none⟩ ∧ d.place path = .error .nameTooLong := by
  rw [leads, answer_bind (inquires_look path)] at h
  obtain h | ⟨looked, -, h⟩ := Attempt.bind_eq_error h
  · exact look_eq_error h
  · cases h

theorem leadsTo_eq_error {kind : EntryKind} {path : String} {d : Disk} {e : StorageError}
    (h : d.answer (leadsTo kind path : StorageT Run Bool) = .error e) :
    e = ⟨.nameTooLong, path, none⟩ ∧ d.place path = .error .nameTooLong := by
  rw [leadsTo, answer_bind (inquires_look path)] at h
  obtain h | ⟨looked, -, h⟩ := Attempt.bind_eq_error h
  · exact look_eq_error h
  · cases h

theorem inquires_names (path : String) : Inquires (names path : StorageT Run _) :=
  inquires_inquire path fun d => d.names path

theorem answer_names (path : String) (d : Disk) : d.answer (names path : StorageT Run _)
    = (d.names path).mapError fun fault => ⟨fault, path, none⟩ := answer_inquire path _ d

theorem inquires_read (path : String) : Inquires (read path : StorageT Run _) :=
  inquires_inquire path fun d => d.read path

theorem answer_read (path : String) (d : Disk) : d.answer (read path : StorageT Run _)
    = (d.read path).mapError fun fault => ⟨fault, path, none⟩ := answer_inquire path _ d

/-! ## Names and texts -/

/-- Exactly directories have names in them. -/
theorem names_eq_ok_iff {d : Disk} {path : String} {found : List String} :
    d.names path = .ok found ↔
      d.kindOf path = some .directory ∧ found = d.namesAt (d.spot path) := by
  constructor
  · intro h
    obtain ⟨hplace, hdirectory, hfound⟩ := names_eq_ok h
    refine ⟨?_, hfound⟩
    rw [kindOf, hplace]
    exact kindAt?_eq_directory.2 hdirectory
  · rintro ⟨hkind, rfl⟩
    obtain ⟨hplace, hdirectory⟩ := kindOf_eq_directory hkind
    simp only [Disk.names, hplace, bind, Except.bind, hdirectory]
    rfl

theorem inquires_sortedNames (path : String) : Inquires (sortedNames path : StorageT Run _) := by
  refine (inquires_names path).attempt.bind fun r => ?_
  split
  · exact inquires_pure _
  · split
    · exact inquires_pure _
    · exact inquires_throw _

theorem answer_sortedNames (path : String) (d : Disk) :
    d.answer (sortedNames path : StorageT Run _) = match d.names path with
      | .ok found => .ok (found.mergeSort textAtMost)
      | .error .missing => .ok []
      | .error fault => .error ⟨fault, path, none⟩ := by
  rw [sortedNames, answer_bind (inquires_names path).attempt, answer_attempt, answer_names]
  cases d.names path with
  | ok found => rfl
  | error fault => cases fault <;> rfl

/-- What is listed stands in the directory, and where there is no directory nothing is listed. -/
theorem mem_sortedNames {d : Disk} {path : String} {names : List String}
    (h : d.answer (sortedNames path : StorageT Run _) = .ok names) {name : String} :
    name ∈ names ↔ d.kindOf path = some .directory ∧ name ∈ d.namesAt (d.spot path) := by
  rw [answer_sortedNames] at h
  split at h
  · next found hfound =>
    cases h
    obtain ⟨hkind, rfl⟩ := names_eq_ok_iff.1 hfound
    rw [List.mem_mergeSort]
    exact ⟨fun hname => ⟨hkind, hname⟩, And.right⟩
  · next hmissing =>
    cases h
    refine ⟨nofun, fun ⟨hkind, _⟩ => ?_⟩
    rw [names_eq_ok_iff.2 ⟨hkind, rfl⟩] at hmissing
    cases hmissing
  · cases h

theorem inquires_readExact (path : String) :
    Inquires (readExact path : ExceptT ReadError Run String) := by
  refine ((inquires_read path).adapt _).bind fun bytes => ?_
  split
  · exact inquires_pure _
  · exact inquires_throw _

theorem inquires_readText (path : String) :
    Inquires (readText path : ExceptT ReadError Run String) :=
  (inquires_readExact path).bind fun _ => inquires_pure _

end Storage

end ControlSchema
