import Mathlib.Data.List.Basic
import Mathlib.Data.List.Forall2

/-!
# Attempts

A value of `Except ε α` is an attempt: it succeeds with a value or fails with an error. A program of
attempts is taken apart from its outcome. When a sequence succeeds each of its steps did, and when
it fails there is one step that did, after all those before it had succeeded.
-/

namespace ControlSchema.Attempt

section Sequencing

variable {α β ε ε' : Type} {x : Except ε α}

theorem eq_ok_of_toOption {a : α} (h : x.toOption = some a) : x = .ok a := by
  cases x with
  | ok b => exact congrArg Except.ok (Option.some.inj h)
  | error e => cases h

theorem mapError_eq_ok {f : ε → ε'} {a : α} (h : x.mapError f = .ok a) : x = .ok a := by
  cases x with
  | ok b =>
    cases h
    rfl
  | error e => cases h

theorem mapError_eq_error {f : ε → ε'} {e : ε'} (h : x.mapError f = .error e) :
    ∃ cause, x = .error cause ∧ f cause = e := by
  cases x with
  | ok a => cases h
  | error cause => exact ⟨cause, rfl, Except.error.inj h⟩

theorem bind_eq_ok {f : α → Except ε β} {b : β} (h : x >>= f = .ok b) :
    ∃ a, x = .ok a ∧ f a = .ok b := by
  cases x with
  | ok a => exact ⟨a, rfl, h⟩
  | error e => cases h

theorem bind_eq_error {f : α → Except ε β} {e : ε} (h : x >>= f = .error e) :
    x = .error e ∨ ∃ a, x = .ok a ∧ f a = .error e := by
  cases x with
  | ok a => exact .inr ⟨a, rfl, h⟩
  | error cause => exact .inl (congrArg Except.error (Except.error.inj h))

end Sequencing

/-! ## One attempt for each item of a list

Results and items stand in step, so that what is known of a result comes from its own item. -/

section Traversing

variable {α β ε : Type} {f : α → Except ε β} {as : List α} {bs : List β}

theorem mapM_eq_ok_map {g : α → β} (h : ∀ a ∈ as, f a = .ok (g a)) :
    as.mapM f = .ok (as.map g) := by
  induction as with
  | nil => rfl
  | cons a as ih =>
    rw [List.mapM_cons, h a List.mem_cons_self, ih fun b hb => h b (List.mem_cons_of_mem a hb)]
    rfl

/-- Results come from their items, one by one. -/
theorem forall₂_of_mapM (h : as.mapM f = .ok bs) : List.Forall₂ (fun a b => f a = .ok b) as bs := by
  induction as generalizing bs with
  | nil =>
    cases h
    exact .nil
  | cons a as ih =>
    rw [List.mapM_cons] at h
    obtain ⟨b, hb, h⟩ := bind_eq_ok h
    obtain ⟨rest, hrest, h⟩ := bind_eq_ok h
    cases h
    exact .cons hb (ih hrest)

theorem exists_of_mapM (h : as.mapM f = .ok bs) : ∀ a ∈ as, ∃ b, f a = .ok b := by
  have hall := forall₂_of_mapM h
  clear h
  induction hall with
  | nil => exact nofun
  | cons hb _ ih => exact List.forall_mem_cons.2 ⟨⟨_, hb⟩, ih⟩

theorem mem_of_mapM (h : as.mapM f = .ok bs) : ∀ b ∈ bs, ∃ a ∈ as, f a = .ok b := by
  have hall := forall₂_of_mapM h
  clear h
  induction hall with
  | nil => exact nofun
  | cons hb _ ih =>
    refine List.forall_mem_cons.2 ⟨⟨_, List.mem_cons_self, hb⟩, fun c hc => ?_⟩
    obtain ⟨other, hother, hfound⟩ := ih c hc
    exact ⟨other, List.mem_cons_of_mem _ hother, hfound⟩

theorem forall_of_mapM {P : β → Prop} (hf : ∀ a b, f a = .ok b → P b) (h : as.mapM f = .ok bs) :
    ∀ b ∈ bs, P b := by
  intro b hb
  obtain ⟨a, -, hab⟩ := mem_of_mapM h b hb
  exact hf a b hab

/-- The error is that of the first item that fails. -/
theorem mapM_eq_error {e : ε} (h : as.mapM f = .error e) :
    ∃ before a after, as = before ++ a :: after ∧ (∀ b ∈ before, ∃ c, f b = .ok c) ∧
      f a = .error e := by
  induction as with
  | nil => cases h
  | cons a as ih =>
    rw [List.mapM_cons] at h
    obtain h | ⟨b, hb, h⟩ := bind_eq_error h
    · exact ⟨[], a, as, rfl, nofun, h⟩
    obtain h | ⟨bs, -, h⟩ := bind_eq_error h
    · obtain ⟨before, c, after, rfl, hbefore, hc⟩ := ih h
      exact ⟨a :: before, c, after, rfl, List.forall_mem_cons.2 ⟨⟨b, hb⟩, hbefore⟩, hc⟩
    · cases h

/-- One item that fails is enough, and what holds of every error holds of the one there is. -/
theorem exists_mapM_eq_error {P : ε → Prop} (hP : ∀ a e, f a = .error e → P e)
    (h : ∃ a ∈ as, ∃ e, f a = .error e) : ∃ e, as.mapM f = .error e ∧ P e := by
  cases hall : as.mapM f with
  | ok bs =>
    obtain ⟨a, ha, e, he⟩ := h
    obtain ⟨b, hb⟩ := exists_of_mapM hall a ha
    cases he.symm.trans hb
  | error e =>
    obtain ⟨-, a, -, -, -, ha⟩ := mapM_eq_error hall
    exact ⟨e, rfl, hP a e ha⟩

end Traversing

/-! ## Items that answer with a list each -/

section Flattening

variable {α β γ ε : Type} {as : List α}

theorem forall_mem_flatten_of_mapM {f : α → Except ε (List β)} {P : β → Prop}
    (hf : ∀ a bs, f a = .ok bs → ∀ b ∈ bs, P b) {bss : List (List β)}
    (h : as.mapM f = .ok bss) : ∀ b ∈ bss.flatten, P b := by
  intro b hb
  obtain ⟨bs, hbs, hb⟩ := List.mem_flatten.1 hb
  exact forall_of_mapM (P := fun bs => ∀ b ∈ bs, P b) hf h bs hbs b hb

/-- What is in step part by part is in step as a whole. -/
theorem forall₂_flatMap_of_mapM {f : α → Except ε (List γ)} {parts : α → List β}
    {R : β → γ → Prop} (hf : ∀ a cs, f a = .ok cs → List.Forall₂ R (parts a) cs)
    {css : List (List γ)} (h : as.mapM f = .ok css) :
    List.Forall₂ R (as.flatMap parts) css.flatten := by
  have hall := forall₂_of_mapM h
  clear h
  induction hall with
  | nil => exact .nil
  | cons hfirst _ ih =>
    rw [List.flatMap_cons, List.flatten_cons]
    exact List.rel_append (hf _ _ hfirst) ih

end Flattening

/-! ## Tests that may fail

The library filters with an accumulator, so the statements about it carry what has been taken. -/

section Filtering

variable {α ε : Type} {f : α → Except ε Bool}

theorem filterAuxM_eq_ok {as taken kept : List α}
    (h : as.filterAuxM f taken = .ok kept) :
    (∀ a ∈ as, ∃ b, f a = .ok b) ∧ ∀ a, a ∈ kept ↔ a ∈ taken ∨ a ∈ as ∧ f a = .ok true := by
  induction as generalizing taken with
  | nil =>
    cases h
    exact ⟨nofun, fun a => ⟨.inl, fun h => h.resolve_right fun hnil => nomatch hnil.1⟩⟩
  | cons a as ih =>
    rw [List.filterAuxM] at h
    obtain ⟨b, hb, h⟩ := bind_eq_ok h
    obtain ⟨hanswers, hkept⟩ := ih h
    refine ⟨List.forall_mem_cons.2 ⟨⟨b, hb⟩, hanswers⟩, fun c => ?_⟩
    rw [hkept, List.mem_cons]
    cases b with
    | true =>
      constructor
      · rintro (hc | hc)
        · obtain rfl | hc := List.mem_cons.1 hc
          · exact .inr ⟨.inl rfl, hb⟩
          · exact .inl hc
        · exact .inr ⟨.inr hc.1, hc.2⟩
      · rintro (hc | ⟨rfl | hc, hpass⟩)
        · exact .inl (List.mem_cons_of_mem a hc)
        · exact .inl List.mem_cons_self
        · exact .inr ⟨hc, hpass⟩
    | false =>
      refine or_congr_right ⟨fun hc => ⟨.inr hc.1, hc.2⟩, ?_⟩
      rintro ⟨rfl | hc, hpass⟩
      · rw [hb] at hpass
        cases hpass
      · exact ⟨hc, hpass⟩

/-- What is kept are the items that pass. -/
theorem filterM_eq_ok {as kept : List α}
    (h : as.filterM f = .ok kept) :
    (∀ a ∈ as, ∃ b, f a = .ok b) ∧ ∀ a, a ∈ kept ↔ a ∈ as ∧ f a = .ok true := by
  rw [List.filterM] at h
  obtain ⟨found, hfound, h⟩ := bind_eq_ok h
  cases h
  obtain ⟨hanswers, hkept⟩ := filterAuxM_eq_ok hfound
  refine ⟨hanswers, fun a => ?_⟩
  rw [List.mem_reverse, hkept]
  exact or_iff_right List.not_mem_nil

theorem filterAuxM_eq_error {as taken : List α} {e : ε}
    (h : as.filterAuxM f taken = .error e) : ∃ before a after, as = before ++ a :: after ∧
      (∀ b ∈ before, ∃ kept, f b = .ok kept) ∧ f a = .error e := by
  induction as generalizing taken with
  | nil => cases h
  | cons a as ih =>
    rw [List.filterAuxM] at h
    obtain h | ⟨kept, hkept, h⟩ := bind_eq_error h
    · exact ⟨[], a, as, rfl, nofun, h⟩
    · obtain ⟨before, c, after, rfl, hbefore, hc⟩ := ih h
      exact ⟨a :: before, c, after, rfl, List.forall_mem_cons.2 ⟨⟨kept, hkept⟩, hbefore⟩, hc⟩

theorem filterM_eq_error {as : List α} {e : ε}
    (h : as.filterM f = .error e) : ∃ before a after, as = before ++ a :: after ∧
      (∀ b ∈ before, ∃ kept, f b = .ok kept) ∧ f a = .error e := by
  rw [List.filterM] at h
  obtain h | ⟨found, -, h⟩ := bind_eq_error h
  · exact filterAuxM_eq_error h
  · cases h

end Filtering

end ControlSchema.Attempt
