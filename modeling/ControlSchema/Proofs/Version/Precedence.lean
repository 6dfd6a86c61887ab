import ControlSchema.Version.Compatibility

/-!
# Precedence

Versions are ordered by precedence, which is a total preorder: each of its parts is one, and
precedence compares the parts one after another. So a fold that keeps the better of two versions
ends with one that no other is above, wherever in the list the others stand.
-/

namespace ControlSchema.Version

open Std

/-! ## Identifiers -/

namespace IdentifierKey

theorem compare_words (a b : String) : compare (.word a) (.word b) = Ord.compare a b := by
  have hord : Ord.compare a b = if a < b then .lt else if a = b then .eq else .gt := rfl
  rw [hord, compare]
  by_cases hlt : a < b
  · rw [if_pos hlt, if_pos hlt]
  · rw [if_neg hlt, if_neg hlt]
    by_cases heq : a = b
    · rw [if_pos heq, heq, if_neg (String.lt_irrefl b)]
    · have hgt : b < a := Classical.byContradiction fun hgt =>
        heq (String.le_antisymm (String.not_lt.1 hgt) (String.not_lt.1 hlt))
      rw [if_neg heq, if_pos hgt]

instance : TransCmp compare where
  eq_swap {a b} := by
    cases a with
    | number a =>
      cases b with
      | number b => exact @OrientedCmp.eq_swap _ (Ord.compare (α := Nat)) _ a b
      | word b => rfl
    | word a =>
      cases b with
      | number b => rfl
      | word b =>
        rw [compare_words, compare_words]
        exact @OrientedCmp.eq_swap _ (Ord.compare (α := String)) _ a b
  isLE_trans {a b c} hab hbc := by
    cases b with
    | number b =>
      cases a with
      | word a => exact absurd hab nofun
      | number a =>
        cases c with
        | number c => exact @TransCmp.isLE_trans _ (Ord.compare (α := Nat)) _ a b c hab hbc
        | word c => rfl
    | word b =>
      cases c with
      | number c => exact absurd hbc nofun
      | word c =>
        cases a with
        | number a => rfl
        | word a =>
          rw [compare_words] at hab hbc ⊢
          exact TransCmp.isLE_trans hab hbc

end IdentifierKey

theorem compareKeys_eq (as bs : List IdentifierKey) :
    compareKeys as bs = List.compareLex IdentifierKey.compare as bs := by
  induction as generalizing bs with
  | nil => cases bs <;> rfl
  | cons a as ih =>
    cases bs with
    | nil => rfl
    | cons b bs => rw [compareKeys, ih, List.compareLex_cons_cons]

/-- What pre-releases are compared by: whether there is one, and then by its identifiers. -/
theorem comparePre_eq (a b : List String) : comparePre a b = (Ord.compare a.isEmpty b.isEmpty).then
    (List.compareLex IdentifierKey.compare (a.map .ofText) (b.map .ofText)) := by
  cases a with
  | nil => cases b <;> rfl
  | cons x xs =>
    cases b with
    | nil => rfl
    | cons y ys => exact compareKeys_eq _ _

/-! ## Versions -/

/-- The comparison by a part is as good as that of the parts. -/
theorem transCmp_on {α β : Type} (part : α → β) (cmp : β → β → Ordering) [TransCmp cmp] :
    TransCmp fun a b => cmp (part a) (part b) where
  eq_swap {a b} := @OrientedCmp.eq_swap _ cmp _ (part a) (part b)
  isLE_trans {a b c} := @TransCmp.isLE_trans _ cmp _ (part a) (part b) (part c)

instance : TransCmp comparePre := by
  have hkeys := transCmp_on (List.map IdentifierKey.ofText) (List.compareLex IdentifierKey.compare)
  have hlex : comparePre = compareLex (compareOn List.isEmpty) fun a b =>
      List.compareLex IdentifierKey.compare (a.map .ofText) (b.map .ofText) := by
    funext a b
    exact comparePre_eq a b
  rw [hlex]
  infer_instance

instance : TransCmp precedence := by
  have hpre := transCmp_on Version.pre comparePre
  exact inferInstanceAs (TransCmp (compareLex (compareOn Version.major)
    (compareLex (compareOn Version.minor) (compareLex (compareOn Version.patch)
      fun a b => comparePre a.pre b.pre))))

theorem before_eq_true_iff {a b : Version} : a.before b = true ↔ precedence a b = .lt := beq_iff_eq

theorem before_eq_false_iff {a b : Version} :
    a.before b = false ↔ (precedence b a).isLE = true := by
  rw [← Bool.not_eq_true, before_eq_true_iff, @OrientedCmp.eq_swap _ precedence _ a b]
  cases precedence b a <;> decide

/-! ## The greatest version -/

/-- The better of two versions, the first of two that are equally good. -/
def better (best next : Version) : Version := if best.before next then next else best

theorem better_cases (best next : Version) : (best.better next = best ∧ best.before next = false) ∨
    (best.better next = next ∧ best.before next = true) := by
  rw [better]
  cases best.before next
  · exact .inl ⟨rfl, rfl⟩
  · exact .inr ⟨rfl, rfl⟩

/-- What is not above a version is not above a better one. -/
theorem before_better {best next v : Version} (h : best.before v = false) :
    (best.better next).before v = false := by
  rcases better_cases best next with ⟨heq, -⟩ | ⟨heq, hlt⟩
  · rwa [heq]
  · rw [heq, before_eq_false_iff]
    rw [before_eq_false_iff] at h
    rw [before_eq_true_iff] at hlt
    exact TransCmp.isLE_trans h (Ordering.isLE_of_eq_lt hlt)

theorem not_before_better (best next : Version) : (best.better next).before next = false := by
  rcases better_cases best next with ⟨heq, hnot⟩ | ⟨heq, -⟩
  · rwa [heq]
  · rw [heq, before_eq_false_iff]
    exact ReflCmp.isLE_rfl

/-- The fold ends with one of the versions, and none of them is above it. -/
theorem foldl_better (best : Version) (rest : List Version) :
    rest.foldl better best ∈ best :: rest ∧
      ∀ v, (v ∈ rest ∨ best.before v = false) → (rest.foldl better best).before v = false := by
  induction rest generalizing best with
  | nil =>
    refine ⟨List.mem_singleton_self best, fun v hv => ?_⟩
    rcases hv with hv | hv
    · cases hv
    · exact hv
  | cons next rest ih =>
    obtain ⟨hmem, hbest⟩ := ih (best.better next)
    refine ⟨?_, fun v hv => hbest v ?_⟩
    · rw [List.foldl_cons]
      rcases List.mem_cons.1 hmem with hmem | hmem
      · rw [hmem]
        rcases better_cases best next with ⟨heq, -⟩ | ⟨heq, -⟩ <;> rw [heq] <;> simp
      · exact List.mem_cons_of_mem best (List.mem_cons_of_mem next hmem)
    · rcases hv with hv | hv
      · rcases List.mem_cons.1 hv with rfl | hv
        · exact .inr (not_before_better best v)
        · exact .inl hv
      · exact .inr (before_better hv)

/-- The greatest version is one of the versions, and none of them is above it. -/
theorem greatest?_eq_some {versions : List Version} {v : Version}
    (h : greatest? versions = some v) : v ∈ versions ∧ ∀ w ∈ versions, v.before w = false := by
  cases versions with
  | nil => cases h
  | cons first rest =>
    obtain ⟨hmem, hbest⟩ := foldl_better first rest
    obtain rfl : rest.foldl better first = v := Option.some.inj h
    refine ⟨hmem, fun w hw => hbest w ?_⟩
    rcases List.mem_cons.1 hw with rfl | hw
    · refine .inr ?_
      rw [before_eq_false_iff]
      exact ReflCmp.isLE_rfl
    · exact .inl hw

/-- What is resolved is available and may serve the linked runtime, and no other available version
that may serve it is above. -/
theorem resolve_eq_ok {available : List Version} {linked v : Version} {mode : CompatMode}
    (h : resolve available linked mode = .ok v) :
    v ∈ available ∧ isCompatible mode v linked = true ∧
      ∀ w ∈ available, isCompatible mode w linked = true → v.before w = false := by
  rw [resolve] at h
  split at h
  · next chosen hchosen =>
    cases h
    obtain ⟨hmem, hgreatest⟩ := greatest?_eq_some hchosen
    rw [List.mem_filter, sort, List.mem_mergeSort] at hmem
    refine ⟨hmem.1, hmem.2, fun w hw hcompatible => hgreatest w ?_⟩
    rw [List.mem_filter, sort, List.mem_mergeSort]
    exact ⟨hw, hcompatible⟩
  · cases h

end ControlSchema.Version
