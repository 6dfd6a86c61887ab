import ControlSchema.Proofs.Version.Comparison

/-!
# Resolving versions

The caret mode tests one number after another, but what it accepts is an interval: the linked
numbers begin at those of the candidate and stay below the next ones that the candidate does not
stand for. These have the left-most number that is not zero increased, and zeros behind it.

What is resolved is a candidate that may serve, and no other one that may serve is above it. When
none may serve, the mismatch lists all that was there, in order. Only numbers can be in the way of
an answer: one that cannot be read, as soon as there are two versions to be compared, and one that
cannot be written into a mismatch.
-/

namespace ControlSchema.Version

/-! ## Compatibility -/

/-- The least numbers above those of the version that it does not stand for. -/
def nextNumbers (v : Version) : ℕ ×ₗ ℕ ×ₗ ℕ :=
  if v.major ≠ 0 then toLex (v.major + 1, toLex (0, 0))
  else if v.minor ≠ 0 then toLex (0, toLex (v.minor + 1, 0))
  else toLex (0, toLex (0, v.patch + 1))

/-- A candidate may serve the linked version. -/
def Serves : CompatMode → Version → Version → Prop
  | .exact, candidate, linked => candidate.numbers = linked.numbers
  | .caret, candidate, linked =>
    candidate.numbers ≤ linked.numbers ∧ linked.numbers < candidate.nextNumbers

theorem tripleAtMost_iff {a b : Version} :
    tripleAtMost a b = true ↔ a.numbers ≤ b.numbers := by
  simp only [tripleAtMost, numbers, Prod.Lex.toLex_le_toLex, Bool.or_eq_true, Bool.and_eq_true,
    decide_eq_true_eq, beq_iff_eq]

/-- Numbers that are not below those of the candidate are below the next ones exactly when they
agree up to the first number of the candidate that is not zero. -/
theorem numbers_lt_nextNumbers_iff {candidate linked : Version}
    (hle : candidate.numbers ≤ linked.numbers) :
    linked.numbers < candidate.nextNumbers ↔ linked.major = candidate.major ∧
      (candidate.major ≠ 0 ∨ linked.minor = candidate.minor ∧
        (candidate.minor ≠ 0 ∨ linked.patch = candidate.patch)) := by
  rw [numbers, numbers, Prod.Lex.toLex_le_toLex, Prod.Lex.toLex_le_toLex] at hle
  rw [nextNumbers, numbers]
  by_cases hmajor : candidate.major = 0
  · by_cases hminor : candidate.minor = 0
    · rw [if_neg (not_not.2 hmajor), if_neg (not_not.2 hminor)]
      simp only [Prod.Lex.toLex_lt_toLex]
      omega
    · rw [if_neg (not_not.2 hmajor), if_pos hminor]
      simp only [Prod.Lex.toLex_lt_toLex]
      omega
  · rw [if_pos hmajor]
    simp only [Prod.Lex.toLex_lt_toLex]
    omega

theorem satisfiesCaret_iff {candidate linked : Version} :
    satisfiesCaret candidate linked = true ↔
      candidate.numbers ≤ linked.numbers ∧ linked.numbers < candidate.nextNumbers := by
  rw [satisfiesCaret, Bool.and_eq_true, Bool.and_eq_true, tripleAtMost_iff, and_assoc]
  refine and_congr_right fun hle => ?_
  rw [numbers_lt_nextNumbers_iff hle]
  simp only [Bool.or_eq_true, Bool.and_eq_true, bne_iff_ne, beq_iff_eq]

theorem isCompatible_iff {mode : CompatMode} {candidate linked : Version} :
    isCompatible mode candidate linked = true ↔ Serves mode candidate linked := by
  cases mode with
  | exact =>
    rw [isCompatible, Serves, beq_iff_eq, triple, triple, numbers, numbers]
    simp only [toLex_inj, Prod.mk.injEq]
  | caret => exact satisfiesCaret_iff

/-! ## The choice -/

variable {available : List Version} {linked : Version} {mode : CompatMode}

theorem greatest?_eq_none {versions : List Version} (h : greatest? versions = none) :
    versions = [] := by
  cases versions with
  | nil => rfl
  | cons v rest => cases h

/-- A mismatch is about candidates none of which may serve. -/
theorem resolve_eq_error {error : VersionMismatch}
    (h : resolve available linked mode = .error error) :
    error = ⟨linked, mode, sort available⟩ ∧ ∀ c ∈ available, ¬ Serves mode c linked := by
  rw [resolve] at h
  split at h
  · cases h
  · next hnone =>
    cases h
    refine ⟨rfl, fun c hc hserves => ?_⟩
    have hmem : c ∈ (sort available).filter fun c => isCompatible mode c linked :=
      List.mem_filter.2 ⟨(perm_sort available).mem_iff.2 hc, isCompatible_iff.2 hserves⟩
    rw [greatest?_eq_none hnone] at hmem
    cases hmem

/-- Two versions have to be compared, and one cannot be. -/
def IsUncounted (available : List Version) : Prop :=
  1 < available.length ∧ ∃ v ∈ available, v.isComparable = false

/-- There is a mismatch, and a version of its message cannot be written. -/
def IsUnwritten (available : List Version) (linked : Version) (mode : CompatMode) : Prop :=
  (∀ c ∈ available, ¬ Serves mode c linked) ∧
    (linked.isWritable = false ∨ ∃ v ∈ available, v.isWritable = false)

theorem sortChecked_of_isUncounted (h : IsUncounted available) :
    sortChecked available = .error .uncounted := by
  obtain ⟨hlength, v, hv, hcomparable⟩ := h
  rw [sortChecked, decide_eq_false (Nat.not_le.2 hlength), Bool.false_or, if_neg]
  exact fun hall => Bool.false_ne_true (hcomparable.symm.trans (List.all_eq_true.1 hall v hv))

theorem sortChecked_of_not_isUncounted (h : ¬ IsUncounted available) :
    sortChecked available = .ok (sort available) := by
  rw [sortChecked, if_pos]
  rw [Bool.or_eq_true, decide_eq_true_eq, List.all_eq_true]
  by_cases hlength : available.length ≤ 1
  · exact .inl hlength
  · refine .inr fun v hv => Bool.not_eq_false _ ▸ fun hcomparable => ?_
    exact h ⟨Nat.not_le.1 hlength, v, hv, hcomparable⟩

theorem isWritable_mismatch :
    (VersionMismatch.mk linked mode (sort available)).isWritable = true ↔
      ¬ (linked.isWritable = false ∨ ∃ v ∈ available, v.isWritable = false) := by
  rw [VersionMismatch.isWritable, Bool.and_eq_true, List.all_eq_true, not_or]
  simp only [(perm_sort available).mem_iff, Bool.not_eq_false, not_exists, not_and]

theorem resolveChecked_of_isUncounted (h : IsUncounted available) :
    resolveChecked available linked mode = .error (.version .uncounted) := by
  rw [resolveChecked, sortChecked_of_isUncounted h]
  rfl

theorem resolveChecked_of_not_isUncounted (h : ¬ IsUncounted available) :
    resolveChecked available linked mode = match resolve available linked mode with
      | .ok chosen => .ok chosen
      | .error mismatch =>
        if mismatch.isWritable then .error (.mismatch mismatch)
        else .error (.version .tooLong) := by
  rw [resolveChecked, sortChecked_of_not_isUncounted h]
  rfl

/-- What is resolved of versions that need not be comparable is resolved in any case. -/
theorem resolve_of_resolveChecked {v : Version} (h : resolveChecked available linked mode = .ok v) :
    resolve available linked mode = .ok v := by
  have hcounted : ¬ IsUncounted available := by
    intro huncounted
    rw [resolveChecked_of_isUncounted huncounted] at h
    cases h
  rw [resolveChecked_of_not_isUncounted hcounted] at h
  cases hresolve : resolve available linked mode with
  | ok chosen =>
    rw [hresolve] at h
    cases h
    rfl
  | error mismatch =>
    rw [hresolve] at h
    dsimp only at h
    split at h <;> cases h

theorem resolveChecked_of_isUnwritten (h : ¬ IsUncounted available)
    (hunwritten : IsUnwritten available linked mode) :
    resolveChecked available linked mode = .error (.version .tooLong) := by
  rw [resolveChecked_of_not_isUncounted h]
  cases hresolve : resolve available linked mode with
  | ok v =>
    obtain ⟨hmem, hcompatible, -⟩ := resolve_eq_ok hresolve
    exact absurd (isCompatible_iff.1 hcompatible) (hunwritten.1 v hmem)
  | error error =>
    obtain ⟨rfl, -⟩ := resolve_eq_error hresolve
    exact if_neg fun hwritable => isWritable_mismatch.1 hwritable hunwritten.2

/-- A candidate that may serve, with no better one. -/
structure IsGreatest (available : List Version) (linked : Version) (mode : CompatMode)
    (v : Version) : Prop where
  mem : v ∈ available
  serves : Serves mode v linked
  above : ∀ c ∈ available, Serves mode c linked → c.atMost v = true

/-- The answers that a resolution may have. -/
inductive Resolves (available : List Version) (linked : Version) (mode : CompatMode) :
    Except ResolutionError Version → Prop
  | greatest {v : Version} (h : IsGreatest available linked mode v) :
      Resolves available linked mode (.ok v)
  | mismatch {listed : List Version} (hnone : ∀ c ∈ available, ¬ Serves mode c linked)
      (hperm : listed.Perm available) (hsorted : listed.Pairwise fun a b => a.atMost b = true) :
      Resolves available linked mode (.error (.mismatch ⟨linked, mode, listed⟩))

theorem resolves_resolveChecked (h : ¬ IsUncounted available)
    (hunwritten : ¬ IsUnwritten available linked mode) :
    Resolves available linked mode (resolveChecked available linked mode) := by
  rw [resolveChecked_of_not_isUncounted h]
  cases hresolve : resolve available linked mode with
  | ok v =>
    obtain ⟨hmem, hcompatible, hgreatest⟩ := resolve_eq_ok hresolve
    refine .greatest ⟨hmem, isCompatible_iff.1 hcompatible, fun c hc hserves => ?_⟩
    rw [atMost_eq_not_before, hgreatest c hc (isCompatible_iff.2 hserves), Bool.not_false]
  | error error =>
    obtain ⟨rfl, hnone⟩ := resolve_eq_error hresolve
    have hwritable : (VersionMismatch.mk linked mode (sort available)).isWritable = true :=
      isWritable_mismatch.2 fun hlong => hunwritten ⟨hnone, hlong⟩
    simp only [hwritable, if_true]
    exact .mismatch hnone (perm_sort available) (pairwise_sort available)

/-- Candidates are compatible if they have the same numbers or, in the caret mode, if the linked
numbers lie between theirs and the next ones. The answer is the greatest compatible candidate or a
mismatch, and the latter exactly when there is none, unless a version cannot be compared although
there are two, or cannot be written although there is a mismatch. -/
theorem resolveChecked_resolves_iff (available : List Version) (linked : Version)
    (mode : CompatMode) :
    (∀ candidate, isCompatible mode candidate linked = true ↔ Serves mode candidate linked) ∧
    (Resolves available linked mode (resolveChecked available linked mode) ↔
      ¬ IsUncounted available ∧ ¬ IsUnwritten available linked mode) ∧
    (IsUncounted available →
      resolveChecked available linked mode = .error (.version .uncounted)) ∧
    (¬ IsUncounted available → IsUnwritten available linked mode →
      resolveChecked available linked mode = .error (.version .tooLong)) := by
  refine ⟨fun _ => isCompatible_iff, ⟨fun h => ⟨fun huncounted => ?_, fun hunwritten => ?_⟩,
    fun h => resolves_resolveChecked h.1 h.2⟩, resolveChecked_of_isUncounted,
    resolveChecked_of_isUnwritten⟩
  · rw [resolveChecked_of_isUncounted huncounted] at h
    cases h
  · by_cases huncounted : IsUncounted available
    · rw [resolveChecked_of_isUncounted huncounted] at h
      cases h
    · rw [resolveChecked_of_isUnwritten huncounted hunwritten] at h
      cases h

theorem resolveChecked_resolves_middle :
    ¬ IsUncounted [⟨0, 4, 0, []⟩, ⟨1, 0, 0, []⟩, ⟨1, 2, 0, []⟩] ∧
    ¬ IsUnwritten [⟨0, 4, 0, []⟩, ⟨1, 0, 0, []⟩, ⟨1, 2, 0, []⟩] ⟨1, 1, 5, []⟩ .caret ∧
    Resolves [⟨0, 4, 0, []⟩, ⟨1, 0, 0, []⟩, ⟨1, 2, 0, []⟩] ⟨1, 1, 5, []⟩ .caret
      (resolveChecked [⟨0, 4, 0, []⟩, ⟨1, 0, 0, []⟩, ⟨1, 2, 0, []⟩] ⟨1, 1, 5, []⟩ .caret) := by
  obtain ⟨hserves, hresolves, -⟩ := resolveChecked_resolves_iff
    [⟨0, 4, 0, []⟩, ⟨1, 0, 0, []⟩, ⟨1, 2, 0, []⟩] ⟨1, 1, 5, []⟩ .caret
  have hcounted : ¬ IsUncounted [⟨0, 4, 0, []⟩, ⟨1, 0, 0, []⟩, ⟨1, 2, 0, []⟩] := by
    unfold IsUncounted
    decide
  have hmiddle : Serves .caret ⟨1, 0, 0, []⟩ ⟨1, 1, 5, []⟩ := (hserves _).1 (by decide)
  have hwritten : ¬ IsUnwritten [⟨0, 4, 0, []⟩, ⟨1, 0, 0, []⟩, ⟨1, 2, 0, []⟩] ⟨1, 1, 5, []⟩
      .caret := fun h => h.1 _ (List.mem_cons_of_mem _ List.mem_cons_self) hmiddle
  exact ⟨hcounted, hwritten, hresolves.2 ⟨hcounted, hwritten⟩⟩

/-- A release may serve, but the pre-release beside it cannot be compared with it. -/
theorem not_resolves_countedVersion :
    Serves .exact ⟨1, 0, 0, []⟩ ⟨1, 0, 0, []⟩ ∧
    resolveChecked [countedVersion, ⟨1, 0, 0, []⟩] ⟨1, 0, 0, []⟩ .exact
      = .error (.version .uncounted) ∧
    ¬ Resolves [countedVersion, ⟨1, 0, 0, []⟩] ⟨1, 0, 0, []⟩ .exact
      (resolveChecked [countedVersion, ⟨1, 0, 0, []⟩] ⟨1, 0, 0, []⟩ .exact) := by
  have huncounted : IsUncounted [countedVersion, ⟨1, 0, 0, []⟩] :=
    ⟨by decide, _, List.mem_cons_self, not_isComparable_countedVersion⟩
  refine ⟨rfl, resolveChecked_of_isUncounted huncounted, fun h => ?_⟩
  rw [resolveChecked_of_isUncounted huncounted] at h
  cases h

end ControlSchema.Version
