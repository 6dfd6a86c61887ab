import ControlSchema.Proofs.Number.Digits
import ControlSchema.Proofs.Version.Resolution

/-!
# Level versions

Two versions are level when neither precedes the other. Texts may name different versions that are
level, because an identifier of digits may begin with zeros, and that is all they differ in. Of
level candidates the first one that is found is resolved, so the answer depends on the order of the
candidates exactly when different ones are level at the top.
-/

namespace ControlSchema.Version

open Std

variable {available : List Version} {linked : Version} {mode : CompatMode}

/-! ## What level versions differ in -/

/-- Two identifiers are the same but for zeros in front of their digits. -/
def SameButZeros (s t : String) : Prop :=
  s = t ∨ IsNumeric s ∧ IsNumeric t ∧ Number.dropZeros s.toList = Number.dropZeros t.toList

theorem identifiersLevel_iff {s t : String} : IdentifiersLevel s t ↔ SameButZeros s t := by
  refine or_congr_right (and_congr_right fun hs => and_congr_right fun ht => ?_)
  exact (Number.dropZeros_eq_iff hs.2 ht.2).symm

/-- The same numbers, and identifiers that differ in leading zeros only. -/
def Level (a b : Version) : Prop :=
  a.numbers = b.numbers ∧ List.Forall₂ SameButZeros a.pre b.pre

theorem compareKeys_eq_eq_iff {ss ts : List String} (hss : AreIdentifiers ss)
    (hts : AreIdentifiers ts) :
    compareKeys (ss.map .ofText) (ts.map .ofText) = .eq ↔ List.Forall₂ SameButZeros ss ts := by
  induction ss generalizing ts with
  | nil =>
    cases ts with
    | nil => exact iff_of_true rfl .nil
    | cons t ts => exact iff_of_false nofun nofun
  | cons s ss ih =>
    cases ts with
    | nil => exact iff_of_false nofun nofun
    | cons t ts =>
      obtain ⟨⟨hs, hsChars⟩, hss⟩ := List.forall_mem_cons.1 hss
      obtain ⟨⟨ht, htChars⟩, hts⟩ := List.forall_mem_cons.1 hts
      rw [List.map_cons, List.map_cons, compareKeys, Ordering.then_eq_eq,
        compare_ofText_eq_eq_iff hs hsChars ht htChars, identifiersLevel_iff, ih hss hts,
        List.forall₂_cons]

theorem comparePre_eq_eq_iff {ss ts : List String} (hss : AreIdentifiers ss)
    (hts : AreIdentifiers ts) : comparePre ss ts = .eq ↔ List.Forall₂ SameButZeros ss ts := by
  rw [← compareKeys_eq_eq_iff hss hts]
  cases ss <;> cases ts <;> simp [comparePre, compareKeys]

theorem precedence_eq_eq_iff {a b : Version} (ha : a.WellFormed) (hb : b.WellFormed) :
    precedence a b = .eq ↔ Level a b := by
  rw [Level, ← comparePre_eq_eq_iff ha.areIdentifiers hb.areIdentifiers]
  simp only [precedence, Ordering.then_eq_eq, Nat.compare_eq_eq, numbers, toLex_inj, Prod.mk.injEq,
    and_assoc]

theorem level_iff {a b : Version} (ha : a.WellFormed) (hb : b.WellFormed) :
    Level a b ↔ a.atMost b = true ∧ b.atMost a = true := by
  rw [← precedence_eq_eq_iff ha hb, atMost_eq_isLE, atMost_eq_isLE,
    @OrientedCmp.eq_swap _ precedence _ b a]
  cases precedence a b <;> decide

/-! ## The first of level candidates -/

theorem foldl_better_eq_self {v : Version} {rest : List Version}
    (h : ∀ w ∈ rest, v.before w = false) : rest.foldl better v = v := by
  induction rest with
  | nil => rfl
  | cons w rest ih =>
    obtain ⟨hw, hrest⟩ := List.forall_mem_cons.1 h
    rw [List.foldl_cons, better, hw]
    exact ih hrest

/-- A version is the first of the greatest ones if those in front of it are below it and those
behind it are not above it. -/
theorem greatest?_append_cons {v : Version} {front back : List Version}
    (hfront : ∀ w ∈ front, w.before v = true) (hback : ∀ w ∈ back, v.before w = false) :
    greatest? (front ++ v :: back) = some v := by
  cases front with
  | nil => exact congrArg some (foldl_better_eq_self hback)
  | cons first front =>
    have hbelow : (front.foldl better first).before v = true :=
      hfront _ (foldl_better first front).1
    have hbetter : (front.foldl better first).better v = v := by rw [better, hbelow, if_pos rfl]
    refine congrArg some ?_
    calc (front ++ v :: back).foldl better first
        = back.foldl better ((front.foldl better first).better v) := by
          rw [List.foldl_append, List.foldl_cons]
      _ = v := by rw [hbetter, foldl_better_eq_self hback]

/-- A greatest candidate is resolved if it is the first in the list: sorting leaves it in front of
all that it is level with. -/
theorem resolve_cons {v : Version} {rest : List Version}
    (h : IsGreatest (v :: rest) linked mode v) : resolve (v :: rest) linked mode = .ok v := by
  obtain ⟨front, back, hsort, hrest, hfront⟩ := List.mergeSort_cons atMost_trans atMost_total v rest
  have hcompatible : isCompatible mode v linked = true := isCompatible_iff.2 h.serves
  have hchosen : greatest? ((sort (v :: rest)).filter fun c => isCompatible mode c linked)
      = some v := by
    rw [sort, hsort, List.filter_append, List.filter_cons, if_pos hcompatible]
    refine greatest?_append_cons (fun w hw => ?_) fun w hw => ?_
    · have hnot := hfront w (List.mem_of_mem_filter hw)
      rwa [atMost_eq_not_before, Bool.not_not] at hnot
    · obtain ⟨hw, hserves⟩ := List.mem_filter.1 hw
      have hmem : w ∈ rest := by
        rw [← (List.mergeSort_perm rest atMost).mem_iff, hrest]
        exact List.mem_append_right front hw
      have habove := h.above w (List.mem_cons_of_mem v hmem) (isCompatible_iff.1 hserves)
      rwa [atMost_eq_not_before, Bool.not_eq_true'] at habove
  rw [resolve, hchosen]

theorem resolveChecked_cons {v : Version} {rest : List Version} (h : ¬ IsUncounted (v :: rest))
    (hv : IsGreatest (v :: rest) linked mode v) :
    resolveChecked (v :: rest) linked mode = .ok v := by
  rw [resolveChecked_of_not_isUncounted h, resolve_cons hv]

/-- The first of two candidates is resolved unless the second is better. -/
theorem resolveChecked_pair {v w : Version}
    (hcomparable : v.isComparable = true ∧ w.isComparable = true) (hserves : Serves mode v linked)
    (h : w.atMost v = true) : resolveChecked [v, w] linked mode = .ok v := by
  refine resolveChecked_cons ?_ ⟨List.mem_cons_self, hserves, fun c hc _ => ?_⟩
  · rintro ⟨-, c, hc, hlong⟩
    rcases List.mem_pair.1 hc with rfl | rfl
    · exact Bool.false_ne_true (hlong.symm.trans hcomparable.1)
    · exact Bool.false_ne_true (hlong.symm.trans hcomparable.2)
  · rcases List.mem_pair.1 hc with rfl | rfl
    · rw [atMost_eq_not_before, before_self, Bool.not_false]
    · exact h

/-! ## Answers and the order of candidates -/

/-- Two answers agree: both name versions, and these are the same in some sense, or neither does. -/
inductive Agree (same : Version → Version → Prop) :
    Except ResolutionError Version → Except ResolutionError Version → Prop
  | chosen {v w : Version} (h : same v w) : Agree same (.ok v) (.ok w)
  | mismatch (error error' : VersionMismatch) :
      Agree same (.error (.mismatch error)) (.error (.mismatch error'))

section

variable {other : List Version} (hperm : available.Perm other)

include hperm

theorem isUncounted_perm : IsUncounted other ↔ IsUncounted available := by
  rw [IsUncounted, IsUncounted, hperm.length_eq]
  simp only [hperm.mem_iff]

theorem isUnwritten_perm : IsUnwritten other linked mode ↔ IsUnwritten available linked mode := by
  simp only [IsUnwritten, hperm.mem_iff]

theorem isGreatest_perm {v : Version} :
    IsGreatest other linked mode v ↔ IsGreatest available linked mode v := by
  constructor <;> rintro ⟨hmem, hserves, habove⟩
  · simp only [← hperm.mem_iff] at hmem habove
    exact ⟨hmem, hserves, habove⟩
  · simp only [hperm.mem_iff] at hmem habove
    exact ⟨hmem, hserves, habove⟩

/-- Answers agree as far as greatest candidates do. -/
theorem agree_of_perm {same : Version → Version → Prop} (h : ¬ IsUncounted available)
    (hunwritten : ¬ IsUnwritten available linked mode)
    (hsame : ∀ v w, IsGreatest available linked mode v → IsGreatest available linked mode w →
      same v w) :
    Agree same (resolveChecked available linked mode) (resolveChecked other linked mode) := by
  have hleft := resolves_resolveChecked h hunwritten
  have hright : Resolves other linked mode (resolveChecked other linked mode) :=
    resolves_resolveChecked (mt (isUncounted_perm hperm).1 h)
      (mt (isUnwritten_perm hperm).1 hunwritten)
  generalize resolveChecked available linked mode = left at hleft ⊢
  generalize resolveChecked other linked mode = right at hright ⊢
  cases hleft with
  | greatest hv =>
    cases hright with
    | greatest hw => exact .chosen (hsame _ _ hv ((isGreatest_perm hperm).1 hw))
    | mismatch hnone => exact absurd hv.serves (hnone _ (hperm.mem_iff.1 hv.mem))
  | mismatch hnone =>
    cases hright with
    | greatest hw => exact absurd hw.serves (hnone _ (hperm.mem_iff.2 hw.mem))
    | mismatch => exact .mismatch _ _

end

/-- Level versions serve alike. -/
theorem serves_of_numbers {a b : Version} (h : a.numbers = b.numbers) :
    Serves mode a linked ↔ Serves mode b linked := by
  have htriple : a.major = b.major ∧ a.minor = b.minor ∧ a.patch = b.patch := by
    simpa only [numbers, toLex_inj, Prod.mk.injEq] using h
  cases mode with
  | exact => rw [Serves, Serves, h]
  | caret =>
    rw [Serves, Serves, nextNumbers, nextNumbers, h, htriple.1, htriple.2.1, htriple.2.2]

theorem isGreatest_of_level {a b : Version} (ha : a.WellFormed) (hb : b.WellFormed)
    (hgreatest : IsGreatest available linked mode a) (hmem : b ∈ available) (h : Level a b) :
    IsGreatest available linked mode b :=
  ⟨hmem, (serves_of_numbers h.1).1 hgreatest.serves, fun c hc hserves =>
    atMost_trans c a b (hgreatest.above c hc hserves) ((level_iff ha hb).1 h).1⟩

theorem level_of_isGreatest {a b : Version} (ha : a.WellFormed) (hb : b.WellFormed)
    (hgreatest : IsGreatest available linked mode a)
    (hgreatest' : IsGreatest available linked mode b) : Level a b :=
  (level_iff ha hb).2 ⟨hgreatest'.above a hgreatest.mem hgreatest.serves,
    hgreatest.above b hgreatest'.mem hgreatest'.serves⟩

/-- A greatest candidate is resolved from some order of the candidates. -/
theorem exists_perm_resolveChecked (h : ¬ IsUncounted available) {v : Version}
    (hv : IsGreatest available linked mode v) :
    ∃ other, available.Perm other ∧ resolveChecked other linked mode = .ok v := by
  have hperm : available.Perm (v :: available.erase v) := List.perm_cons_erase hv.mem
  exact ⟨_, hperm, resolveChecked_cons (mt (isUncounted_perm hperm).1 h)
    ((isGreatest_perm hperm).2 hv)⟩

/-- The answers to all orders of candidates that texts name agree exactly when there are answers
and no two candidates are level at the top without being equal. In any case the versions that are
resolved are level. -/
theorem resolveChecked_perm_iff (hparsed : ∀ v ∈ available, ∃ text, parse text = .ok v)
    (linked : Version) (mode : CompatMode) :
    ((∀ other, available.Perm other →
        Agree (· = ·) (resolveChecked available linked mode) (resolveChecked other linked mode)) ↔
      ¬ IsUncounted available ∧ ¬ IsUnwritten available linked mode ∧
        ∀ a b, IsGreatest available linked mode a → b ∈ available → Level a b → a = b) ∧
    ∀ other, available.Perm other → ¬ IsUncounted available →
      ¬ IsUnwritten available linked mode →
      Agree Level (resolveChecked available linked mode) (resolveChecked other linked mode) := by
  have hwellFormed (v : Version) (hv : v ∈ available) : v.WellFormed := by
    obtain ⟨text, htext⟩ := hparsed v hv
    exact wellFormed_of_parse htext
  refine ⟨⟨fun h => ?_, ?_⟩, fun other hperm hcounted hwritten => ?_⟩
  · have hself := h available (List.Perm.refl available)
    have hcounted : ¬ IsUncounted available := fun huncounted => by
      rw [resolveChecked_of_isUncounted huncounted] at hself
      cases hself
    have hwritten : ¬ IsUnwritten available linked mode := fun hunwritten => by
      rw [resolveChecked_of_isUnwritten hcounted hunwritten] at hself
      cases hself
    refine ⟨hcounted, hwritten, fun a b ha hb hlevel => ?_⟩
    have hgreatest := isGreatest_of_level (hwellFormed a ha.mem) (hwellFormed b hb) ha hb hlevel
    -- Each of the two is resolved from an order, and the answer to the given one equals both.
    obtain ⟨first, hfirst, hresolve⟩ := exists_perm_resolveChecked hcounted ha
    obtain ⟨second, hsecond, hresolve'⟩ := exists_perm_resolveChecked hcounted hgreatest
    have hagree := h first hfirst
    have hagree' := h second hsecond
    rw [hresolve] at hagree
    rw [hresolve'] at hagree'
    generalize resolveChecked available linked mode = answer at hagree hagree'
    cases hagree with
    | chosen heq =>
      cases hagree' with
      | chosen heq' => exact heq.symm.trans heq'
  · rintro ⟨hcounted, hwritten, hequal⟩ other hperm
    refine agree_of_perm hperm hcounted hwritten fun v w hv hw => hequal v w hv hw.mem ?_
    exact level_of_isGreatest (hwellFormed v hv.mem) (hwellFormed w hw.mem) hv hw
  · exact agree_of_perm hperm hcounted hwritten fun v w hv hw =>
      level_of_isGreatest (hwellFormed v hv.mem) (hwellFormed w hw.mem) hv hw

/-- Two pre-releases and their release. -/
def candidates : List Version := [⟨1, 0, 0, ["rc", "1"]⟩, ⟨1, 0, 0, []⟩, ⟨1, 0, 0, ["rc", "2"]⟩]

theorem resolveChecked_perm_candidates :
    (∀ v ∈ candidates, ∃ text, parse text = .ok v) ∧
    ∀ other, candidates.Perm other → Agree (· = ·)
      (resolveChecked candidates ⟨1, 0, 0, []⟩ .exact)
      (resolveChecked other ⟨1, 0, 0, []⟩ .exact) := by
  have hparsed : ∀ v ∈ candidates, ∃ text, parse text = .ok v := by
    simp only [candidates, List.forall_mem_cons]
    refine ⟨⟨"1.0.0-rc.1", ?_⟩, ⟨"1.0.0", ?_⟩, ⟨"1.0.0-rc.2", ?_⟩, List.forall_mem_nil _⟩ <;> rfl
  have hcounted : ¬ IsUncounted candidates := by
    unfold IsUncounted
    decide
  have hwritten : ¬ IsUnwritten candidates ⟨1, 0, 0, []⟩ .exact := fun h =>
    h.1 ⟨1, 0, 0, []⟩ (by decide) rfl
  have hapart : ∀ v ∈ candidates, ∀ w ∈ candidates, precedence v w = .eq → v = w := by decide
  refine ⟨hparsed, (resolveChecked_perm_iff hparsed ⟨1, 0, 0, []⟩ .exact).1.2
    ⟨hcounted, hwritten, fun v w hv hw hlevel => hapart v hv.mem w hw ?_⟩⟩
  obtain ⟨text, htext⟩ := hparsed v hv.mem
  obtain ⟨text', htext'⟩ := hparsed w hw
  exact (precedence_eq_eq_iff (wellFormed_of_parse htext) (wellFormed_of_parse htext')).2 hlevel

/-- Of two pre-releases that differ in a zero, whichever comes first is resolved. -/
theorem resolveChecked_first_zero :
    parse "1.0.0-01" = .ok ⟨1, 0, 0, ["01"]⟩ ∧ parse "1.0.0-1" = .ok ⟨1, 0, 0, ["1"]⟩ ∧
    resolveChecked [⟨1, 0, 0, ["01"]⟩, ⟨1, 0, 0, ["1"]⟩] ⟨1, 0, 0, []⟩ .exact
      = .ok ⟨1, 0, 0, ["01"]⟩ ∧
    resolveChecked [⟨1, 0, 0, ["1"]⟩, ⟨1, 0, 0, ["01"]⟩] ⟨1, 0, 0, []⟩ .exact
      = .ok ⟨1, 0, 0, ["1"]⟩ ∧
    ¬ Agree (· = ·) (resolveChecked [⟨1, 0, 0, ["01"]⟩, ⟨1, 0, 0, ["1"]⟩] ⟨1, 0, 0, []⟩ .exact)
      (resolveChecked [⟨1, 0, 0, ["1"]⟩, ⟨1, 0, 0, ["01"]⟩] ⟨1, 0, 0, []⟩ .exact) := by
  have hfirst : resolveChecked [⟨1, 0, 0, ["01"]⟩, ⟨1, 0, 0, ["1"]⟩] ⟨1, 0, 0, []⟩ .exact
      = .ok ⟨1, 0, 0, ["01"]⟩ := resolveChecked_pair (by decide +kernel) rfl (by decide +kernel)
  have hsecond : resolveChecked [⟨1, 0, 0, ["1"]⟩, ⟨1, 0, 0, ["01"]⟩] ⟨1, 0, 0, []⟩ .exact
      = .ok ⟨1, 0, 0, ["1"]⟩ := resolveChecked_pair (by decide +kernel) rfl (by decide +kernel)
  refine ⟨rfl, rfl, hfirst, hsecond, ?_⟩
  rw [hfirst, hsecond]
  intro h
  cases h with
  | chosen heq => exact absurd heq (by decide)

end ControlSchema.Version
