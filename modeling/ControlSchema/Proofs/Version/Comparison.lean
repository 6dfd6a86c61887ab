import ControlSchema.Proofs.Storage.Place
import ControlSchema.Proofs.Text.Bytes
import ControlSchema.Proofs.Version.Grammar
import ControlSchema.Proofs.Version.Order

/-!
# Comparing and sorting versions

To compare two versions is to read the numbers among the identifiers of both. Where that succeeds,
the comparisons answer by the order of the standard, and sorting arranges versions by it. A version
with a number that is too long is read from its text without its number being read, and then it is
compared with nothing, itself included. So the versions that comparisons order as the standard does
are those without such a number.
-/

namespace ControlSchema

open Std Text

namespace Version

/-! ## Precedence as an order -/

theorem atMost_eq_isLE (a b : Version) : a.atMost b = (precedence a b).isLE := by
  rw [atMost]
  cases precedence a b <;> rfl

/-- What is at most another version is what the other one is not before. -/
theorem atMost_eq_not_before (a b : Version) : a.atMost b = !b.before a := by
  rw [atMost, before, @OrientedCmp.eq_swap _ precedence _ a b]
  cases precedence b a <;> rfl

theorem atMost_trans (a b c : Version) (hab : a.atMost b = true) (hbc : b.atMost c = true) :
    a.atMost c = true := by
  rw [atMost_eq_isLE] at hab hbc ⊢
  exact TransCmp.isLE_trans hab hbc

theorem atMost_total (a b : Version) : (a.atMost b || b.atMost a) = true := by
  rw [atMost_eq_not_before, atMost_eq_isLE, before]
  cases precedence b a <;> rfl

theorem before_trans {a b c : Version} (hab : a.before b = true) (hbc : b.before c = true) :
    a.before c = true := by
  rw [before_eq_true_iff] at hab hbc ⊢
  exact TransCmp.lt_trans hab hbc

theorem before_self (a : Version) : a.before a = false :=
  before_eq_false_iff.2 ReflCmp.isLE_rfl

/-- Not being before is transitive, as precedence is total. -/
theorem not_before_trans {a b c : Version} (hab : a.before b = false) (hbc : b.before c = false) :
    a.before c = false := by
  rw [before_eq_false_iff] at hab hbc ⊢
  exact TransCmp.isLE_trans hbc hab

theorem perm_sort (versions : List Version) : (sort versions).Perm versions :=
  List.mergeSort_perm _ _

theorem pairwise_sort (versions : List Version) :
    (sort versions).Pairwise fun a b => a.atMost b = true :=
  List.pairwise_mergeSort atMost_trans atMost_total versions

theorem sort_of_pairwise {versions : List Version}
    (h : versions.Pairwise fun a b => a.atMost b = true) : sort versions = versions :=
  List.mergeSort_of_pairwise h

/-! ## Comparable versions -/

/-- A number among the identifiers has more digits than are read. -/
def HasLongNumber (v : Version) : Prop :=
  ∃ part ∈ v.pre, IsNumeric part ∧ Number.digitLimit < part.toList.length

theorem isReadable_iff {s : String} (hs : s ≠ "")
    (hchars : ∀ c ∈ s.toList, isIdentifierChar c = true) :
    IdentifierKey.isReadable s = true ↔ ¬ (IsNumeric s ∧ Number.digitLimit < s.toList.length) := by
  by_cases hnumeric : IsNumeric s
  · have hdecimal : s.toList.all isDecimal = true := by
      refine List.all_eq_true.2 fun c hc => ?_
      have hvalue : decimalValue? c = some (c.toNat - 0x30) := if_pos (hnumeric.2 c hc)
      rw [isDecimal, hvalue]
      rfl
    rw [IdentifierKey.isReadable, (isNumeral_iff hs hchars).2 hnumeric, hdecimal, Bool.not_true,
      Bool.false_or, Bool.and_true, decide_eq_true_eq, and_iff_right hnumeric, Nat.not_lt]
  · have hword : IdentifierKey.isNumeral s = false :=
      Bool.eq_false_iff.2 (mt (isNumeral_iff hs hchars).1 hnumeric)
    rw [IdentifierKey.isReadable, hword]
    exact iff_of_true rfl fun h => hnumeric h.1

theorem isComparable_iff {v : Version} (hv : v.WellFormed) :
    v.isComparable = true ↔ ¬ v.HasLongNumber := by
  rw [isComparable, List.all_eq_true, HasLongNumber]
  simp only [not_exists, not_and]
  refine forall₂_congr fun part hpart => ?_
  obtain ⟨hne, hchars⟩ := hv.areIdentifiers part hpart
  rw [isReadable_iff hne hchars, not_and]

/-- A version is comparable if its text stands in a path that leads somewhere: the names on the way
are too short for a number that cannot be read. -/
theorem isComparable_of_place {d : Disk} {path inner text : String} {place : Trail} {v : Version}
    (hplace : d.place path = .ok place) (hnames : Path.names inner ⊆ Path.names path)
    (htext : text.toList <:+: inner.toList) (h : parse text = .ok v) : v.isComparable = true := by
  have hv := wellFormed_of_parse h
  rw [isComparable_iff hv]
  rintro ⟨part, hpart, -, hlong⟩
  obtain ⟨hne, hchars⟩ := hv.areIdentifiers part hpart
  have hslash : '/' ∉ part.toList := fun hmem => absurd (hchars '/' hmem) (by decide)
  obtain ⟨piece, hpiece, hwithin⟩ :=
    exists_piece_of_isInfix ((isInfix_of_parse h hpart).trans htext) hslash
  obtain ⟨c, hc⟩ := List.exists_mem_of_ne_nil _ (mt String.toList_eq_nil_iff.1 hne)
  have hmatters : Path.matters (String.ofList piece) = true := by
    refine Path.matters_iff.2 ⟨fun hempty => ?_, fun hpoint => ?_⟩
    · rw [String.ofList_eq_empty_iff] at hempty
      exact absurd (hempty ▸ hwithin.subset hc) List.not_mem_nil
    · obtain rfl : piece = ['.'] := by rw [← String.toList_ofList (l := piece), hpoint]; rfl
      obtain rfl := List.mem_singleton.1 (hwithin.subset hc)
      exact absurd (hchars '.' hc) (by decide)
  have hshort := Disk.short_of_place hplace
    (hnames (List.mem_filter.2 ⟨List.mem_map.2 ⟨piece, hpiece, rfl⟩, hmatters⟩))
  have hlength := length_le_utf8ByteSize (String.ofList piece)
  rw [String.toList_ofList] at hlength
  have hlimit : Disk.nameLimit ≤ Number.digitLimit := by decide
  exact Nat.not_le.2 hlong (hwithin.length_le.trans (hlength.trans (hshort.trans hlimit)))

section

variable {a b : Version}

theorem compareChecked_of_isComparable (ha : a.isComparable = true) (hb : b.isComparable = true) :
    compareChecked a b = .ok (precedence a b) := by
  rw [compareChecked, ha, hb]
  rfl

theorem beforeChecked_of_isComparable (ha : a.isComparable = true) (hb : b.isComparable = true) :
    a.beforeChecked b = .ok (a.before b) := by
  rw [beforeChecked, compareChecked_of_isComparable ha hb]
  rfl

theorem atMostChecked_of_isComparable (ha : a.isComparable = true) (hb : b.isComparable = true) :
    a.atMostChecked b = .ok (a.atMost b) := by
  rw [atMostChecked, compareChecked_of_isComparable ha hb]
  rfl

theorem compareChecked_of_not_isComparable (h : ¬ (a.isComparable = true ∧ b.isComparable = true)) :
    compareChecked a b = .error .uncounted := by
  rw [compareChecked, if_neg]
  rwa [Bool.and_eq_true]

end

theorem sortChecked_of_isComparable {versions : List Version}
    (h : ∀ v ∈ versions, v.isComparable = true) : sortChecked versions = .ok (sort versions) := by
  rw [sortChecked, List.all_eq_true.2 h, Bool.or_true, if_pos rfl]

/-! ## The order of the standard -/

/-- Among these versions all comparisons answer, as the standard has it. They are a strict order
whose incomparability is an equivalence, and sorting follows it. -/
structure OrderedByStandard (among : Version → Prop) : Prop where
  before : ∀ {a b}, among a → among b → (a.beforeChecked b = .ok true ↔ Precedes a b)
  atMost : ∀ {a b}, among a → among b →
    ∃ reverse, b.beforeChecked a = .ok reverse ∧ a.atMostChecked b = .ok (!reverse)
  irreflexive : ∀ {a}, among a → a.beforeChecked a = .ok false
  transitive : ∀ {a b c}, among a → among b → among c → a.beforeChecked b = .ok true →
    b.beforeChecked c = .ok true → a.beforeChecked c = .ok true
  level : Equivalence fun a b : { v // among v } =>
    a.1.beforeChecked b.1 = .ok false ∧ b.1.beforeChecked a.1 = .ok false
  sorted : ∀ {versions : List Version}, (∀ v ∈ versions, among v) → ∃ sorted,
    sortChecked versions = .ok sorted ∧ sorted.Perm versions ∧
      sorted.Pairwise fun a b => a.atMostChecked b = .ok true

theorem orderedByStandard_of_isComparable {among : Version → Prop}
    (hwellFormed : ∀ v, among v → v.WellFormed) (h : ∀ v, among v → v.isComparable = true) :
    OrderedByStandard among := by
  have hbefore {a b : Version} (ha : among a) (hb : among b) :
      a.beforeChecked b = .ok (a.before b) := beforeChecked_of_isComparable (h a ha) (h b hb)
  have hatMost {a b : Version} (ha : among a) (hb : among b) :
      a.atMostChecked b = .ok (a.atMost b) := atMostChecked_of_isComparable (h a ha) (h b hb)
  have hanswer {x y : Bool} : (Except.ok x : Except VersionError Bool) = .ok y ↔ x = y :=
    ⟨Except.ok.inj, congrArg _⟩
  constructor
  case before =>
    intro a b ha hb
    rw [hbefore ha hb, hanswer, precedes_iff (hwellFormed a ha) (hwellFormed b hb)]
  case atMost =>
    intro a b ha hb
    exact ⟨b.before a, hbefore hb ha, by rw [hatMost ha hb, atMost_eq_not_before]⟩
  case irreflexive =>
    intro a ha
    rw [hbefore ha ha, before_self]
  case transitive =>
    intro a b c ha hb hc hab hbc
    rw [hbefore ha hb, hanswer] at hab
    rw [hbefore hb hc, hanswer] at hbc
    rw [hbefore ha hc, before_trans hab hbc]
  case level =>
    have hlevel (a b : { v // among v }) : (a.1.beforeChecked b.1 = .ok false ∧
        b.1.beforeChecked a.1 = .ok false) ↔ a.1.before b.1 = false ∧ b.1.before a.1 = false := by
      rw [hbefore a.2 b.2, hbefore b.2 a.2, hanswer, hanswer]
    simp only [hlevel]
    exact ⟨fun a => ⟨before_self a.1, before_self a.1⟩, And.symm, fun hab hbc =>
      ⟨not_before_trans hab.1 hbc.1, not_before_trans hbc.2 hab.2⟩⟩
  case sorted =>
    intro versions hversions
    have hmem (v : Version) (hv : v ∈ sort versions) : among v :=
      hversions v ((perm_sort versions).mem_iff.1 hv)
    refine ⟨sort versions, sortChecked_of_isComparable fun v hv => h v (hversions v hv),
      perm_sort versions, (pairwise_sort versions).imp_of_mem fun ha hb hab => ?_⟩
    rw [hatMost (hmem _ ha) (hmem _ hb), hab]

/-- Versions that texts name are ordered by the standard exactly when none of them has an identifier
of digits that is too long to be read as a number. No comparison with such a version answers. -/
theorem orderedByStandard_iff {among : Version → Prop}
    (hamong : ∀ v, among v → ∃ text, parse text = .ok v) :
    (OrderedByStandard among ↔ ∀ v, among v → ¬ v.HasLongNumber) ∧
    ∀ a b, among a → among b → a.HasLongNumber ∨ b.HasLongNumber →
      a.beforeChecked b = .error .uncounted ∧ a.atMostChecked b = .error .uncounted := by
  have hwellFormed (v : Version) (hv : among v) : v.WellFormed := by
    obtain ⟨text, htext⟩ := hamong v hv
    exact wellFormed_of_parse htext
  refine ⟨⟨fun h v hv hlong => ?_, fun h => ?_⟩, fun a b ha hb hlong => ?_⟩
  · have hself := h.irreflexive hv
    rw [beforeChecked, compareChecked_of_not_isComparable] at hself
    · cases hself
    · exact fun hcomparable => (isComparable_iff (hwellFormed v hv)).1 hcomparable.1 hlong
  · exact orderedByStandard_of_isComparable hwellFormed fun v hv =>
      (isComparable_iff (hwellFormed v hv)).2 (h v hv)
  · have hnot : ¬ (a.isComparable = true ∧ b.isComparable = true) := by
      rw [isComparable_iff (hwellFormed a ha), isComparable_iff (hwellFormed b hb)]
      exact fun h => hlong.elim h.1 h.2
    rw [beforeChecked, atMostChecked, compareChecked_of_not_isComparable hnot]
    exact ⟨rfl, rfl⟩

/-- The way to a release, with two versions that are level. -/
def stages : List Version :=
  [⟨1, 0, 0, ["01"]⟩, ⟨1, 0, 0, ["1"]⟩, ⟨1, 0, 0, ["rc", "9"]⟩, ⟨1, 0, 0, ["rc", "10"]⟩,
    ⟨1, 0, 0, []⟩]

theorem orderedByStandard_stages :
    (∀ v ∈ stages, ∃ text, parse text = .ok v) ∧ OrderedByStandard (· ∈ stages) ∧
    sortChecked stages = .ok stages ∧
    Precedes ⟨1, 0, 0, ["rc", "9"]⟩ ⟨1, 0, 0, ["rc", "10"]⟩ ∧
    ¬ Precedes ⟨1, 0, 0, ["01"]⟩ ⟨1, 0, 0, ["1"]⟩ := by
  have hread : ∀ v ∈ stages, ∃ text, parse text = .ok v := by
    simp only [stages, List.forall_mem_cons]
    refine ⟨⟨"1.0.0-01", ?_⟩, ⟨"1.0.0-1", ?_⟩, ⟨"1.0.0-rc.9", ?_⟩, ⟨"1.0.0-rc.10", ?_⟩,
      ⟨"1.0.0", ?_⟩, List.forall_mem_nil _⟩ <;> rfl
  have hcomparable : ∀ v ∈ stages, v.isComparable = true := by decide +kernel
  have hshort (v : Version) (hv : v ∈ stages) : ¬ v.HasLongNumber := by
    obtain ⟨text, htext⟩ := hread v hv
    exact (isComparable_iff (wellFormed_of_parse htext)).1 (hcomparable v hv)
  have hordered := (orderedByStandard_iff hread).1.2 hshort
  have hsort : sort stages = stages := sort_of_pairwise (by decide +kernel)
  refine ⟨hread, hordered, ?_, ?_, fun h => ?_⟩
  · rw [sortChecked_of_isComparable hcomparable, hsort]
  · exact (hordered.before (by decide) (by decide)).1 rfl
  · have hlevel : beforeChecked ⟨1, 0, 0, ["01"]⟩ ⟨1, 0, 0, ["1"]⟩ = .ok false := rfl
    have hbefore := (hordered.before (by decide) (by decide)).2 h
    exact Bool.false_ne_true (Except.ok.inj (hlevel.symm.trans hbefore))

/-- An identifier of 4301 digits. -/
def countedVersion : Version :=
  ⟨1, 0, 0, [String.ofList (List.replicate (Number.digitLimit + 1) '1')]⟩

theorem hasLongNumber_countedVersion : countedVersion.HasLongNumber := by
  refine ⟨_, List.mem_singleton_self _, ⟨fun hempty => ?_, fun c hc => ?_⟩, ?_⟩
  · rw [String.ofList_eq_empty_iff] at hempty
    cases hempty
  · rw [String.toList_ofList] at hc
    rw [List.eq_of_mem_replicate hc]
    rfl
  · rw [String.toList_ofList, List.length_replicate]
    exact Nat.lt_succ_self Number.digitLimit

theorem wellFormed_countedVersion : countedVersion.WellFormed := by
  obtain ⟨part, hpart, ⟨hne, hdigits⟩, -⟩ := hasLongNumber_countedVersion
  have hall : ∀ other ∈ countedVersion.pre, other = part := fun other hother =>
    (List.mem_singleton.1 hother).trans (List.mem_singleton.1 hpart).symm
  refine ⟨fun other hother c hc => ?_, fun other hother => hall other hother ▸ hne⟩
  rw [hall other hother] at hc
  rw [isIdentifierChar, Char.isAlphanum, hdigits c hc, Bool.or_true, Bool.true_or]

theorem parse_countedVersion : parse countedVersion.text = .ok countedVersion :=
  parse_text_of_isWritable wellFormed_countedVersion (by decide +kernel)

theorem not_isComparable_countedVersion : countedVersion.isComparable = false :=
  Bool.eq_false_iff.2 fun h =>
    (isComparable_iff wellFormed_countedVersion).1 h hasLongNumber_countedVersion

/-- A text names a pre-release which the standard puts before its release, and which no comparison
puts anywhere. -/
theorem not_orderedByStandard_read :
    parse countedVersion.text = .ok countedVersion ∧ parse "1.0.0" = .ok ⟨1, 0, 0, []⟩ ∧
    Precedes countedVersion ⟨1, 0, 0, []⟩ ∧
    countedVersion.beforeChecked ⟨1, 0, 0, []⟩ = .error .uncounted ∧
    ¬ OrderedByStandard fun v => ∃ text, parse text = .ok v := by
  have hrelease : parse "1.0.0" = .ok ⟨1, 0, 0, []⟩ := rfl
  have hprecedes : Precedes countedVersion ⟨1, 0, 0, []⟩ :=
    .preRelease rfl (List.cons_ne_nil _ _) rfl
  have herror : countedVersion.beforeChecked ⟨1, 0, 0, []⟩ = .error .uncounted := by
    rw [beforeChecked, compareChecked_of_not_isComparable]
    · rfl
    · exact fun h => Bool.false_ne_true (not_isComparable_countedVersion.symm.trans h.1)
  refine ⟨parse_countedVersion, hrelease, hprecedes, herror, fun h => ?_⟩
  have hanswer := (h.before ⟨_, parse_countedVersion⟩ ⟨_, hrelease⟩).2 hprecedes
  rw [herror] at hanswer
  cases hanswer

end Version

end ControlSchema
