import ControlSchema.Proofs.Text.Infix
import ControlSchema.Proofs.Version.RoundTrip

/-!
# The grammar of versions and tags

What the reader accepts is a grammar beside the one of the standard. In both there are three numbers
with points between them, identifiers behind a hyphen and build metadata behind a plus sign; they
differ in what a number and an identifier are. The reader finds the parts of a text again, because
every number ends where no digit follows and no identifier has a plus sign, so a text is spelt in
one way only.

The reader departs from the standard in four points: it takes blanks around the version, digits of
other scripts and leading zeros of identifiers, and it does not take numbers that are too long.
-/

namespace ControlSchema

open Text

namespace Version

/-! ## Parts of a text -/

/-- The text of a version in its parts. -/
structure Spelling where
  major : List Char
  minor : List Char
  patch : List Char
  pre : List (List Char)
  build : List (List Char)

/-- Identifiers behind their sign, if there are any. -/
def signed (sign : Char) (identifiers : List (List Char)) : List Char :=
  if identifiers.isEmpty then [] else sign :: ['.'].intercalate identifiers

namespace Spelling

def numbers (s : Spelling) : List (List Char) := [s.major, s.minor, s.patch]

def suffix (s : Spelling) : List Char := signed '-' s.pre ++ signed '+' s.build

def chars (s : Spelling) : List Char :=
  s.major ++ '.' :: (s.minor ++ '.' :: (s.patch ++ s.suffix))

/-- The value of digits of any script. -/
def value (digits : List Char) : Nat := Number.ofDigits (digits.filterMap decimalValue?)

/-- The version of the numbers and identifiers. -/
def version (s : Spelling) : Version :=
  ⟨value s.major, value s.minor, value s.patch, s.pre.map String.ofList⟩

end Spelling

/-- ASCII letters, digits and hyphens, and at least one of them. -/
def IsIdentifier (cs : List Char) : Prop := cs ≠ [] ∧ ∀ c ∈ cs, isIdentifierChar c = true

theorem isIdentifier_iff {cs : List Char} :
    (!cs.isEmpty && cs.all isIdentifierChar) = true ↔ IsIdentifier cs := by
  rw [Bool.and_eq_true, Bool.not_eq_true', List.isEmpty_eq_false_iff, List.all_eq_true,
    IsIdentifier]

instance (cs : List Char) : Decidable (IsIdentifier cs) := decidable_of_iff _ isIdentifier_iff

namespace Spelling

/-- The spelling is one that the reader accepts. -/
structure IsRead (s : Spelling) : Prop where
  numbers : ∀ number ∈ s.numbers, IsNumber isDecimal number
  pre : ∀ identifier ∈ s.pre, IsIdentifier identifier
  build : ∀ identifier ∈ s.build, IsIdentifier identifier

instance (s : Spelling) : Decidable s.IsRead :=
  decidable_of_iff ((∀ number ∈ s.numbers, IsNumber isDecimal number) ∧
      (∀ identifier ∈ s.pre, IsIdentifier identifier) ∧
      ∀ identifier ∈ s.build, IsIdentifier identifier)
    ⟨fun h => ⟨h.1, h.2.1, h.2.2⟩, fun h => ⟨h.numbers, h.pre, h.build⟩⟩

/-- The spelling is one of the standard: all digits are ASCII digits, and no number has a leading
zero, nor an identifier of digits before the build metadata. -/
structure IsStandard (s : Spelling) : Prop where
  numbers : ∀ number ∈ s.numbers, IsNumber Char.isDigit number
  pre : ∀ identifier ∈ s.pre, IsIdentifier identifier ∧
    ((∀ c ∈ identifier, c.isDigit = true) → IsNumber Char.isDigit identifier)
  build : ∀ identifier ∈ s.build, IsIdentifier identifier

instance (s : Spelling) : Decidable s.IsStandard :=
  decidable_of_iff ((∀ number ∈ s.numbers, IsNumber Char.isDigit number) ∧
      (∀ identifier ∈ s.pre, IsIdentifier identifier ∧
        (identifier.all Char.isDigit = true → IsNumber Char.isDigit identifier)) ∧
      ∀ identifier ∈ s.build, IsIdentifier identifier)
    (by
      simp only [List.all_eq_true]
      exact ⟨fun h => ⟨h.1, h.2.1, h.2.2⟩, fun h => ⟨h.numbers, h.pre, h.build⟩⟩)

/-- No number is too long to be read. -/
def IsShort (s : Spelling) : Prop := ∀ number ∈ s.numbers, number.length ≤ Number.digitLimit

instance (s : Spelling) : Decidable s.IsShort :=
  inferInstanceAs (Decidable (∀ number ∈ s.numbers, number.length ≤ Number.digitLimit))

theorem IsStandard.isRead {s : Spelling} (h : s.IsStandard) : s.IsRead where
  numbers number hnumber := (h.numbers number hnumber).isDecimal
  pre identifier hidentifier := (h.pre identifier hidentifier).1
  build := h.build

end Spelling

/-! ## Reading numbers -/

theorem takeNumber?_eq_some {cs number rest : List Char}
    (h : takeNumber? cs = some (number, rest)) :
    IsNumber isDecimal number ∧ cs = number ++ rest := by
  rw [takeNumber?.eq_def] at h
  split at h
  · cases h
    exact ⟨.inl rfl, rfl⟩
  · next c more hzero =>
    split at h
    · next hdigit =>
      cases h
      refine ⟨.inr ⟨c, _, rfl, hdigit, ?_, fun d hd => List.mem_takeWhile_imp hd⟩, ?_⟩
      · rintro rfl
        exact hzero rfl
      · rw [List.cons_append, List.takeWhile_append_dropWhile]
    · cases h
  · cases h

/-! ## Reading identifiers -/

theorem not_point_of_identifiers {identifiers : List (List Char)}
    (h : ∀ identifier ∈ identifiers, IsIdentifier identifier) :
    ∀ identifier ∈ identifiers, '.' ∉ identifier := by
  intro identifier hidentifier hmem
  exact absurd ((h identifier hidentifier).2 '.' hmem) (by decide)

theorem identifiers?_intercalate_of_ne_nil {identifiers : List (List Char)}
    (h : ∀ identifier ∈ identifiers, IsIdentifier identifier) (hne : identifiers ≠ []) :
    identifiers? (['.'].intercalate identifiers) = some (identifiers.map String.ofList) := by
  rw [identifiers?, splitOn_intercalate (not_point_of_identifiers h) hne, if_pos]
  exact List.all_eq_true.2 fun identifier hidentifier => isIdentifier_iff.2 (h _ hidentifier)

theorem exists_of_identifiers? {cs : List Char} {pre : List String}
    (h : identifiers? cs = some pre) : ∃ identifiers, identifiers ≠ [] ∧
      (∀ identifier ∈ identifiers, IsIdentifier identifier) ∧
      cs = ['.'].intercalate identifiers ∧ pre = identifiers.map String.ofList := by
  obtain ⟨hall, hpre⟩ := identifiers?_eq_some h
  exact ⟨splitOn '.' cs, splitOn_ne_nil '.' cs, fun identifier hidentifier =>
    isIdentifier_iff.1 (hall identifier hidentifier), (intercalate_splitOn '.' cs).symm, hpre⟩

theorem identifiers_chars {identifiers : List (List Char)}
    (h : ∀ identifier ∈ identifiers, IsIdentifier identifier) :
    ∀ c ∈ ['.'].intercalate identifiers, c = '.' ∨ isIdentifierChar c = true :=
  forall_mem_intercalate (fun _ hc => .inl (List.mem_singleton.1 hc))
    fun identifier hidentifier c hc => .inr ((h identifier hidentifier).2 c hc)

theorem not_plus_of_identifiers {identifiers : List (List Char)}
    (h : ∀ identifier ∈ identifiers, IsIdentifier identifier) :
    ∀ c ∈ ['.'].intercalate identifiers, (c != '+') = true :=
  fun c hc => bne_iff_ne.2 (isIdentifierChar_range (identifiers_chars h c hc)).2.2.2

/-- What the reader makes of the metadata behind the identifiers. -/
def withBuild (pre : List String) : List Char → Option (List String)
  | [] => some pre
  | _ :: metadata => (identifiers? metadata).map fun _ => pre

theorem suffix?_hyphen (rest : List Char) : suffix? ('-' :: rest)
    = (identifiers? (rest.takeWhile (· != '+'))).bind fun pre =>
      withBuild pre (rest.dropWhile (· != '+')) := rfl

theorem suffix?_plus (rest : List Char) : suffix? ('+' :: rest) = withBuild [] ('+' :: rest) := rfl

theorem withBuild_signed {build : List (List Char)} (pre : List String)
    (h : ∀ identifier ∈ build, IsIdentifier identifier) :
    withBuild pre (signed '+' build) = some pre := by
  by_cases hnone : build = []
  · rw [hnone]
    rfl
  · rw [signed, if_neg (mt List.isEmpty_iff.1 hnone), withBuild,
      identifiers?_intercalate_of_ne_nil h hnone, Option.map_some]

theorem suffix?_suffix {s : Spelling} (h : s.IsRead) :
    suffix? s.suffix = some (s.pre.map String.ofList) := by
  have hbuild : signed '+' s.build = [] ∨ ∃ metadata, signed '+' s.build = '+' :: metadata := by
    rw [signed]
    split
    · exact .inl rfl
    · exact .inr ⟨_, rfl⟩
  rw [Spelling.suffix]
  by_cases hnone : s.pre = []
  · have hplus := withBuild_signed [] h.build
    rw [hnone, signed, List.isEmpty_nil, if_pos rfl, List.nil_append]
    rcases hbuild with hbuild | ⟨metadata, hbuild⟩ <;> rw [hbuild] at hplus ⊢
    · rfl
    · rw [suffix?_plus, hplus]
      rfl
  · have hplus := not_plus_of_identifiers h.pre
    have htake : (signed '+' s.build).takeWhile (· != '+') = [] ∧
        (signed '+' s.build).dropWhile (· != '+') = signed '+' s.build := by
      rcases hbuild with hbuild | ⟨metadata, hbuild⟩ <;> rw [hbuild] <;> exact ⟨rfl, rfl⟩
    rw [signed, if_neg (mt List.isEmpty_iff.1 hnone), List.cons_append, suffix?_hyphen,
      List.takeWhile_append_of_pos hplus, List.dropWhile_append_of_pos hplus, htake.1, htake.2,
      List.append_nil, identifiers?_intercalate_of_ne_nil h.pre hnone, Option.bind_some,
      withBuild_signed _ h.build]

theorem exists_of_withBuild {pre found : List String} {cs : List Char}
    (hcs : cs = [] ∨ ∃ metadata, cs = '+' :: metadata) (h : withBuild pre cs = some found) :
    found = pre ∧ ∃ build, (∀ identifier ∈ build, IsIdentifier identifier) ∧
      cs = signed '+' build := by
  rcases hcs with rfl | ⟨metadata, rfl⟩
  · cases h
    exact ⟨rfl, [], List.forall_mem_nil _, rfl⟩
  · obtain ⟨read, hread, rfl⟩ := Option.map_eq_some_iff.1 h
    obtain ⟨build, hne, hbuild, rfl, -⟩ := exists_of_identifiers? hread
    exact ⟨rfl, build, hbuild, by rw [signed, if_neg (mt List.isEmpty_iff.1 hne)]⟩

theorem exists_of_suffix? {cs : List Char} {found : List String} (h : suffix? cs = some found) :
    ∃ pre build : List (List Char), (∀ identifier ∈ pre, IsIdentifier identifier) ∧
      (∀ identifier ∈ build, IsIdentifier identifier) ∧ cs = signed '-' pre ++ signed '+' build ∧
      found = pre.map String.ofList := by
  rw [suffix?.eq_def] at h
  split at h
  · cases h
    exact ⟨[], [], List.forall_mem_nil _, List.forall_mem_nil _, rfl, rfl⟩
  · next rest =>
    obtain ⟨read, hread, h⟩ := Option.bind_eq_some_iff.1 h
    obtain ⟨pre, hne, hpre, htake, rfl⟩ := exists_of_identifiers? hread
    have hdrop : rest.dropWhile (· != '+') = [] ∨
        ∃ metadata, rest.dropWhile (· != '+') = '+' :: metadata := by
      cases hrest : rest.dropWhile (· != '+') with
      | nil => exact .inl rfl
      | cons c metadata =>
        have hc := List.head?_dropWhile_not (· != '+') rest
        rw [hrest] at hc
        exact .inr ⟨metadata, by rw [show c = '+' by simpa using hc]⟩
    obtain ⟨rfl, build, hbuild, hsigned⟩ := exists_of_withBuild hdrop h
    refine ⟨pre, build, hpre, hbuild, ?_, rfl⟩
    rw [signed, if_neg (mt List.isEmpty_iff.1 hne), ← htake, ← hsigned, List.cons_append,
      List.takeWhile_append_dropWhile]
  · next rest =>
    obtain ⟨rfl, build, hbuild, hsigned⟩ := exists_of_withBuild (.inr ⟨rest, rfl⟩) h
    exact ⟨[], build, List.forall_mem_nil _, hbuild, hsigned, rfl⟩
  · cases h

/-! ## Reading versions -/

/-- What follows a number is no digit. -/
theorem not_isDecimal_suffix (s : Spelling) :
    ∀ c, s.suffix.head? = some c → isDecimal c = false := by
  have hall : ∀ c, s.suffix.head? = some c → c = '-' ∨ c = '+' := by
    rw [Spelling.suffix, signed, signed]
    intro c hc
    split at hc
    · split at hc
      · cases hc
      · exact .inr (Option.some.inj hc).symm
    · exact .inl (Option.some.inj hc).symm
  intro c hc
  rcases hall c hc with rfl | rfl <;> rfl

theorem parts?_chars {s : Spelling} (h : s.IsRead) :
    parts? s.chars = some ((s.major, s.minor, s.patch), s.pre.map String.ofList) := by
  have hnumbers := h.numbers
  simp only [Spelling.numbers, List.forall_mem_cons] at hnumbers
  obtain ⟨hmajor, hminor, hpatch, -⟩ := hnumbers
  exact parts?_append hmajor hminor hpatch (not_isDecimal_suffix s) (suffix?_suffix h)

theorem exists_of_parts? {cs major minor patch : List Char} {found : List String}
    (h : parts? cs = some ((major, minor, patch), found)) :
    ∃ pre build, (Spelling.mk major minor patch pre build).IsRead ∧
      cs = (Spelling.mk major minor patch pre build).chars ∧ found = pre.map String.ofList := by
  rw [parts?] at h
  obtain ⟨⟨a, rest⟩, ha, h⟩ := Option.bind_eq_some_iff.1 h
  obtain ⟨hmajor, hcs⟩ := takeNumber?_eq_some ha
  simp only at h
  split at h
  · obtain ⟨⟨b, more⟩, hb, h⟩ := Option.bind_eq_some_iff.1 h
    obtain ⟨hminor, hrest⟩ := takeNumber?_eq_some hb
    simp only at h
    split at h
    · obtain ⟨⟨c, last⟩, hc, h⟩ := Option.bind_eq_some_iff.1 h
      obtain ⟨hpatch, hmore⟩ := takeNumber?_eq_some hc
      obtain ⟨read, hread, h⟩ := Option.bind_eq_some_iff.1 h
      cases h
      obtain ⟨pre, build, hpre, hbuild, hlast, hfound⟩ := exists_of_suffix? hread
      refine ⟨pre, build, ⟨?_, hpre, hbuild⟩, ?_, hfound⟩
      · simp only [Spelling.numbers, List.forall_mem_cons]
        exact ⟨hmajor, hminor, hpatch, List.forall_mem_nil _⟩
      · rw [hcs, hrest, hmore, show last = _ from hlast]
        rfl
    · cases h
  · cases h

theorem numberValue_eq_ok_iff {digits : List Char} {n : Nat} :
    numberValue digits = .ok n ↔ digits.length ≤ Number.digitLimit ∧ n = Spelling.value digits := by
  rw [numberValue]
  split
  · next hlong =>
    refine iff_of_false (fun h => ?_) fun h => Nat.not_le.2 hlong h.1
    cases h
  · next hshort =>
    rw [Except.ok.injEq, eq_comm]
    exact (and_iff_right (Nat.not_lt.1 hshort)).symm

/-- A text names a version exactly when it is spelt as the reader takes it, blanks around it aside,
and its numbers are short. -/
theorem parse_eq_ok_iff {text : String} {v : Version} : parse text = .ok v ↔
    ∃ s : Spelling, s.IsRead ∧ s.IsShort ∧ (strip text).toList = s.chars ∧ v = s.version := by
  constructor
  · intro h
    rw [parse] at h
    cases hparts : parts? (strip text).toList with
    | none =>
      rw [hparts] at h
      cases h
    | some parts =>
      obtain ⟨⟨major, minor, patch⟩, found⟩ := parts
      rw [hparts] at h
      simp only at h
      obtain ⟨a, ha, h⟩ := Attempt.bind_eq_ok h
      obtain ⟨b, hb, h⟩ := Attempt.bind_eq_ok h
      obtain ⟨c, hc, h⟩ := Attempt.bind_eq_ok h
      cases h
      obtain ⟨hmajor, rfl⟩ := numberValue_eq_ok_iff.1 ha
      obtain ⟨hminor, rfl⟩ := numberValue_eq_ok_iff.1 hb
      obtain ⟨hpatch, rfl⟩ := numberValue_eq_ok_iff.1 hc
      obtain ⟨pre, build, hread, hchars, rfl⟩ := exists_of_parts? hparts
      refine ⟨_, hread, ?_, hchars, rfl⟩
      simp only [Spelling.IsShort, Spelling.numbers, List.forall_mem_cons]
      exact ⟨hmajor, hminor, hpatch, List.forall_mem_nil _⟩
  · rintro ⟨s, hread, hshort, hchars, rfl⟩
    simp only [Spelling.IsShort, Spelling.numbers, List.forall_mem_cons] at hshort
    obtain ⟨hmajor, hminor, hpatch, -⟩ := hshort
    rw [parse, hchars, parts?_chars hread]
    simp only
    rw [numberValue_eq_ok_iff.2 ⟨hmajor, rfl⟩, numberValue_eq_ok_iff.2 ⟨hminor, rfl⟩,
      numberValue_eq_ok_iff.2 ⟨hpatch, rfl⟩]
    rfl

/-- An identifier stands in the text that the version is read from. -/
theorem isInfix_of_parse {text : String} {v : Version} (h : parse text = .ok v) {part : String}
    (hpart : part ∈ v.pre) : part.toList <:+: text.toList := by
  obtain ⟨s, -, -, hchars, rfl⟩ := parse_eq_ok_iff.1 h
  obtain ⟨identifier, hmem, rfl⟩ := List.mem_map.1 hpart
  have hsigned : identifier <:+: signed '-' s.pre := by
    rw [signed, if_neg (mt List.isEmpty_iff.1 (List.ne_nil_of_mem hmem))]
    exact (isInfix_intercalate ['.'] hmem).trans (List.suffix_cons _ _).isInfix
  have hsuffix : signed '-' s.pre <:+: s.chars :=
    ⟨s.major ++ '.' :: (s.minor ++ '.' :: s.patch), signed '+' s.build,
      by simp [Spelling.chars, Spelling.suffix]⟩
  rw [String.toList_ofList]
  exact hsigned.trans (hsuffix.trans (hchars ▸ isInfix_strip text))

/-! ## Texts are spelt in one way -/

theorem signed_injective {sign : Char} {identifiers others : List (List Char)}
    (h : ∀ identifier ∈ identifiers, IsIdentifier identifier)
    (h' : ∀ identifier ∈ others, IsIdentifier identifier)
    (heq : signed sign identifiers = signed sign others) : identifiers = others := by
  rw [signed, signed] at heq
  split at heq <;> split at heq
  · next hnone hnone' => rw [List.isEmpty_iff.1 hnone, List.isEmpty_iff.1 hnone']
  · cases heq
  · cases heq
  · next hsome hsome' =>
    have hback := congrArg (splitOn '.') (List.cons.inj heq).2
    rwa [splitOn_intercalate (not_point_of_identifiers h) (mt List.isEmpty_iff.2 hsome),
      splitOn_intercalate (not_point_of_identifiers h') (mt List.isEmpty_iff.2 hsome')] at hback

theorem chars_injective {s t : Spelling} (hs : s.IsRead) (ht : t.IsRead)
    (h : s.chars = t.chars) : s = t := by
  obtain ⟨major, minor, patch, pre, build⟩ := s
  obtain ⟨major', minor', patch', pre', build'⟩ := t
  have hparts := parts?_chars hs
  rw [h, parts?_chars ht] at hparts
  simp only [Option.some.injEq, Prod.mk.injEq] at hparts
  obtain ⟨⟨rfl, rfl, rfl⟩, hpre⟩ := hparts
  obtain rfl : pre' = pre := List.map_injective_iff.2 (fun _ _ => String.ofList_injective) hpre
  simp only [Spelling.chars, Spelling.suffix, List.append_cancel_left_eq, List.cons.injEq,
    true_and] at h
  exact congrArg (Spelling.mk major' minor' patch' pre') (signed_injective hs.build ht.build h)

/-! ## Tags -/

/-- The last segment of a tag is a `v` and the text. -/
def EndsIn (tag text : String) : Prop :=
  '/' ∉ text.toList ∧ ∃ path, IsTagPath path ∧ tag = path ++ "v" ++ text

/-- Every tag is a way that ends in a slash, or none, and a last segment without one. -/
theorem exists_lastSegment (cs : List Char) : ∃ front, cs = front ++ lastSegment cs ∧
    '/' ∉ lastSegment cs ∧ (front = [] ∨ ∃ above, front = above ++ ['/']) := by
  have hsplit : ∃ front name, cs = front ++ name ∧ '/' ∉ name ∧
      (front = [] ∨ ∃ above, front = above ++ ['/']) := by
    by_cases hslash : '/' ∈ cs
    · obtain ⟨name, above, hcs, hname⟩ := List.eq_append_cons_of_mem (List.mem_reverse.2 hslash)
      refine ⟨above.reverse ++ ['/'], name.reverse, ?_, mt List.mem_reverse.1 hname, .inr ⟨_, rfl⟩⟩
      rw [← List.reverse_reverse cs, hcs, List.reverse_append, List.reverse_cons]
    · exact ⟨[], cs, rfl, hslash, .inl rfl⟩
  obtain ⟨front, name, rfl, hname, hfront⟩ := hsplit
  rw [lastSegment_append hname hfront]
  exact ⟨front, rfl, hname, hfront⟩

theorem lastSegment_of_endsIn {tag text : String} (h : EndsIn tag text) :
    lastSegment tag.toList = 'v' :: text.toList := by
  obtain ⟨hslash, path, hpath, rfl⟩ := h
  have hfront : path.toList = [] ∨ ∃ above, path.toList = above ++ ['/'] := by
    rcases hpath with rfl | ⟨above, rfl⟩
    · exact .inl rfl
    · exact .inr ⟨above.toList, String.toList_append⟩
  have hname : '/' ∉ 'v' :: text.toList := by
    rw [List.mem_cons, not_or]
    exact ⟨by decide, hslash⟩
  rw [String.toList_append, String.toList_append, List.append_assoc]
  exact lastSegment_append hname hfront

theorem endsIn_iff {tag text : String} :
    EndsIn tag text ↔ lastSegment tag.toList = 'v' :: text.toList := by
  refine ⟨lastSegment_of_endsIn, fun h => ?_⟩
  obtain ⟨front, htag, hslash, hfront⟩ := exists_lastSegment tag.toList
  rw [h] at htag hslash
  refine ⟨fun hmem => hslash (List.mem_cons_of_mem 'v' hmem), String.ofList front, ?_, ?_⟩
  · rcases hfront with rfl | ⟨above, rfl⟩
    · exact .inl rfl
    · exact .inr ⟨String.ofList above, String.ofList_append⟩
  · rw [← String.toList_inj, htag, String.toList_append, String.toList_append, String.toList_ofList,
      List.append_assoc]
    rfl

theorem EndsIn.unique {tag text other : String} (h : EndsIn tag text) (h' : EndsIn tag other) :
    text = other := by
  rw [endsIn_iff] at h h'
  exact String.toList_inj.1 (List.cons.inj (h.symm.trans h')).2

theorem ofTag?_of_endsIn {tag text : String} (h : EndsIn tag text) :
    ofTag? tag = (parse text).toOption := by
  rw [ofTag?, lastSegment_of_endsIn h]
  simp only [String.ofList_toList]

theorem ofTag?_eq_some_iff {tag : String} {v : Version} :
    ofTag? tag = some v ↔ ∃ text, EndsIn tag text ∧ parse text = .ok v := by
  have hread {text : String} : (parse text).toOption = some v ↔ parse text = .ok v := by
    cases parse text <;> simp [Except.toOption]
  constructor
  · intro h
    have hname := h
    rw [ofTag?] at hname
    split at hname
    · next rest hsegment =>
      have hends : EndsIn tag (String.ofList rest) :=
        endsIn_iff.2 (by rw [hsegment, String.toList_ofList])
      exact ⟨_, hends, hread.1 hname⟩
    · cases hname
  · rintro ⟨text, hends, hparse⟩
    rw [ofTag?_of_endsIn hends]
    exact hread.2 hparse

/-! ## Tags of the standard -/

/-- The tag ends in a `v` and, right behind it, the version as the standard spells it. -/
def NamedByStandard (tag : String) (v : Version) : Prop :=
  ∃ (text : String) (s : Spelling), EndsIn tag text ∧ text.toList = s.chars ∧ s.IsStandard ∧
    v = s.version

/-- The tag names the version that the standard says it names, and none if it says so. -/
def MeetsStandard (tag : String) : Prop := ∀ v, ofTag? tag = some v ↔ NamedByStandard tag v

/-- The tag ends in a `v` and, up to blanks, the version as the reader takes it. -/
structure IsSpelt (tag text : String) (s : Spelling) : Prop where
  endsIn : EndsIn tag text
  chars : (strip text).toList = s.chars
  isRead : s.IsRead

theorem signed_chars {sign : Char} {identifiers : List (List Char)}
    (h : ∀ identifier ∈ identifiers, IsIdentifier identifier) :
    ∀ c ∈ signed sign identifiers, c = sign ∨ c = '.' ∨ isIdentifierChar c = true := by
  rw [signed]
  split
  · exact fun c hc => absurd hc List.not_mem_nil
  · exact fun c hc => (List.mem_cons.1 hc).imp_right (identifiers_chars h c)

theorem standard_chars {s : Spelling} (h : s.IsStandard) :
    ∀ c ∈ s.chars, c = '+' ∨ c = '.' ∨ isIdentifierChar c = true := by
  have hnumbers := h.numbers
  simp only [Spelling.numbers, List.forall_mem_cons] at hnumbers
  obtain ⟨hmajor, hminor, hpatch, -⟩ := hnumbers
  have hnumber {number : List Char} (hn : IsNumber Char.isDigit number) :
      ∀ c ∈ number, c = '+' ∨ c = '.' ∨ isIdentifierChar c = true :=
    fun c hc => .inr (.inr (isIdentifierChar_of_isDigit (hn.isDigit c hc)))
  simp only [Spelling.chars, Spelling.suffix, List.mem_append, List.mem_cons]
  rintro c (hc | rfl | hc | rfl | hc | hc | hc)
  · exact hnumber hmajor c hc
  · exact .inr (.inl rfl)
  · exact hnumber hminor c hc
  · exact .inr (.inl rfl)
  · exact hnumber hpatch c hc
  · rcases signed_chars h.isRead.pre c hc with rfl | hc
    · exact .inr (.inr rfl)
    · exact .inr hc
  · exact signed_chars h.build c hc

theorem strip_of_isStandard {text : String} {s : Spelling} (hchars : text.toList = s.chars)
    (h : s.IsStandard) : strip text = text := by
  refine strip_of_not_blank fun c hc => ?_
  rw [hchars] at hc
  rcases standard_chars h c hc with rfl | hc
  · rfl
  · obtain ⟨hlow, hhigh, -, -⟩ := isIdentifierChar_range hc
    exact isBlank_eq_false_of_range (by omega) (by omega)

theorem ofTag?_eq_some_iff_isSpelt {tag : String} {v : Version} : ofTag? tag = some v ↔
    ∃ text s, IsSpelt tag text s ∧ s.IsShort ∧ v = s.version := by
  simp only [ofTag?_eq_some_iff, parse_eq_ok_iff]
  constructor
  · rintro ⟨text, hends, s, hread, hshort, hchars, rfl⟩
    exact ⟨text, s, ⟨hends, hchars, hread⟩, hshort, rfl⟩
  · rintro ⟨text, s, ⟨hends, hchars, hread⟩, hshort, rfl⟩
    exact ⟨text, hends, s, hread, hshort, hchars, rfl⟩

theorem IsSpelt.unique {tag text other : String} {s t : Spelling} (h : IsSpelt tag text s)
    (h' : IsSpelt tag other t) : text = other ∧ s = t := by
  obtain rfl := h.endsIn.unique h'.endsIn
  exact ⟨rfl, chars_injective h.isRead h'.isRead (h.chars.symm.trans h'.chars)⟩

/-- What the standard names is spelt for the reader as well. -/
theorem namedByStandard_iff {tag : String} {v : Version} : NamedByStandard tag v ↔
    ∃ text s, IsSpelt tag text s ∧ strip text = text ∧ s.IsStandard ∧ v = s.version := by
  constructor
  · rintro ⟨text, s, hends, hchars, hstandard, rfl⟩
    have hstrip := strip_of_isStandard hchars hstandard
    exact ⟨text, s, ⟨hends, by rw [hstrip, hchars], hstandard.isRead⟩, hstrip, hstandard, rfl⟩
  · rintro ⟨text, s, hspelt, hstrip, hstandard, rfl⟩
    exact ⟨text, s, hspelt.endsIn, by rw [← hspelt.chars, hstrip], hstandard, rfl⟩

theorem meetsStandard_iff {tag : String} : MeetsStandard tag ↔
    ∀ text s, IsSpelt tag text s → (s.IsShort ↔ strip text = text ∧ s.IsStandard) := by
  refine ⟨fun h text s hspelt => ⟨fun hshort => ?_, ?_⟩, fun h v => ?_⟩
  · have hnamed := (h s.version).1 (ofTag?_eq_some_iff_isSpelt.2 ⟨text, s, hspelt, hshort, rfl⟩)
    obtain ⟨other, t, hother, hstrip, hstandard, -⟩ := namedByStandard_iff.1 hnamed
    obtain ⟨rfl, rfl⟩ := hspelt.unique hother
    exact ⟨hstrip, hstandard⟩
  · rintro ⟨hstrip, hstandard⟩
    have hread := (h s.version).2
      (namedByStandard_iff.2 ⟨text, s, hspelt, hstrip, hstandard, rfl⟩)
    obtain ⟨other, t, hother, hshort, -⟩ := ofTag?_eq_some_iff_isSpelt.1 hread
    obtain ⟨rfl, rfl⟩ := hspelt.unique hother
    exact hshort
  · rw [ofTag?_eq_some_iff_isSpelt, namedByStandard_iff]
    refine exists_congr fun text => exists_congr fun s => and_congr_right fun hspelt => ?_
    rw [h text s hspelt, and_assoc]

/-- A tag names a version exactly when it ends in a `v` and, up to blanks, the spelling of a version
that the reader takes, with short numbers; it names the version of that spelling. The standard asks
for the same exactly when there is no such spelling, or when its numbers are short and it is one of
the standard without blanks around it, or neither. -/
theorem ofTag?_meets_standard_iff (tag : String) :
    (∀ v, ofTag? tag = some v ↔ ∃ text s, IsSpelt tag text s ∧ s.IsShort ∧ v = s.version) ∧
    (MeetsStandard tag ↔
      ∀ text s, IsSpelt tag text s → (s.IsShort ↔ strip text = text ∧ s.IsStandard)) :=
  ⟨fun _ => ofTag?_eq_some_iff_isSpelt, meetsStandard_iff⟩

/-- A leading zero in an identifier, a blank and a digit of another script are read, and the
standard allows none of them. -/
theorem not_meetsStandard_zero :
    ofTag? "v1.0.0-01" = some ⟨1, 0, 0, ["01"]⟩ ∧ ¬ MeetsStandard "v1.0.0-01" ∧
    ofTag? "v 1.0.0" = some ⟨1, 0, 0, []⟩ ∧ ¬ MeetsStandard "v 1.0.0" ∧
    ofTag? "v1٠.0.0" = some ⟨10, 0, 0, []⟩ ∧ ¬ MeetsStandard "v1٠.0.0" := by
  have hzero : IsSpelt "v1.0.0-01" "1.0.0-01" ⟨['1'], ['0'], ['0'], [['0', '1']], []⟩ :=
    ⟨⟨by decide, "", .inl rfl, rfl⟩, rfl, by decide⟩
  have hblank : IsSpelt "v 1.0.0" " 1.0.0" ⟨['1'], ['0'], ['0'], [], []⟩ :=
    ⟨⟨by decide, "", .inl rfl, rfl⟩, rfl, by decide⟩
  have hscript : IsSpelt "v1٠.0.0" "1٠.0.0" ⟨['1', '٠'], ['0'], ['0'], [], []⟩ :=
    ⟨⟨by decide, "", .inl rfl, rfl⟩, rfl, by decide⟩
  refine ⟨rfl, fun h => ?_, rfl, fun h => ?_, rfl, fun h => ?_⟩
  · exact absurd ((meetsStandard_iff.1 h _ _ hzero).1 (by decide)).2 (by decide)
  · exact absurd ((meetsStandard_iff.1 h _ _ hblank).1 (by decide)).1 (by decide)
  · exact absurd ((meetsStandard_iff.1 h _ _ hscript).1 (by decide)).2 (by decide)

end Version

end ControlSchema
