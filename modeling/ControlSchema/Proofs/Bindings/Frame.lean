import ControlSchema.Proofs.Bindings.Dispatch

/-!
# What surrounds the definitions

The preamble and the end of a generated module are the same for all snapshots,
but for the version and the category in them. Rows without anything of their
own are checked by looking at them.
-/

namespace ControlSchema

open Source Source.Expr Source.Statement Source.Token Number Text

namespace Layout

variable {n : Nat} {margin : String}

/-! ## Fixed rows -/

def isFixedToken (t : Token) : Bool :=
  match t with
  | .word w => isAsciiName w.toList
  | .symbol s => Lexeme.symbols.contains s && s != ";"
  | _ => false

/-- Tokens that make up a row by themselves. -/
def isFixed (ts : List Token) : Bool :=
  ts.all isFixedToken && allJoined ts && Line.depths? 0 ts == some 0 && !ts.isEmpty

theorem sound_of_isFixedToken {t : Token} (ht : isFixedToken t = true) :
    t.Sound ∧ t ≠ .symbol ";" := by
  cases t with
  | word w => exact ⟨.word ht, by simp⟩
  | symbol s =>
    rw [isFixedToken, Bool.and_eq_true, List.contains_iff_mem, bne_iff_ne] at ht
    exact ⟨.symbol ht.1, by simpa using ht.2⟩
  | number s => cases ht
  | literal l => cases ht

theorem sound_of_isFixed {ts : List Token} (h : isFixed ts = true) :
    Row.Sound ⟨n, ts⟩ ∧ Line.depths? 0 ts = some 0 ∧ ∀ t ∈ ts, t ≠ .symbol ";" := by
  simp only [isFixed, Bool.and_eq_true, List.all_eq_true, beq_iff_eq, Bool.not_eq_true',
    List.isEmpty_eq_false_iff] at h
  obtain ⟨⟨⟨htokens, hjoined⟩, hdepths⟩, hne⟩ := h
  exact ⟨⟨fun t ht => (sound_of_isFixedToken (htokens t ht)).1, hjoined, hne⟩, hdepths,
    fun t ht => (sound_of_isFixedToken (htokens t ht)).2⟩

theorem says_fixed {row : String} (ts : List Token) {s : Statement} (hfixed : isFixed ts = true)
    (hrow : row.toList = Row.spaces n ++ typeset ts) (hhead : head? ts = none)
    (hsimple : simple? ts = some s) : Says n [row] (some [s]) := by
  obtain ⟨hsound, hdepths, hinner⟩ := @sound_of_isFixed n ts hfixed
  have hsays := Says.row hrow hsound hdepths ⟨hsound.ne_nil, hinner, hhead⟩
  rw [hsimple] at hsays
  exact hsays

/-! ## Imports -/

def dotted : List String → List Token
  | [] => []
  | [w] => [.word w]
  | w :: rest => .word w :: .symbol "." :: dotted rest

def fromTokens (path : List String) (names : List Token) : List Token :=
  .word "from" :: dotted path ++ .word "import" :: names

def geometryNames : List Token :=
  [.word "Point", .symbol ",", .word "Rectangle", .symbol ",", .word "Size"]

theorem says_futures {rows : List String} {ss : List Statement} (h : Says 0 rows (some ss)) :
    Says 0 ("from __future__ import annotations" :: "" :: "from typing import TYPE_CHECKING" :: ""
      :: rows) (some (imports.take 2 ++ ss)) := by
  have hannotations := @says_fixed 0 "from __future__ import annotations"
    (fromTokens ["__future__"] [.word "annotations"]) _ (by decide) rfl rfl rfl
  have htyping := @says_fixed 0 "from typing import TYPE_CHECKING"
    (fromTokens ["typing"] [.word "TYPE_CHECKING"]) _ (by decide) rfl rfl rfl
  exact hannotations.append_some (htyping.append_some h.blank).blank

theorem says_modules {rows : List String} {ss : List Statement} (h : Says 0 rows (some ss)) :
    Says 0 ([
      "from camctl.core import types as _types",
      "from camctl.core.versioning import Version",
      "from camctl.runtime import control as _control",
      "from camctl.runtime import features as _features",
      "from camctl.runtime import linked as _linked",
      "from camctl.runtime.registry import DynRegistry",
      "from camctl.runtime.value import ControlValue"] ++ rows)
      (some ((imports.drop 2).take 7 ++ ss)) := by
  have htypes := @says_fixed 0 "from camctl.core import types as _types"
    (fromTokens ["camctl", "core"] [.word "types", .word "as", .word "_types"]) _
    (by decide) rfl rfl rfl
  have hversion := @says_fixed 0 "from camctl.core.versioning import Version"
    (fromTokens ["camctl", "core", "versioning"] [.word "Version"]) _ (by decide) rfl rfl rfl
  have hcontrol := @says_fixed 0 "from camctl.runtime import control as _control"
    (fromTokens ["camctl", "runtime"] [.word "control", .word "as", .word "_control"]) _
    (by decide) rfl rfl rfl
  have hfeatures := @says_fixed 0 "from camctl.runtime import features as _features"
    (fromTokens ["camctl", "runtime"] [.word "features", .word "as", .word "_features"]) _
    (by decide) rfl rfl rfl
  have hlinked := @says_fixed 0 "from camctl.runtime import linked as _linked"
    (fromTokens ["camctl", "runtime"] [.word "linked", .word "as", .word "_linked"]) _
    (by decide) rfl rfl rfl
  have hregistry := @says_fixed 0 "from camctl.runtime.registry import DynRegistry"
    (fromTokens ["camctl", "runtime", "registry"] [.word "DynRegistry"]) _
    (by decide) rfl rfl rfl
  have hvalue := @says_fixed 0 "from camctl.runtime.value import ControlValue"
    (fromTokens ["camctl", "runtime", "value"] [.word "ControlValue"]) _ (by decide) rfl rfl rfl
  exact htypes.append_some (hversion.append_some (hcontrol.append_some (hfeatures.append_some
    (hlinked.append_some (hregistry.append_some (hvalue.append_some h))))))

theorem says_checking : Says 0 ["if TYPE_CHECKING:",
    "    from camctl.core.geometry import Point, Rectangle, Size"] (some (imports.drop 9)) := by
  have hgeometry := @says_fixed 4 "    from camctl.core.geometry import Point, Rectangle, Size"
    (fromTokens ["camctl", "core", "geometry"] geometryNames) _ (by decide) rfl rfl rfl
  have hfixed : isFixed (.word "if" :: [.word "TYPE_CHECKING"] ++ [.symbol ":"]) = true := by decide
  obtain ⟨hsound, hdepths, -⟩ := @sound_of_isFixed 0 _ hfixed
  exact Says.compound rfl hsound hdepths (by simp)
    (fun body hne hbody => Means.branch (Primary.name rfl).phrase hne hbody) hgeometry

/-! ## The title -/

theorem isFrameable_version {v : Version} (hv : v.IsWritten) : IsFrameable v.text.toList := by
  intro c hc
  refine ⟨?_, ?_, ?_⟩ <;> rintro rfl <;> rcases v.text_chars hv _ hc with h | h <;> cases h

theorem isFrameable_title {v : Version} (hv : v.IsWritten) (category : Category) :
    IsFrameable (title v category) := by
  have hversion := isFrameable_version hv
  have hfixed : IsFrameable ("Generated ".toList ++ category.word.toList
      ++ " catalogue for libcamera ".toList) ∧
      IsFrameable ".\n\nDo not edit: regenerate with ``camctl generate``.\n".toList :=
    ⟨isFrameable_of_all (by cases category <;> decide), isFrameable_of_all (by decide)⟩
  rw [title, String.toList_append, String.toList_append, String.toList_append,
    String.toList_append]
  intro c hc
  rcases List.mem_append.1 hc with hc | hc
  · rcases List.mem_append.1 hc with hc | hc
    · exact hfixed.1 c hc
    · exact hversion c hc
  · exact hfixed.2 c hc

theorem says_title {v : Version} (hv : v.IsWritten) (category : Category) :
    Says 0 ["\"\"\"Generated " ++ category.word ++ " catalogue for libcamera " ++ v.text ++ ".",
        "", "Do not edit: regenerate with ``camctl generate``.", "\"\"\""]
      (some [.expression (.text (String.ofList (title v category)))]) := by
  refine says_framed ?_ (isFrameable_title hv category)
  rw [title]
  generalize v.text = text
  generalize category.word = word
  simp [page, framed, Token.spelling, Literal.spelling, Literal.marks, Row.spaces]

/-! ## Constants -/

def versionTokens (v : Version) : List Token :=
  [.word "Version"] ++ .symbol "(" :: [.symbol ","].intercalate
    [[.number (digitsText v.major)], [.number (digitsText v.minor)], [.number (digitsText v.patch)]]
    ++ [.symbol ")"]

theorem says_version (v : Version) :
    Says 0 ["SNAPSHOT_VERSION = Version(" ++ digitsText v.major ++ ", " ++ digitsText v.minor
        ++ ", " ++ digitsText v.patch ++ ")"]
      (some [.assignment [.name "SNAPSHOT_VERSION"] (.call (.name "Version")
        [.plain (.number v.major), .plain (.number v.minor), .plain (.number v.patch)])]) := by
  have hphrase (k : Nat) := Phrase.number (ofNumber?_digitsText k)
  have hnumbers : Items _ [.plain (.number v.major), .plain (.number v.minor),
      .plain (.number v.patch)] false :=
    items_plain (.cons (hphrase v.major) (.cons (hphrase v.minor) (.cons (hphrase v.patch) .nil)))
  have hcall := (Primary.name (w := "Version") rfl).call hnumbers rfl
  have hsound : Row.Sound ⟨0, .word "SNAPSHOT_VERSION" :: .symbol "=" :: versionTokens v⟩ := by
    have hmajor := sound_digits v.major
    have hminor := sound_digits v.minor
    have hpatch := sound_digits v.patch
    refine ⟨?_, rfl, List.cons_ne_nil _ _⟩
    simp +decide [versionTokens, sound_word_iff, sound_symbol_iff, hmajor, hminor, hpatch]
  refine says_assignment ?_ hsound rfl rfl hcall.phrase
  rw [versionTokens]
  simp [Row.spaces, typeset, gap, Token.spelling]

theorem says_category (category : Category) :
    Says 0 ["CATEGORY = " ++ Text.quoted category.word]
      (some [.assignment [.name "CATEGORY"] (.text category.word)]) := by
  have hword : IsQuotable category.word :=
    ⟨by cases category <;> decide, List.all_eq_true.1 (by cases category <;> decide)⟩
  have hquoted := sound_quoted hword
  have hspelled := Text.toList_quoted hword.2
  have hrow : ("CATEGORY = " ++ Text.quoted category.word).toList = Row.spaces 0
      ++ typeset (.word "CATEGORY" :: .symbol "=" :: [Token.quoted category.word]) := by
    rw [String.toList_append, hspelled]
    generalize category.word = word
    simp [Row.spaces, typeset, gap, Token.quoted, Token.spelling, Literal.spelling, Literal.marks]
  have hsound : Row.Sound
      ⟨0, .word "CATEGORY" :: .symbol "=" :: [Token.quoted category.word]⟩ := by
    refine ⟨?_, rfl, List.cons_ne_nil _ _⟩
    simp +decide [sound_word_iff, sound_symbol_iff, hquoted]
  exact says_assignment hrow hsound rfl rfl (phrase_quoted hword)

theorem says_ids : Says 0 ["_ids = _linked.linkage(CATEGORY)"]
    (some [.assignment [.name "_ids"] (.call (.attribute (.name "_linked") "linkage")
      [.plain (.name "CATEGORY")])]) :=
  says_fixed [.word "_ids", .symbol "=", .word "_linked", .symbol ".", .word "linkage",
    .symbol "(", .word "CATEGORY", .symbol ")"] (by decide) rfl rfl rfl

/-- What stands between the title and the catalogue. -/
theorem says_setup (v : Version) (category : Category) :
    Says 0 ((preamble v category).drop 4) (some (imports ++ constants v category)) := by
  have hcomment : ∀ row ∈ ["# fmt: off"], ∃ n cs, row.toList = Row.spaces n ++ '#' :: cs ∧
      '\n' ∉ cs ∧ '\r' ∉ cs := by
    intro row hrow
    rw [List.mem_singleton.1 hrow]
    exact ⟨0, " fmt: off".toList, rfl, by decide, by decide⟩
  have hconstants : Says 0 _ (some (constants v category)) := (says_version v).append_some
    ((says_category category).append_some (says_ids.append_some Says.nil.blank.blank).blank)
  have himports := says_futures (says_modules (says_checking.append_some hconstants.blank).blank)
  exact (Says.comments hcomment himports).blank

theorem says_preamble {v : Version} (hv : v.IsWritten) (category : Category) :
    Says 0 (preamble v category) (some (preambleStatements v category)) :=
  (says_title hv category).append_some (says_setup v category)

/-! ## The end -/

theorem isFrameable_closingTitle : IsFrameable closingTitle.toList :=
  isFrameable_of_all (by decide)

def makerHead : List Token := [.word "def", .word "make_dyn", .symbol "(", .word "id", .symbol ":",
  .word "int", .symbol ",", .word "value", .symbol ":", .word "ControlValue", .symbol ")",
  .symbol "->", .word "_control", .symbol ".", .word "DynControlEntry", .symbol ":"]

theorem says_maker : Says 0 [
    "def make_dyn(id: int, value: ControlValue) -> _control.DynControlEntry:",
    "    \"\"\"Type-erased entry for ``id``; raises ControlNotFound or ControlValueError.\"\"\"",
    "    return _control.make_dyn(_DYN_TABLE, id, value)"]
    (some ((closingStatements .controls).take 1)) := by
  have hdoc := @says_framed 4 [
    "    \"\"\"Type-erased entry for ``id``; raises ControlNotFound or ControlValueError.\"\"\""]
    closingTitle.toList rfl isFrameable_closingTitle
  have hresult := @says_fixed 4 "    return _control.make_dyn(_DYN_TABLE, id, value)"
    [.word "return", .word "_control", .symbol ".", .word "make_dyn", .symbol "(",
      .word "_DYN_TABLE", .symbol ",", .word "id", .symbol ",", .word "value", .symbol ")"] _
    (by decide) rfl rfl rfl
  have hfixed : isFixed makerHead = true := by decide
  obtain ⟨hsound, hdepths, -⟩ := @sound_of_isFixed 0 makerHead hfixed
  exact Says.compound rfl hsound hdepths (by simp)
    (fun body hne hbody => Means.compound rfl rfl (fun _ _ => rfl) hne hbody)
    (hdoc.append_some hresult)

theorem says_closing (category : Category) :
    Says 0 (closing category).dropLast (some (closingStatements category)) := by
  have hregistry : Says 0 ["registry = DynRegistry(CATEGORY, " ++ category.idClass ++ ", make_dyn)"]
      (some ((closingStatements category).drop 1)) := by
    cases category
    · exact says_fixed [.word "registry", .symbol "=", .word "DynRegistry", .symbol "(",
        .word "CATEGORY", .symbol ",", .word "ControlId", .symbol ",", .word "make_dyn",
        .symbol ")"] (by decide) rfl rfl rfl
    · exact says_fixed [.word "registry", .symbol "=", .word "DynRegistry", .symbol "(",
        .word "CATEGORY", .symbol ",", .word "PropertyId", .symbol ",", .word "make_dyn",
        .symbol ")"] (by decide) rfl rfl rfl
  exact (says_maker.append_some hregistry.blank.blank).blank.blank

end Layout

end ControlSchema
