import ControlSchema.Proofs.Header.Words
import ControlSchema.Proofs.Linkage.Numbering

/-!
# What a header declares

The tokens of a header are read as a compiler reads them: directives aside, an
enumeration gives its tag a meaning, and each of its constants. Tags have a scope
of their own, and all constants share one. What is read is what was written: a tag
for each category and each enumeration, and a constant for each definition and
each enumerator.

Nothing keeps these names apart. The constants of the two categories begin
differently, but names that differ in a snapshot need not differ as constants, and
enumerators stand under their own names alone. The header declares each name once
exactly when the names it is made of happen to be distinct.
-/

namespace ControlSchema

open Number Text

/-! ## Reading declarations -/

namespace Translation

inductive Declaration where
  | tag (name : String)
  | constant (name : String)
deriving DecidableEq

/-- What a reader of declarations waits for. -/
inductive Awaited where
  | enumeration
  | tag
  | body (tag : String)
  | constant
  /-- The comma or the brace behind a constant and its value. -/
  | separator

def declared : Awaited → List String → List Declaration
  | _, [] => []
  | .enumeration, token :: rest => declared (if token == "enum" then .tag else .enumeration) rest
  | .tag, token :: rest => declared (.body token) rest
  | .body tag, token :: rest =>
    if token == "\x7b" then .tag tag :: declared .constant rest else declared .enumeration rest
  | .constant, token :: rest =>
    if token == "\x7d" then declared .enumeration rest
    else .constant token :: declared .separator rest
  | .separator, token :: rest =>
    declared (if token == "," then .constant else if token == "\x7d" then .enumeration
      else .separator) rest

/-- What a text declares, in order. -/
def declarations (text : String) : Option (List Declaration) :=
  (tokens text).map fun lines => declared .enumeration (plainTokens lines)

example : declarations "#define enum\nenum a \x7b B, C = 1 /* D, */ \x7d; enum e x;"
    = some [.tag "a", .constant "B", .constant "C"] := by decide +kernel

namespace Declaration

def tag? : Declaration → Option String
  | .tag name => some name
  | .constant _ => none

def constant? : Declaration → Option String
  | .tag _ => none
  | .constant name => some name

end Declaration

/-- The tags of declarations, which share one scope. -/
def tags (ds : List Declaration) : List String := ds.filterMap Declaration.tag?

/-- The constants of declarations, which share another. -/
def constants (ds : List Declaration) : List String := ds.filterMap Declaration.constant?

/-- An enumeration with its constants is one tag and these constants. -/
theorem tags_cons_tag {α : Type} (tag : String) (name : α → String) (items : List α)
    (ds : List Declaration) :
    tags (.tag tag :: items.map (fun a => .constant (name a)) ++ ds) = tag :: tags ds := by
  have hnone : items.filterMap (Declaration.tag? ∘ fun a => .constant (name a)) = [] :=
    List.filterMap_eq_nil_iff.2 fun _ _ => rfl
  have htag : (Declaration.tag tag).tag? = some tag := rfl
  rw [List.cons_append, tags, List.filterMap_cons_some htag, List.filterMap_append,
    List.filterMap_map, hnone]
  rfl

theorem constants_cons_tag {α : Type} (tag : String) (name : α → String) (items : List α)
    (ds : List Declaration) :
    constants (.tag tag :: items.map (fun a => .constant (name a)) ++ ds)
      = items.map name ++ constants ds := by
  have hsome : items.filterMap (Declaration.constant? ∘ fun a => .constant (name a))
      = items.map name := congrFun List.filterMap_eq_map items
  rw [List.cons_append, constants, List.filterMap_cons_none rfl, List.filterMap_append,
    List.filterMap_map, hsome]
  rfl

end Translation

namespace Header

open Translation

/-! ## What pieces declare -/

theorem declared_separator {value : List String}
    (h : ∀ token ∈ value, token ≠ "," ∧ token ≠ "\x7d") (rest : List String) :
    declared .separator (value ++ "," :: rest) = declared .constant rest := by
  induction value with
  | nil => rfl
  | cons token value ih =>
    obtain ⟨hcomma, hbrace⟩ := h token List.mem_cons_self
    rw [List.cons_append, declared, beq_eq_false_iff_ne.2 hcomma, beq_eq_false_iff_ne.2 hbrace]
    exact ih fun other hother => h other (List.mem_cons_of_mem token hother)

/-- The tokens of the code in some pieces. -/
def codeTokens (ps : List Piece) : List String := (ps.filterMap Piece.code?).flatMap lineCode

theorem codeTokens_append (front back : List Piece) :
    codeTokens (front ++ back) = codeTokens front ++ codeTokens back := by
  rw [codeTokens, List.filterMap_append, List.flatMap_append]
  rfl

theorem codeTokens_cons (p : Piece) (ps : List Piece) :
    codeTokens (p :: ps) = codeTokens [p] ++ codeTokens ps := codeTokens_append [p] ps

theorem codeTokens_code (line : String) : codeTokens [.code line] = lineCode line :=
  List.flatMap_singleton lineCode line

theorem codeTokens_empty (ps : List Piece) : codeTokens (.code "" :: ps) = codeTokens ps := by
  have hline : lineCode "" = [] := by decide
  rw [codeTokens_cons, codeTokens_code, hline]
  rfl

theorem codeTokens_comment (indent text : String) (ps : List Piece) :
    codeTokens (comment indent text :: ps) = codeTokens ps := rfl

theorem codeTokens_described (text : String) (line : String) :
    codeTokens [comment innerIndent text, .code line] = lineCode line := codeTokens_code line

/-! ### Constants -/

/-- A constant is declared, and the reader is where it was. -/
theorem declared_constant {front name : String} (hfront : isAsciiName front.toList = true)
    (hname : IsSpelt name) (text : String) (n : Int) (rest : List String) :
    declared .constant
      (codeTokens [comment innerIndent text, constantLine (front ++ name) (intText n)] ++ rest)
      = .constant (front ++ spelled name) :: declared .constant rest := by
  have hbrace : front ++ spelled name ≠ "\x7d" :=
    ne_mark (isAsciiName_spelled hfront hname) (by decide)
  have hvalue : ∀ token ∈ "=" :: valueTokens n, token ≠ "," ∧ token ≠ "\x7d" := by
    refine List.forall_mem_cons.2 ⟨by decide, fun token htoken => ?_⟩
    obtain ⟨hcomma, hbrace, -⟩ := valueTokens_ne token htoken
    exact ⟨hcomma, hbrace⟩
  rw [constantLine, codeTokens_described, lineCode_constant hfront hname, List.cons_append,
    declared, if_neg fun h => hbrace (beq_iff_eq.1 h)]
  refine congrArg _ ?_
  rw [List.cons_append, List.append_assoc]
  exact declared_separator hvalue rest

/-- So are the constants of a list. -/
theorem declared_constants {α : Type} {front : String} {name text : α → String} {value : α → Int}
    {items : List α} (hfront : isAsciiName front.toList = true)
    (hnames : ∀ a ∈ items, IsSpelt (name a)) (rest : List String) :
    declared .constant (codeTokens (items.flatMap fun a =>
        [comment innerIndent (text a), constantLine (front ++ name a) (intText (value a))]) ++ rest)
      = (items.map fun a => .constant (front ++ spelled (name a))) ++ declared .constant rest := by
  induction items with
  | nil => rfl
  | cons a items ih =>
    obtain ⟨ha, hitems⟩ := List.forall_mem_cons.1 hnames
    rw [List.flatMap_cons, codeTokens_append, List.append_assoc, declared_constant hfront ha,
      ih hitems]
    rfl

theorem declared_close (rest : List String) :
    declared .constant (codeTokens [.code "\x7d;"] ++ rest) = declared .enumeration rest := by
  have hline : lineCode "\x7d;" = ["\x7d", ";"] := by decide
  rw [codeTokens_code, hline]
  rfl

theorem declared_open {front name : String} (hfront : isAsciiName front.toList = true)
    (hname : IsSpelt name) (rest : List String) :
    declared .enumeration (codeTokens [.code ("enum " ++ (front ++ name) ++ " \x7b")] ++ rest)
      = .tag (front ++ spelled name) :: declared .constant rest := by
  have hback : tokensFrom 0 " \x7b".toList = ["\x7b"] := by decide
  have hbefore (rest : List Char) :
      tokensFrom 0 ("enum ".toList ++ rest) = ["enum"] ++ tokensFrom 0 rest := by
    have hword : "enum ".toList = "enum".toList ++ [' '] := by
      rw [String.toList_ofList, String.toList_ofList]
      rfl
    rw [hword, List.append_assoc, tokensFrom_word (by decide) (fun c hc => by
      obtain rfl := Option.some.inj hc
      decide), String.ofList_toList]
    rfl
  have hends : Ends " \x7b".toList := fun c hc => by
    obtain rfl := Option.some.inj hc
    decide
  rw [codeTokens_code, lineCode_spelt hfront hname hbefore hends (by decide)
    (by rw [hback]; decide), hback]
  rfl

/-! ## Accepted names -/

/-- A line feed behind a name stays behind it. -/
theorem snakeAfter_break {w : List Char} (hw : ∀ c ∈ w, isWordChar c = true)
    (previous : Option Char) : ∃ v, Naming.snakeAfter previous (w ++ ['\n']) = v ++ ['\n'] ∧
      ∀ c ∈ v, isWordChar c = true := by
  induction w generalizing previous with
  | nil =>
    rw [List.nil_append, Naming.snakeAfter]
    split
    · exact ⟨['_'], rfl, List.forall_mem_singleton.2 rfl⟩
    · exact ⟨[], rfl, List.forall_mem_nil _⟩
  | cons c w ih =>
    obtain ⟨hc, hw⟩ := List.forall_mem_cons.1 hw
    obtain ⟨v, hv, hall⟩ := ih hw (some c)
    obtain ⟨d, hd, hdword, -⟩ := (Naming.caseFacts hc).1
    have hword : ∀ e ∈ d :: v, isWordChar e = true := List.forall_mem_cons.2 ⟨hdword, hall⟩
    rw [List.cons_append, Naming.snakeAfter, hd, hv]
    split
    · exact ⟨'_' :: d :: v, rfl, List.forall_mem_cons.2 ⟨rfl, hword⟩⟩
    · exact ⟨d :: v, rfl, hword⟩

theorem isSpelt_snakeCase {name : String} (h : Naming.isSchemaName name = true) :
    IsSpelt (Naming.snakeCase name) := by
  have hword {w : List Char} (hplain : Naming.isPlainName w = true) :
      ∀ c ∈ w, isWordChar c = true := fun c hc =>
    Naming.isWordChar_of_isAlphanum (Naming.isAlphanum_of_isPlainName hplain c hc)
  rw [IsSpelt, Naming.snakeCase, String.toList_ofList]
  rcases Naming.isSchemaName_cases h with hplain | ⟨w, hw, hplain⟩
  · exact ⟨_, Naming.isWordChar_of_mem_snakeAfter (hword hplain), Or.inl rfl⟩
  · obtain ⟨v, hv, hall⟩ := snakeAfter_break (hword hplain) none
    exact ⟨v, hall, Or.inr (by rw [hw, hv])⟩

theorem isSpelt_linkageName {name : String} (h : Naming.isSchemaName name = true) :
    IsSpelt (Naming.linkageName name) := by
  obtain ⟨w, hw, hbreak⟩ := isSpelt_snakeCase h
  refine ⟨w.flatMap upperChar, fun c hc => (Naming.upper_word hw c hc).1, ?_⟩
  rw [Naming.linkageName, upper, String.toList_ofList]
  rcases hbreak with hbreak | hbreak
  · exact Or.inl (by rw [hbreak])
  · refine Or.inr ?_
    rw [hbreak, List.flatMap_append]
    rfl

/-! ## The whole header -/

/-- The definitions whose values have names, of both categories. -/
def enumerations (s : Snapshot) : List Definition :=
  Category.all.flatMap fun category => (s.definitions category).filter Definition.isEnum

/-- What is declared for the identifiers of a category. -/
def declaredIdentifiers (s : Snapshot) (category : Category) : List Declaration :=
  .tag category.headerEnum :: (s.definitions category).map fun d =>
    .constant (category.headerPrefix ++ spelled d.linkageName)

/-- What is declared for an enumeration. -/
def declaredVariants (d : Definition) : List Declaration :=
  .tag ("libcamera_" ++ spelled d.snakeName) :: d.enumerators.map fun e =>
    .constant ("LIBCAMERA_" ++ spelled (Naming.linkageName e.name))

section

variable {s : Snapshot} (hs : s.Accepted) {category : Category}
include hs

theorem declared_identifiers (rest : List String) :
    declared .constant (codeTokens (identifiers s category) ++ rest)
      = (s.definitions category).map (fun d =>
          .constant (category.headerPrefix ++ spelled d.linkageName))
        ++ declared .enumeration rest := by
  have hfront : isAsciiName category.headerPrefix.toList = true := by
    cases category <;> decide
  have hpieces : identifiers s category = (s.definitions category).flatMap (fun d =>
      [comment innerIndent d.description, constantLine (category.headerPrefix ++ d.linkageName)
        (intText (((s.linkageIds category).get? d.linkageName).getD 0 : Nat))])
      ++ [.code "\x7d;"] := rfl
  have hnames : ∀ d ∈ s.definitions category, IsSpelt d.linkageName := fun d hd =>
    isSpelt_linkageName (hs.definitions category d hd).name
  rw [hpieces, codeTokens_append, List.append_assoc, declared_constants hfront hnames,
    declared_close]

theorem declared_variantPieces {d : Definition} (hd : d ∈ s.definitions category)
    (rest : List String) :
    declared .enumeration (codeTokens (.code "" :: variantPieces category d) ++ rest)
      = declaredVariants d ++ declared .enumeration rest := by
  have hdefinition := hs.definitions category d hd
  have hpieces : codeTokens (.code "" :: variantPieces category d)
      = codeTokens [.code ("enum " ++ ("libcamera_" ++ d.snakeName) ++ " \x7b")]
        ++ (codeTokens (d.enumerators.flatMap fun e => [comment innerIndent e.description,
            constantLine ("LIBCAMERA_" ++ Naming.linkageName e.name) (intText e.value)])
          ++ codeTokens [.code "\x7d;"]) := by
    have henum : "enum libcamera_" = "enum " ++ "libcamera_" := by decide
    rw [variantPieces, henum, @String.append_assoc "enum ", List.cons_append, codeTokens_empty,
      codeTokens_comment, List.cons_append, codeTokens_cons, codeTokens_append]
    rfl
  have hsnake : IsSpelt d.snakeName := isSpelt_snakeCase hdefinition.name
  have hfront : isAsciiName "LIBCAMERA_".toList = true := by decide
  have hnames : ∀ e ∈ d.enumerators, IsSpelt (Naming.linkageName e.name) := fun e he =>
    isSpelt_linkageName (hdefinition.enumerators e he)
  rw [hpieces, List.append_assoc, List.append_assoc,
    declared_open (by decide) hsnake, declared_constants hfront hnames, declared_close,
    declaredVariants]
  rfl

theorem declared_variants (rest : List String) :
    declared .enumeration (codeTokens (variants s category) ++ rest)
      = ((s.definitions category).filter Definition.isEnum).flatMap declaredVariants
        ++ declared .enumeration rest := by
  have hmem : ∀ d ∈ (s.definitions category).filter Definition.isEnum,
      d ∈ s.definitions category := fun d hd => (List.mem_filter.1 hd).1
  rw [variants]
  generalize (s.definitions category).filter Definition.isEnum = ds at hmem
  induction ds with
  | nil => rfl
  | cons d ds ih =>
    obtain ⟨hd, hds⟩ := List.forall_mem_cons.1 hmem
    rw [List.flatMap_cons, codeTokens_append, List.append_assoc, declared_variantPieces hs hd,
      ih hds, List.flatMap_cons, List.append_assoc]

end

theorem declared_headerEnum (category : Category) (rest : List String) :
    declared .enumeration (codeTokens [.code ("enum " ++ category.headerEnum ++ " \x7b")] ++ rest)
      = .tag category.headerEnum :: declared .constant rest := by
  have hfront : isAsciiName category.headerEnum.toList = true := by
    cases category <;> decide
  have hempty : IsSpelt "" := ⟨[], List.forall_mem_nil _, Or.inl rfl⟩
  have hspelled : spelled "" = "" := rfl
  have hline := declared_open hfront hempty rest
  rwa [hspelled, String.append_empty] at hline

theorem codeTokens_opening (v : Version) : codeTokens (opening v).tail
    = codeTokens [.code ("enum " ++ Category.controls.headerEnum ++ " \x7b")] := by
  have hguard : lineCode ("#ifndef " ++ guard) = [] ∧ lineCode ("#define " ++ guard) = [] := by
    decide
  have hdefine {front : String} (h : front.toList.take 2 = ['#', 'd'] ∧ '\n' ∉ front.toList)
      (n : Nat) (ps : List Piece) :
      codeTokens (.code (front ++ digitsText n) :: ps) = codeTokens ps := by
    rw [codeTokens_cons, codeTokens_code, lineCode_define h.1 h.2, List.nil_append]
  rw [opening, preamble, List.cons_append, List.tail_cons]
  simp only [List.cons_append, List.nil_append]
  rw [codeTokens_cons, codeTokens_code, hguard.1, List.nil_append, codeTokens_cons,
    codeTokens_code, hguard.2, List.nil_append, codeTokens_empty, hdefine (by decide),
    hdefine (by decide), hdefine (by decide), codeTokens_empty]

/-- What is written is what a reader finds. -/
theorem declarations_text {s : Snapshot} (hs : s.Accepted) (hversion : s.version.IsWritten) :
    declarations (text s) = some (Category.all.flatMap (declaredIdentifiers s)
      ++ (enumerations s).flatMap declaredVariants) := by
  have hplain : plainTokens ((codeLines s).flatMap (fun line => lineTokens line.toList)
      ++ [["#", "endif"]]) = codeTokens (middle s) := by
    rw [plainTokens_append, plainTokens_flatMap]
    exact List.append_nil _
  have hend : declared .enumeration (codeTokens [.code ""]) = [] := by
    rw [codeTokens_empty]
    rfl
  rw [declarations, tokens_text hs hversion, Option.map_some, hplain, middle]
  simp only [codeTokens_append, List.append_assoc]
  rw [codeTokens_opening, declared_headerEnum, declared_identifiers hs, codeTokens_empty,
    declared_headerEnum, declared_identifiers hs, declared_variants hs, declared_variants hs, hend]
  simp only [Category.all, enumerations, declaredIdentifiers, List.flatMap_cons, List.flatMap_nil,
    List.flatMap_append, List.append_nil, List.append_assoc, List.cons_append]

/-! ## Names that are declared once -/

/-- The enumerators of all enumerations. -/
def enumerators (s : Snapshot) : List Enumerator := (enumerations s).flatMap (·.enumerators)

theorem tags_declaredVariants (ds : List Definition) :
    tags (ds.flatMap declaredVariants) = ds.map fun d => "libcamera_" ++ spelled d.snakeName := by
  induction ds with
  | nil => rfl
  | cons d ds ih => rw [List.flatMap_cons, declaredVariants, tags_cons_tag, ih, List.map_cons]

theorem constants_declaredVariants (ds : List Definition) :
    constants (ds.flatMap declaredVariants) = (ds.flatMap (·.enumerators)).map fun e =>
      "LIBCAMERA_" ++ spelled (Naming.linkageName e.name) := by
  induction ds with
  | nil => rfl
  | cons d ds ih =>
    rw [List.flatMap_cons, declaredVariants, constants_cons_tag, ih, List.flatMap_cons,
      List.map_append]

/-- The tags of a header. -/
theorem tags_declared (s : Snapshot) :
    tags (Category.all.flatMap (declaredIdentifiers s)
        ++ (enumerations s).flatMap declaredVariants)
      = "libcamera_control_id" :: "libcamera_property_id"
        :: (enumerations s).map fun d => "libcamera_" ++ spelled d.snakeName := by
  simp only [Category.all, List.flatMap_cons, List.flatMap_nil, List.append_nil, List.append_assoc,
    declaredIdentifiers]
  rw [tags_cons_tag, tags_cons_tag, tags_declaredVariants]
  rfl

/-- The constants of a header. -/
theorem constants_declared (s : Snapshot) :
    constants (Category.all.flatMap (declaredIdentifiers s)
        ++ (enumerations s).flatMap declaredVariants)
      = (s.controls.map fun d => "LIBCAMERA_CONTROL_ID_" ++ spelled d.linkageName)
        ++ ((s.properties.map fun d => "LIBCAMERA_PROPERTY_ID_" ++ spelled d.linkageName)
          ++ (enumerators s).map fun e => "LIBCAMERA_" ++ spelled (Naming.linkageName e.name)) := by
  simp only [Category.all, List.flatMap_cons, List.flatMap_nil, List.append_nil, List.append_assoc,
    declaredIdentifiers]
  rw [constants_cons_tag, constants_cons_tag, constants_declaredVariants]
  rfl

theorem nodup_map_front_iff {α : Type} (front : String) (name : α → String) (items : List α) :
    (items.map fun a => front ++ name a).Nodup ↔ (items.map name).Nodup := by
  have hinj : Function.Injective (front ++ ·) := fun _ _ h => (String.append_right_inj front).1 h
  have hmap : (items.map fun a => front ++ name a) = (items.map name).map (front ++ ·) :=
    List.map_map.symm
  rw [hmap, List.nodup_map_iff hinj]

/-- A control's constant is never a property's. -/
theorem control_ne_property (name other : String) :
    "LIBCAMERA_CONTROL_ID_" ++ name ≠ "LIBCAMERA_PROPERTY_ID_" ++ other := by
  intro heq
  have hchars := congrArg (fun t => t.toList.take 11) heq
  have hcontrol : 11 ≤ "LIBCAMERA_CONTROL_ID_".toList.length := by decide
  have hproperty : 11 ≤ "LIBCAMERA_PROPERTY_ID_".toList.length := by decide
  simp only [String.toList_append, List.take_append_of_le_length hcontrol,
    List.take_append_of_le_length hproperty] at hchars
  exact absurd hchars (by decide)

theorem nodup_constants_iff (s : Snapshot) :
    ((s.controls.map fun d => "LIBCAMERA_CONTROL_ID_" ++ spelled d.linkageName)
      ++ ((s.properties.map fun d => "LIBCAMERA_PROPERTY_ID_" ++ spelled d.linkageName)
        ++ (enumerators s).map fun e =>
          "LIBCAMERA_" ++ spelled (Naming.linkageName e.name))).Nodup ↔
      (∀ category, ((s.definitions category).map fun d => spelled d.linkageName).Nodup) ∧
      ((enumerators s).map fun e => spelled (Naming.linkageName e.name)).Nodup ∧
      ∀ category, ∀ d ∈ s.definitions category, ∀ e ∈ enumerators s,
        category.headerPrefix ++ spelled d.linkageName
          ≠ "LIBCAMERA_" ++ spelled (Naming.linkageName e.name) := by
  simp only [List.nodup_append, List.mem_append, nodup_map_front_iff, List.forall_mem_map, or_imp,
    forall_and]
  constructor
  · rintro ⟨hcontrols, ⟨hproperties, henumerators, hproperty⟩, -, hcontrol⟩
    refine ⟨fun category => ?_, henumerators, fun category => ?_⟩
    · cases category with
      | controls => exact hcontrols
      | properties => exact hproperties
    · cases category with
      | controls => exact hcontrol
      | properties => exact hproperty
  · rintro ⟨hnames, henumerators, hapart⟩
    exact ⟨hnames .controls, ⟨hnames .properties, henumerators, hapart .properties⟩,
      fun _ _ _ _ => control_ne_property _ _, hapart .controls⟩

theorem nodup_tags_iff (ds : List Definition) :
    ("libcamera_control_id" :: "libcamera_property_id"
        :: ds.map fun d => "libcamera_" ++ spelled d.snakeName).Nodup ↔
      (ds.map fun d => spelled d.snakeName).Nodup ∧
      ∀ d ∈ ds, spelled d.snakeName ≠ "control_id" ∧ spelled d.snakeName ≠ "property_id" := by
  have hcontrol : "libcamera_control_id" = "libcamera_" ++ "control_id" := by decide
  have hproperty : "libcamera_property_id" = "libcamera_" ++ "property_id" := by decide
  have hdifferent : "libcamera_control_id" ≠ "libcamera_property_id" := by decide
  simp only [List.nodup_cons, List.mem_cons, nodup_map_front_iff, not_or, hdifferent]
  rw [hcontrol, hproperty]
  simp only [List.mem_map, String.append_right_inj, not_exists, not_and]
  constructor
  · rintro ⟨⟨-, hcontrols⟩, hproperties, hnodup⟩
    exact ⟨hnodup, fun d hd => ⟨hcontrols d hd, hproperties d hd⟩⟩
  · rintro ⟨hnodup, hapart⟩
    exact ⟨⟨not_false, fun d hd => (hapart d hd).1⟩, fun d hd => (hapart d hd).2, hnodup⟩

/-- A header declares no constant twice exactly when the definitions of a category
have constants of their own, so have the enumerators of all enumerations, and no
enumerator has the constant of a definition; and no tag twice exactly when the
enumerations have snake case names of their own, none of which is the one of the
identifiers. -/
theorem declares_once_iff {s : Snapshot} (hs : s.Accepted) (hversion : s.version.IsWritten) :
    ∃ found, declarations (text s) = some found ∧
      ((constants found).Nodup ↔
        (∀ category, ((s.definitions category).map fun d => spelled d.linkageName).Nodup) ∧
        ((enumerators s).map fun e => spelled (Naming.linkageName e.name)).Nodup ∧
        ∀ category, ∀ d ∈ s.definitions category, ∀ e ∈ enumerators s,
          category.headerPrefix ++ spelled d.linkageName
            ≠ "LIBCAMERA_" ++ spelled (Naming.linkageName e.name)) ∧
      ((tags found).Nodup ↔
        ((enumerations s).map fun d => spelled d.snakeName).Nodup ∧
        ∀ d ∈ enumerations s,
          spelled d.snakeName ≠ "control_id" ∧ spelled d.snakeName ≠ "property_id") := by
  refine ⟨_, declarations_text hs hversion, ?_, ?_⟩
  · rw [constants_declared]
    exact nodup_constants_iff s
  · rw [tags_declared]
    exact nodup_tags_iff (enumerations s)

theorem declares_once_sample : Bindings.sample.Accepted ∧ Bindings.sample.version.IsWritten ∧
    ∃ found, declarations (text Bindings.sample) = some found ∧
      (constants found).Nodup ∧ (tags found).Nodup := by
  obtain ⟨found, hfound, hconstants, htags⟩ :=
    declares_once_iff Bindings.accepted_sample Bindings.isWritten_sample
  refine ⟨Bindings.accepted_sample, Bindings.isWritten_sample, found, hfound,
    hconstants.2 ⟨?_, by decide +kernel, ?_⟩, htags.2 (by decide +kernel)⟩
  · intro category
    cases category <;> decide +kernel
  · intro category
    cases category <;> decide +kernel

/-- Both controls are accepted, and the header declares their constant twice. -/
theorem declares_twice_collision :
    Snapshot.collision.Accepted ∧ Snapshot.collision.version.IsWritten ∧
    ∃ found, declarations (text Snapshot.collision) = some found ∧
      constants found = ["LIBCAMERA_CONTROL_ID_AE_ENABLE", "LIBCAMERA_CONTROL_ID_AE_ENABLE"] ∧
      ¬ (constants found).Nodup := by
  have hconstants : constants (Category.all.flatMap (declaredIdentifiers Snapshot.collision)
      ++ (enumerations Snapshot.collision).flatMap declaredVariants)
        = ["LIBCAMERA_CONTROL_ID_AE_ENABLE", "LIBCAMERA_CONTROL_ID_AE_ENABLE"] := by decide +kernel
  have hversion : Snapshot.collision.version.IsWritten := Version.isWritten_of_pre_eq_nil rfl
  refine ⟨Snapshot.accepted_collision, hversion, _,
    declarations_text Snapshot.accepted_collision hversion, hconstants, ?_⟩
  rw [hconstants]
  decide

end Header

end ControlSchema
