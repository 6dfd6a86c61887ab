import ControlSchema.Proofs.Bindings.Program
import ControlSchema.Proofs.Source.Page
import ControlSchema.Proofs.Source.Setting

/-!
# Descriptors and hints in source

The expression of a descriptor is always read back. A hint is not when one of
its dimensions is zero, for then its tuple has no types between the brackets,
nor when it has more dimensions than brackets may be nested.
-/

namespace ControlSchema

open Source Source.Expr Number Text

/-! ## Plain items -/

namespace Source.Item

theorem areArguments_plain (es : List Expr) :
    ((es.map plain).all isArgument && inOrder (es.map plain)) = true := by
  rw [Bool.and_eq_true]
  induction es with
  | nil => exact ⟨rfl, rfl⟩
  | cons e es ih => exact ⟨by rw [List.map_cons, List.all_cons, ih.1]; rfl, ih.2⟩

end Source.Item

namespace Layout

theorem items_plain {tss : List (List Token)} {es : List Expr}
    (h : List.Forall₂ Phrase tss es) :
    Items ([.symbol ","].intercalate tss) (es.map .plain) false := by
  refine Items.spread ?_
  rw [List.forall₂_map_right_iff]
  exact h.imp fun _ _ => Phrase.item

/-! ## Descriptors -/

def typesTokens (name : String) : List Token := [.word "_types", .symbol ".", .word name]

theorem primary_types (name : String) (hname : Naming.isKeyword name = false) :
    Primary (typesTokens name) (.attribute (.name "_types") name) :=
  (Primary.name (w := "_types") rfl).member hname

theorem setting_types {name : String} (hname : isAsciiName name.toList = true) :
    Setting (typesTokens name) ("_types".toList ++ '.' :: name.toList) 0 :=
  (@Setting.word "_types" (by decide)).member rfl hname

def numberTokens (dims : List Nat) : List Token :=
  [.symbol ","].intercalate (dims.map fun n => [.number (digitsText n)])

def makerTokens (form : String) : List Token :=
  typesTokens "Dimensionality" ++ [.symbol ".", .word form]

def shapeTokens (shape : Shape) : List Token :=
  match shape with
  | .scalar => makerTokens "scalar" ++ [.symbol "(", .symbol ")"]
  | .variable => makerTokens "variable" ++ [.symbol "(", .symbol ")"]
  | .fixed dims => makerTokens "fixed" ++ .symbol "(" :: numberTokens dims ++ [.symbol ")"]

theorem phrase_shape (shape : Shape) : Phrase (shapeTokens shape) (shapeExpr shape) := by
  have hmaker (form : String) (hform : Naming.isKeyword form = false) :
      Primary (makerTokens form) (shapeMaker form) :=
    (primary_types "Dimensionality" rfl).member hform
  rcases shape with _ | dims | _
  · exact ((hmaker "scalar" rfl).call Items.nil rfl).phrase
  · have hphrases : List.Forall₂ Phrase (dims.map fun n => [.number (digitsText n)])
        (dims.map .number) := by
      rw [List.forall₂_map_left_iff, List.forall₂_map_right_iff, List.forall₂_same]
      exact fun n _ => Phrase.number (ofNumber?_digitsText n)
    have hcall := (hmaker "fixed" rfl).call (items_plain hphrases) (Item.areArguments_plain _)
    rw [List.map_map] at hcall
    exact hcall.phrase
  · exact ((hmaker "variable" rfl).call Items.nil rfl).phrase

theorem setting_shape (shape : Shape) :
    Setting (shapeTokens shape) (shape.source "_types.").toList 1 := by
  have hmaker (form : String) (hform : isAsciiName form.toList = true) :
      Setting (makerTokens form) ("_types.Dimensionality.".toList ++ form.toList) 0 :=
    (@setting_types "Dimensionality" (by decide)).member rfl hform
  rcases shape with _ | dims | _
  · exact (hmaker "scalar" (by decide)).empty .round
  · by_cases hdims : dims = []
    · subst hdims
      exact (hmaker "fixed" (by decide)).empty .round
    · have hsettings : List.Forall₂ (Setting · · 0) (dims.map fun n => [.number (digitsText n)])
          ((dims.map digitsText).map String.toList) := by
        rw [List.map_map, List.forall₂_map_left_iff, List.forall₂_map_right_iff,
          List.forall₂_same]
        exact fun n _ => Setting.number n
      have hnumbers := Setting.spread (by simpa using hdims) hsettings
      have hbracket := (hmaker "fixed" (by decide)).bracket .round hnumbers
      have hspelled : (Shape.source "_types." (.fixed dims)).toList
          = "_types.Dimensionality.".toList ++ "fixed".toList ++ "(".toList
            ++ [',', ' '].intercalate ((dims.map digitsText).map String.toList)
            ++ ")".toList := by
        rw [Shape.source, String.toList_append, String.toList_append, String.toList_append,
          String.toList_intercalate]
        rfl
      rw [hspelled]
      exact hbracket
  · exact (hmaker "variable" (by decide)).empty .round

def descriptorTokens (d : Descriptor) : List Token :=
  typesTokens "TypeDescriptor" ++ .symbol "("
    :: (typesTokens "ControlType" ++ [.symbol ".", .word d.kind.constant] ++ .symbol ","
      :: shapeTokens d.shape) ++ [.symbol ")"]

theorem phrase_descriptor (d : Descriptor) :
    Phrase (descriptorTokens d) (descriptorExpr d) := by
  have hkind : Naming.isKeyword d.kind.constant = false := by cases d.kind <;> rfl
  have htype := (primary_types "ControlType" rfl).member hkind
  exact ((primary_types "TypeDescriptor" rfl).call
    (Items.cons htype.phrase.item (Items.one (phrase_shape d.shape).item)) rfl).phrase

theorem setting_descriptor (d : Descriptor) :
    Setting (descriptorTokens d) (d.source "_types.").toList 2 := by
  have hkind : isAsciiName d.kind.constant.toList = true := by cases d.kind <;> decide
  have htype := (@setting_types "ControlType" (by decide)).member rfl hkind
  have hbracket := (@setting_types "TypeDescriptor" (by decide)).bracket .round
    (htype.comma (setting_shape d.shape))
  have hspelled : (d.source "_types.").toList
      = "_types.TypeDescriptor".toList ++ "(".toList
        ++ ("_types.ControlType.".toList ++ d.kind.constant.toList ++ ',' :: ' '
          :: (d.shape.source "_types.").toList) ++ ")".toList := by
    rw [Descriptor.source]
    simp
  rw [hspelled]
  exact hbracket

/-! ## Tuples -/

/-- What stands between the brackets of a tuple. -/
def tupleParts (dim : Nat) (inner : List Token) : List (List Token) :=
  if dim ≤ 4 then List.replicate dim inner else [inner, [.symbol "..."]]

def tupleTokens (dim : Nat) (inner : List Token) : List Token :=
  [.word "tuple"] ++ .symbol "[" :: [.symbol ","].intercalate (tupleParts dim inner)
    ++ [.symbol "]"]

theorem primary_tuple {dim : Nat} (hdim : 0 < dim) {inner : List Token} {e : Expr}
    (h : Primary inner e) : Primary (tupleTokens dim inner) (tupleExpr dim e) := by
  have hparts : ∃ es, List.Forall₂ Phrase (tupleParts dim inner) es ∧ es ≠ [] ∧
      ofParenthesis? (es.map .plain) false = some (if dim = 1 then e
        else if dim ≤ 4 then .tuple (List.replicate dim (.plain e))
        else .tuple [.plain e, .plain (.constant "...")]) := by
    rw [tupleParts]
    by_cases hshort : dim ≤ 4
    · refine ⟨List.replicate dim e, ?_, by simp; omega, ?_⟩
      · rw [if_pos hshort]
        exact List.forall₂_iff_get.2 ⟨by simp, fun i _ _ => by simpa using h.phrase⟩
      · rw [if_pos hshort, List.map_replicate]
        obtain rfl | rfl | rfl | rfl : dim = 1 ∨ dim = 2 ∨ dim = 3 ∨ dim = 4 := by omega
        all_goals rfl
    · refine ⟨[e, .constant "..."], ?_, List.cons_ne_nil _ _, ?_⟩
      · rw [if_neg hshort]
        exact .cons h.phrase (.cons Primary.ellipsis.phrase .nil)
      · rw [if_neg (by omega), if_neg hshort]
        rfl
  obtain ⟨es, hphrases, hne, hindex⟩ := hparts
  exact (Primary.name (w := "tuple") rfl).subscript (items_plain hphrases) (by simpa using hne)
    hindex

theorem setting_tuple (dim : Nat) {inner : List Token} {s : String} {a : Nat}
    (h : Setting inner s.toList a) : ∃ b, Setting (tupleTokens dim inner)
      (Descriptor.tupleHint dim s).toList b ∧ (0 < dim → b = a + 1) := by
  have htuple := @Setting.word "tuple" (by decide)
  have hspelled (css : List String) : ("tuple[" ++ ", ".intercalate css ++ "]").toList
      = "tuple".toList ++ "[".toList ++ [',', ' '].intercalate (css.map String.toList)
        ++ "]".toList := by
    rw [String.toList_append, String.toList_append, String.toList_intercalate]
    rfl
  by_cases hshort : dim ≤ 4
  · rw [tupleTokens, tupleParts, if_pos hshort, Descriptor.tupleHint, if_pos hshort, hspelled,
      List.map_replicate]
    by_cases hdim : dim = 0
    · subst hdim
      exact ⟨1, htuple.empty .square, fun h => absurd h (Nat.lt_irrefl 0)⟩
    · have hinner := Setting.spread (a := a) (by simpa using hdim)
        (List.forall₂_iff_get.2 ⟨by simp, fun i _ _ => by simpa using h⟩ :
          List.Forall₂ (Setting · · a) (List.replicate dim inner) (List.replicate dim s.toList))
      exact ⟨a + 1, by simpa using htuple.bracket .square hinner, fun _ => rfl⟩
  · have hlong := htuple.bracket .square (h.comma Setting.ellipsis)
    rw [tupleTokens, tupleParts, if_neg hshort, Descriptor.tupleHint, if_neg hshort]
    refine ⟨a + 1, ?_, fun _ => rfl⟩
    have hlast : ("tuple[" ++ s ++ ", ...]").toList = "tuple".toList ++ "[".toList
        ++ (s.toList ++ ',' :: ' ' :: ['.', '.', '.']) ++ "]".toList := by
      simp
    rw [hlast]
    simpa using hlong

/-- A tuple that cannot be read, at the beginning of some tokens. -/
def IsUnread (ts : List Token) : Prop :=
  ∃ us, ts = .word "tuple" :: .symbol "[" :: us ∧ ∀ fuel rest, read? fuel (ts ++ rest) = none

theorem isUnread_tuple {dim : Nat} {inner : List Token} (h : dim = 0 ∨ IsUnread inner) :
    IsUnread (tupleTokens dim inner) := by
  refine ⟨_, rfl, fun fuel rest => ?_⟩
  rw [tupleTokens, List.append_assoc, List.append_assoc, List.singleton_append, List.cons_append]
  refine read?_subscript_none rfl (fun fuel items comma more hitems => ?_) fuel
  by_cases hdim : dim = 0
  · -- nothing between the brackets
    subst hdim
    cases fuel with
    | zero =>
      rw [items?] at hitems
      cases hitems
    | succ fuel =>
      rw [tupleParts, if_pos (by decide), List.replicate_zero, List.intercalate_nil,
        List.nil_append, List.singleton_append, items?, if_pos rfl] at hitems
      cases hitems
      rfl
  · obtain ⟨us, rfl, hread⟩ := h.resolve_left hdim
    obtain ⟨others, hparts⟩ : ∃ others, [Token.symbol ","].intercalate
        (tupleParts dim (.word "tuple" :: .symbol "[" :: us))
        = .word "tuple" :: .symbol "[" :: us ++ others := by
      rw [tupleParts]
      split
      · obtain ⟨k, rfl⟩ : ∃ k, dim = k + 1 := ⟨dim - 1, by omega⟩
        rw [List.replicate_succ]
        cases k with
        | zero => exact ⟨[], by simp⟩
        | succ k =>
          rw [List.replicate_succ, List.intercalate_cons_cons, List.append_assoc]
          exact ⟨_, rfl⟩
      · exact ⟨_, List.intercalate_cons_cons.trans (List.append_assoc _ _ _)⟩
    rw [hparts, List.append_assoc, List.cons_append, List.cons_append,
      items?_subscript_none fun fuel => by simpa using hread fuel _] at hitems
    cases hitems

/-! ## Nested tuples -/

def tuplesTokens (dims : List Nat) (inner : List Token) : List Token :=
  dims.foldl (fun ts dim => tupleTokens dim ts) inner

theorem primary_tuples {dims : List Nat} (hdims : ∀ dim ∈ dims, 0 < dim) {inner : List Token}
    {e : Expr} (h : Primary inner e) :
    Primary (tuplesTokens dims inner) (dims.foldl (fun hint dim => tupleExpr dim hint) e) := by
  induction dims generalizing inner e with
  | nil => exact h
  | cons dim dims ih =>
    exact ih (fun d hd => hdims d (List.mem_cons_of_mem dim hd))
      (primary_tuple (hdims dim List.mem_cons_self) h)

theorem setting_tuples (dims : List Nat) {inner : List Token} {s : String} {a : Nat}
    (h : Setting inner s.toList a) : ∃ b, Setting (tuplesTokens dims inner)
      (dims.foldl (fun hint dim => Descriptor.tupleHint dim hint) s).toList b ∧
      ((∀ dim ∈ dims, 0 < dim) → b = a + dims.length) := by
  induction dims generalizing inner s a with
  | nil => exact ⟨a, h, fun _ => rfl⟩
  | cons dim dims ih =>
    obtain ⟨b, hb, hdepth⟩ := setting_tuple dim h
    obtain ⟨c, hc, hdepths⟩ := ih hb
    refine ⟨c, hc, fun hdims => ?_⟩
    rw [hdepths fun d hd => hdims d (List.mem_cons_of_mem dim hd),
      hdepth (hdims dim List.mem_cons_self), List.length_cons]
    omega

theorem isUnread_tuples {dims : List Nat} {inner : List Token}
    (h : (∃ dim ∈ dims, dim = 0) ∨ IsUnread inner) : IsUnread (tuplesTokens dims inner) := by
  induction dims generalizing inner with
  | nil =>
    rcases h with ⟨dim, hdim, -⟩ | h
    · cases hdim
    · exact h
  | cons dim dims ih =>
    refine ih ?_
    rcases h with ⟨d, hd, hzero⟩ | h
    · rcases List.mem_cons.1 hd with rfl | hd
      · exact Or.inr (isUnread_tuple (Or.inl hzero))
      · exact Or.inl ⟨d, hd, hzero⟩
    · exact Or.inr (isUnread_tuple (Or.inr h))

/-! ## Hints -/

def elementTokens (kind : ControlKind) : List Token := [.word (kind.elementType?.getD "None")]

theorem primary_element (kind : ControlKind) :
    Primary (elementTokens kind) (elementExpr kind) := by
  cases kind with
  | none => exact Primary.constant rfl
  | _ => exact Primary.name rfl

theorem setting_element (kind : ControlKind) :
    Setting (elementTokens kind) (kind.elementType?.getD "None").toList 0 :=
  Setting.word (by cases kind <;> decide)

def hintTokens (d : Descriptor) : List Token :=
  match d.kind, d.shape with
  | .string, _ => elementTokens d.kind
  | _, .scalar => elementTokens d.kind
  | _, .variable => [.word "list"] ++ .symbol "[" :: elementTokens d.kind ++ [.symbol "]"]
  | _, .fixed dims => tuplesTokens dims (elementTokens d.kind)

/-- Tokens of a hint, of which the answer says whether they can be read. -/
def IsHint (ts : List Token) (hint : String) (e : Expr) (readable : Bool) : Prop :=
  ∃ b, Setting ts hint.toList b ∧
    if readable then b ≤ Line.nestingLimit ∧ Phrase ts e
    else Line.nestingLimit < b ∨ ∀ fuel, read? fuel ts = none

theorem isHint_element (kind : ControlKind) : IsHint (elementTokens kind)
    (kind.elementType?.getD "None") (elementExpr kind) true :=
  ⟨0, setting_element kind, Nat.zero_le _, (primary_element kind).phrase⟩

theorem isHint_list (kind : ControlKind) :
    IsHint ([.word "list"] ++ .symbol "[" :: elementTokens kind ++ [.symbol "]"])
      ("list[" ++ kind.elementType?.getD "None" ++ "]")
      (.subscript (.name "list") (elementExpr kind)) true := by
  refine ⟨1, ?_, by decide, ((Primary.name (w := "list") rfl).subscript
    (Items.one (primary_element kind).phrase.item) (List.cons_ne_nil _ _) rfl).phrase⟩
  have hbracket := (@Setting.word "list" (by decide)).bracket .square (setting_element kind)
  rw [String.toList_append, String.toList_append]
  exact hbracket

theorem isHint_tuples (kind : ControlKind) (dims : List Nat) :
    IsHint (tuplesTokens dims (elementTokens kind))
      (dims.foldl (fun hint dim => Descriptor.tupleHint dim hint) (kind.elementType?.getD "None"))
      (dims.foldl (fun hint dim => tupleExpr dim hint) (elementExpr kind))
      (dims.all (0 < ·) && decide (dims.length ≤ Line.nestingLimit)) := by
  obtain ⟨b, hsetting, hdepth⟩ := setting_tuples dims (setting_element kind)
  refine ⟨b, hsetting, ?_⟩
  by_cases hdims : ∀ dim ∈ dims, 0 < dim
  · have hall : dims.all (0 < ·) = true := by simpa using hdims
    rw [hdepth hdims, Nat.zero_add, hall, Bool.true_and]
    by_cases hshort : dims.length ≤ Line.nestingLimit
    · rw [decide_eq_true hshort, if_pos rfl]
      exact ⟨hshort, (primary_tuples hdims (primary_element kind)).phrase⟩
    · rw [decide_eq_false hshort, if_neg Bool.false_ne_true]
      exact Or.inl (Nat.lt_of_not_le hshort)
  · have hall : dims.all (0 < ·) = false := by
      rw [← Bool.not_eq_true]
      simpa using hdims
    rw [hall, Bool.false_and, if_neg Bool.false_ne_true]
    have hzero : ∃ dim ∈ dims, dim = 0 := by simpa using hdims
    obtain ⟨us, -, hread⟩ := @isUnread_tuples dims (elementTokens kind) (Or.inl hzero)
    exact Or.inr fun fuel => by simpa using hread fuel []

theorem isHint_hint (d : Descriptor) :
    IsHint (hintTokens d) d.hint (hintExpr d) d.hasReadableHint := by
  obtain ⟨kind, shape⟩ := d
  rcases shape with _ | dims | _ <;> cases kind <;> first
    | exact isHint_element _
    | exact isHint_list _
    | exact isHint_tuples _ dims

end Layout

end ControlSchema
