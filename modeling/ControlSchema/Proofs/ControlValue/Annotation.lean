import ControlSchema.Proofs.Bindings.Hint
import ControlSchema.Proofs.ControlValue.Grid

/-!
# Types of extracted data

The hint of a descriptor is the text of a type. Here the text is read as source
is read anywhere else, and the expression that it turns out to be is taken as a
type: a name stands for the data of one sort, and subscripts of lists and tuples
for data made of others. Whatever is extracted for a descriptor has the type of
its hint.

Hint and grid are both built from the innermost dimension outwards. The
induction is on the dimensions and about whatever stands inside: after the first
step, tuples of elements are the elements, and their type is the element type.
-/

namespace ControlSchema

open Source

/-! ## Types -/

namespace Datum

/-- The datum has the type that an expression stands for. A tuple has the type of each of its
items, or one type for any number of them. -/
inductive HasType : Datum → Expr → Prop
  | null : HasType .null (.constant "None")
  | truth (b : Bool) : HasType (.bool b) (.name "bool")
  | int (n : Int) : HasType (.int n) (.name "int")
  | float (x : Number.Double) : HasType (.float x) (.name "float")
  | text (s : String) : HasType (.text s) (.name "str")
  | rectangle (x y width height : Int) :
    HasType (.rectangle (.int x) (.int y) (.int width) (.int height)) (.name "Rectangle")
  | size (width height : Int) : HasType (.size (.int width) (.int height)) (.name "Size")
  | point (x y : Int) : HasType (.point (.int x) (.int y)) (.name "Point")
  | list {items : List Datum} {type : Expr} (h : ∀ x ∈ items, HasType x type) :
    HasType (.list items) (.subscript (.name "list") type)
  | single {item : Datum} {type : Expr} (h : HasType item type) :
    HasType (.tuple [item]) (.subscript (.name "tuple") type)
  | each {items : List Datum} {types : List Expr} (h : List.Forall₂ HasType items types) :
    HasType (.tuple items) (.subscript (.name "tuple") (.tuple (types.map .plain)))
  | any {items : List Datum} {type : Expr} (h : ∀ x ∈ items, HasType x type) :
    HasType (.tuple items)
      (.subscript (.name "tuple") (.tuple [.plain type, .plain (.constant "...")]))

/-- Tuples of the length of a dimension have the type that is written for it. -/
theorem hasType_tupleExpr {items : List Datum} {type : Expr} {dim : Nat}
    (hlength : items.length = dim) (h : ∀ x ∈ items, x.HasType type) :
    (Datum.tuple items).HasType (Layout.tupleExpr dim type) := by
  rw [Layout.tupleExpr]
  by_cases hone : dim = 1
  · obtain ⟨item, rfl⟩ := List.length_eq_one_iff.1 (hlength.trans hone)
    rw [if_pos hone]
    exact .single (h item (List.mem_singleton_self item))
  · rw [if_neg hone]
    by_cases hshort : dim ≤ 4
    · rw [if_pos hshort, ← List.map_replicate]
      refine .each (List.forall₂_iff_get.2 ⟨by simpa using hlength, fun i hi hi' => ?_⟩)
      simpa using h _ (List.getElem_mem hi)
    · rw [if_neg hshort]
      exact .any h

/-- The type of a grid, whatever it is made of. -/
theorem IsGrid.hasType {leaf : Datum → Prop} {type : Expr} (hleaf : ∀ x, leaf x → x.HasType type)
    {dims : List Nat} {grid : Datum} (h : grid.IsGrid leaf dims.reverse) :
    grid.HasType (dims.foldl (fun inner dim => Layout.tupleExpr dim inner) type) := by
  induction dims generalizing leaf type with
  | nil => exact hleaf grid h
  | cons dim dims ih =>
    rw [List.reverse_cons, isGrid_append] at h
    refine ih (fun row hrow => ?_) h
    obtain ⟨items, rfl, hlength, hitems⟩ := hrow
    exact hasType_tupleExpr hlength fun x hx => hleaf x (hitems x hx)

theorem hasType_toDatum {kind : ElementKind} (e : kind.Element) :
    (kind.toDatum e).HasType (Layout.elementExpr kind.kind) := by
  cases kind <;> constructor

end Datum

/-! ## Hints as texts -/

namespace Source

def Lexeme.token? : Lexeme → Option Token
  | .token t => some t
  | _ => none

/-- The expression that a text is when it stands on a line of its own. -/
def Expr.ofText? (text : String) : Option Expr := do
  let lexemes ← Lexeme.read? (text.toList ++ ['\n'])
  let (e, rest) ← Expr.front? (lexemes.filterMap Lexeme.token?)
  if rest.isEmpty then some e else none

theorem filterMap_typesetLexemes (ts : List Token) :
    (typesetLexemes ts).filterMap Lexeme.token? = ts := by
  induction ts with
  | nil => rfl
  | cons t more ih =>
    cases more with
    | nil => rfl
    | cons u more =>
      rw [typesetLexemes, List.filterMap_append, ih]
      split <;> rfl

theorem Expr.ofText?_of_setting {text : String} {ts : List Token} {e : Expr} {depth : Nat}
    (hsetting : Setting ts text.toList depth) (hphrase : Expr.Phrase ts e) :
    Expr.ofText? text = some e := by
  have hread : Lexeme.read? (text.toList ++ ['\n'])
      = some (typesetLexemes ts ++ [Lexeme.lineBreak]) := by
    rw [← hsetting.spelled, Lexeme.read?, readFrom_typeset hsetting.sound hsetting.joined]
    rfl
  have htokens : (typesetLexemes ts ++ [Lexeme.lineBreak]).filterMap Lexeme.token? = ts := by
    rw [List.filterMap_append, filterMap_typesetLexemes]
    exact List.append_nil ts
  have hfront := @Expr.front?_phrase ts [] e hphrase rfl
  rw [List.append_nil] at hfront
  rw [Expr.ofText?, hread]
  simp only [Option.bind_eq_bind, Option.bind_some, htokens, hfront]
  rfl

end Source

namespace Layout

theorem phrase_hint {d : Descriptor} (hpos : d.shape.IsPositive) :
    Expr.Phrase (hintTokens d) (hintExpr d) := by
  obtain ⟨kind, shape⟩ := d
  have helement := (primary_element kind).phrase
  have hlist := ((Expr.Primary.name (w := "list") rfl).subscript
    (Expr.Items.one helement.item) (List.cons_ne_nil _ _) rfl).phrase
  cases kind with
  | string => exact helement
  | _ =>
    cases shape with
    | scalar => exact helement
    | «variable» => exact hlist
    | fixed dims => exact (primary_tuples hpos (primary_element _)).phrase

/-- The hint is the text of the expression that stands for it, however many dimensions there
are. -/
theorem ofText?_hint {d : Descriptor} (hpos : d.shape.IsPositive) :
    Expr.ofText? d.hint = some (hintExpr d) := by
  obtain ⟨depth, hsetting, -⟩ := isHint_hint d
  exact Expr.ofText?_of_setting hsetting (phrase_hint hpos)

theorem hintExpr_element (kind : ElementKind) (shape : Shape) :
    hintExpr ⟨kind.kind, shape⟩ = match shape with
      | .scalar => elementExpr kind.kind
      | .variable => .subscript (.name "list") (elementExpr kind.kind)
      | .fixed dims =>
        dims.foldl (fun inner dim => tupleExpr dim inner) (elementExpr kind.kind) := by
  cases shape <;> cases kind <;> rfl

end Layout

/-! ## Extracted data -/

namespace ControlValue

section

variable {kind : ElementKind} {elements : List kind.Element} {x : Datum}

theorem hasType_of_mem_items (hx : x ∈ (ControlValue.array kind elements).items) :
    x.HasType (Layout.elementExpr kind.kind) := by
  obtain ⟨e, -, rfl⟩ := List.mem_map.1 hx
  exact Datum.hasType_toDatum e

/-- One element has the element type, a list is one of it, and a grid has tuples of it within
tuples. -/
theorem hasType_of_extract_array {shape : Shape} (hpos : shape.IsPositive)
    (h : (ControlValue.array kind elements).extract ⟨kind.kind, shape⟩ = .ok x) :
    x.HasType (Layout.hintExpr ⟨kind.kind, shape⟩) := by
  have hcount : ∀ n ∈ shape.elementCount?, elements.length = n := by
    intro n hn
    by_contra hne
    cases h.symm.trans (extract_array_of_not_count hn hne)
  rw [Layout.hintExpr_element]
  cases shape with
  | scalar =>
    obtain ⟨e, rfl⟩ := List.length_eq_one_iff.1 (hcount 1 rfl)
    rw [extract_scalar, @exactly_array kind [e] 1 rfl] at h
    cases h
    exact Datum.hasType_toDatum e
  | «variable» =>
    rw [extract_variable] at h
    cases h
    exact .list fun y hy => hasType_of_mem_items hy
  | fixed dims =>
    have hlength : elements.length = dims.prod := by
      rw [hcount _ rfl, Shape.volume_eq_prod]
    have hitems : (elements.map kind.toDatum).length = dims.prod := by
      rw [List.length_map, hlength]
    obtain ⟨grid, hgather, hgrid⟩ := @gatherAll_rowMajor dims hpos _ hitems
    rw [extract_fixed, exactly_array hlength] at h
    change (gatherAll _ _ >>= _) = _ at h
    rw [hgather] at h
    cases h
    exact hgrid.lengths.hasType fun y hy => hasType_of_mem_items hy

end

/-- What is extracted for a descriptor has the type that the descriptor's hint writes. -/
theorem hasType_of_extract {d : Descriptor} {size : Datum} (hsize : Shape.ofSize size = .ok d.shape)
    {value : ControlValue} {x : Datum} (h : value.extract d = .ok x) :
    ∃ type, Expr.ofText? d.hint = some type ∧ x.HasType type := by
  have hpos := Shape.isPositive_of_ofSize hsize
  refine ⟨Layout.hintExpr d, Layout.ofText?_hint hpos, ?_⟩
  have hkind : value.kind = d.kind := by
    by_contra hne
    cases h.symm.trans (extract_of_ne_kind hne)
  obtain ⟨kind, shape⟩ := d
  cases value with
  | string text =>
    cases hkind
    cases h
    exact .text text
  | array element elements =>
    obtain rfl : element.kind = kind := hkind
    exact hasType_of_extract_array hpos h
  | none =>
    cases hkind
    cases shape with
    | scalar => cases h
    | «variable» =>
      cases h
      exact .list nofun
    | fixed dims =>
      -- a grid has at least one element
      have hmatches : ¬ ControlValue.none.Matches ⟨.none, .fixed dims⟩ := fun hmatches =>
        (Shape.volume_pos hpos).ne (hmatches.count nofun _ rfl)
      obtain ⟨e, he, -⟩ := extract_of_not_matches hpos hmatches
      cases h.symm.trans he

/-- Ten switches are extracted as five pairs, and the hint says pairs, any number of them. -/
theorem hasType_of_extract_pairs :
    Shape.ofSize (.list [.int 2, .int 5]) = .ok (.fixed [2, 5]) ∧
    ∃ x, (ControlValue.array .bool (List.replicate 10 true)).extract ⟨.bool, .fixed [2, 5]⟩
        = .ok x ∧
      ∃ type, Expr.ofText? "tuple[tuple[bool, bool], ...]" = some type ∧ x.HasType type := by
  have hsize : Shape.ofSize (.list [.int 2, .int 5]) = .ok (.fixed [2, 5]) := rfl
  have hmatches : (ControlValue.array .bool (List.replicate 10 true)).Matches
      ⟨.bool, .fixed [2, 5]⟩ := by
    refine ⟨rfl, fun _ n hn => ?_⟩
    cases hn
    rfl
  obtain ⟨x, hx, -⟩ := extract_of_matches (Shape.isPositive_of_ofSize hsize) hmatches
  have hhint : (Descriptor.mk .bool (.fixed [2, 5])).hint = "tuple[tuple[bool, bool], ...]" := by
    decide
  have htype := hasType_of_extract hsize hx
  rw [hhint] at htype
  exact ⟨hsize, x, hx, htype⟩

end ControlValue

end ControlSchema
