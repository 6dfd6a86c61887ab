import ControlSchema.Bindings.Layout
import ControlSchema.Proofs.Source.Docstring
import ControlSchema.Source.Program

/-!
# The program of a generated module

The statements that generated source consists of, given directly and not by way
of its text. The text spreads members of one feature over as many guards as it
has runs of neighbours with that feature, so the runs are made explicit here.

Two things keep source from being read at all: a docstring that is not closed,
and a hint with a dimension of zero or with more dimensions than brackets may
be nested.
-/

namespace ControlSchema

open Source Number

namespace Layout

/-! ## Guards -/

/-- The question whether a feature is enabled. -/
def guardTest (feature : String) : Expr :=
  .call (.attribute (.name "_features") "enabled") [.plain (.text feature)]

/-- Statements under the guard of a feature, if there is one. -/
def guardStatements (feature : Option String) (body : List Statement) : List Statement :=
  match feature with
  | none => body
  | some feature => [.branch (guardTest feature) body []]

/-- The runs of neighbours with one feature. -/
def runs : List Definition → List (Definition × List Definition)
  | [] => []
  | d :: rest =>
    match runs rest with
    | (e, more) :: others =>
      if d.feature = e.feature then (d, e :: more) :: others else (d, []) :: (e, more) :: others
    | [] => [(d, [])]

theorem feature_of_mem_runs {ds : List Definition} {run : Definition × List Definition}
    (hrun : run ∈ runs ds) : ∀ e ∈ run.2, e.feature = run.1.feature := by
  induction ds generalizing run with
  | nil => cases hrun
  | cons d rest ih =>
    rw [runs] at hrun
    split at hrun
    · rename_i e more others hruns
      rw [hruns] at ih
      have hfirst := ih List.mem_cons_self
      split at hrun
      · rename_i hfeature
        rcases List.mem_cons.1 hrun with rfl | hrun
        · exact List.forall_mem_cons.2 ⟨hfeature.symm, fun x hx => by
            rw [hfirst x hx]
            exact hfeature.symm⟩
        · exact ih (List.mem_cons_of_mem _ hrun)
      · rcases List.mem_cons.1 hrun with rfl | hrun
        · exact fun x hx => absurd hx List.not_mem_nil
        · exact ih hrun
    · rw [List.mem_singleton.1 hrun]
      exact fun x hx => absurd hx List.not_mem_nil

theorem flatten_runs (ds : List Definition) :
    (runs ds).flatMap (fun run => run.1 :: run.2) = ds := by
  induction ds with
  | nil => rfl
  | cons d rest ih =>
    rw [runs]
    split
    · rename_i e more others hruns
      rw [hruns] at ih
      split <;> simpa using ih
    · rename_i hruns
      rw [hruns] at ih
      simpa using ih

/-! ## The preamble -/

def imports : List Statement := [
  .imported 0 ["__future__"] [("annotations", "annotations")],
  .imported 0 ["typing"] [("TYPE_CHECKING", "TYPE_CHECKING")],
  .imported 0 ["camctl", "core"] [("types", "_types")],
  .imported 0 ["camctl", "core", "versioning"] [("Version", "Version")],
  .imported 0 ["camctl", "runtime"] [("control", "_control")],
  .imported 0 ["camctl", "runtime"] [("features", "_features")],
  .imported 0 ["camctl", "runtime"] [("linked", "_linked")],
  .imported 0 ["camctl", "runtime", "registry"] [("DynRegistry", "DynRegistry")],
  .imported 0 ["camctl", "runtime", "value"] [("ControlValue", "ControlValue")],
  .branch (.name "TYPE_CHECKING") [.imported 0 ["camctl", "core", "geometry"]
    [("Point", "Point"), ("Rectangle", "Rectangle"), ("Size", "Size")]] []]

/-- What the docstring of the module holds. -/
def title (version : Version) (category : Category) : List Char :=
  ("Generated " ++ category.word ++ " catalogue for libcamera " ++ version.text
    ++ ".\n\nDo not edit: regenerate with ``camctl generate``.\n").toList

def constants (version : Version) (category : Category) : List Statement := [
  .assignment [.name "SNAPSHOT_VERSION"] (.call (.name "Version")
    [.plain (.number version.major), .plain (.number version.minor),
      .plain (.number version.patch)]),
  .assignment [.name "CATEGORY"] (.text category.word),
  .assignment [.name "_ids"] (.call (.attribute (.name "_linked") "linkage")
    [.plain (.name "CATEGORY")])]

def preambleStatements (version : Version) (category : Category) : List Statement :=
  .expression (.text (String.ofList (title version category))) :: imports
    ++ constants version category

/-! ## The catalogue -/

def memberStatement (d : Definition) : Statement :=
  .assignment [.name d.name] (.attribute (.name "_ids") d.linkageName)

/-- The members of a run under its guard. -/
def runStatements (run : Definition × List Definition) : List Statement :=
  guardStatements run.1.feature ((run.1 :: run.2).map memberStatement)

def catalogueTitle (category : Category) : String :=
  "Numeric ids of the " ++ category.word ++ " in this snapshot, as linked."

def catalogueStatement (category : Category) (definitions : List Definition) : Statement :=
  .classDefinition [] category.idClass
    [.plain (.attribute (.name "_control") "DiscriminantEnum")]
    (.expression (.text (catalogueTitle category)) :: (runs definitions).flatMap runStatements)

/-! ## Classes -/

def identifierExpr (category : Category) (d : Definition) : Expr :=
  .attribute (.name category.idClass) d.name

def shapeMaker (form : String) : Expr :=
  .attribute (.attribute (.name "_types") "Dimensionality") form

def shapeExpr : Shape → Expr
  | .scalar => .call (shapeMaker "scalar") []
  | .fixed dims => .call (shapeMaker "fixed") (dims.map fun n => .plain (.number n))
  | .variable => .call (shapeMaker "variable") []

def descriptorExpr (d : Descriptor) : Expr :=
  .call (.attribute (.name "_types") "TypeDescriptor")
    [.plain (.attribute (.attribute (.name "_types") "ControlType") d.kind.constant),
      .plain (shapeExpr d.shape)]

def tupleExpr (dim : Nat) (inner : Expr) : Expr :=
  .subscript (.name "tuple") <|
    if dim = 1 then inner
    else if dim ≤ 4 then .tuple (List.replicate dim (.plain inner))
    else .tuple [.plain inner, .plain (.constant "...")]

/-- The type of one element. -/
def elementExpr (kind : ControlKind) : Expr :=
  match kind.elementType? with
  | some type => .name type
  | none => .constant "None"

def hintExpr (d : Descriptor) : Expr :=
  match d.kind, d.shape with
  | .string, _ => elementExpr d.kind
  | _, .scalar => elementExpr d.kind
  | _, .variable => .subscript (.name "list") (elementExpr d.kind)
  | _, .fixed dims => dims.foldl (fun hint dim => tupleExpr dim hint) (elementExpr d.kind)

def valueExpr (n : Int) : Expr :=
  if n < 0 then .prefixed "-" (.number n.natAbs) else .number n.natAbs

def variantStatement (variant : Enumerator × String) : Statement :=
  .assignment [.name variant.2] (valueExpr variant.1.value)

def docStatements (margin description : String) : List Statement :=
  if (Docstring.rows margin description).isEmpty then []
  else [.expression (.text (Docstring.meaning margin description))]

def bodyStatements (margin : String) (d : Definition) : List Statement :=
  if d.isEnum then
    match docStatements margin d.description ++ d.variants.map variantStatement with
    | [] => [.nothing]
    | body => body
  else
    docStatements margin d.description ++ [.annotated (.name "value") (hintExpr d.descriptor) none]

def baseName (d : Definition) : String := if d.isEnum then "ControlEnum" else "ControlWrapper"

def classStatement (margin : String) (category : Category) (d : Definition) : Statement :=
  .classDefinition
    [.call (.attribute (.name "_control") "bind")
      [.plain (identifierExpr category d), .plain (descriptorExpr d.descriptor)]]
    d.name
    [.plain (.attribute (.name "_control") category.marker),
      .plain (.attribute (.name "_control") (baseName d))]
    (bodyStatements (margin ++ indent) d)

/-- The margin of a class, which its guard moves. -/
def classMargin (d : Definition) : String := if d.feature.isSome then indent else ""

def classStatements (category : Category) (d : Definition) : List Statement :=
  guardStatements d.feature [classStatement (classMargin d) category d]

/-! ## The dispatch table -/

def dispatchItem (category : Category) (d : Definition) : Item :=
  .entry (identifierExpr category d) (.name d.name)

/-- The display of the entries of one feature. -/
def display (category : Category) (definitions : List Definition) (feature : Option String) :
    Expr :=
  .dict ((definitions.filter (·.feature == feature)).map (dispatchItem category))

def tableHint : Expr :=
  .subscript (.name "dict") (.tuple [.plain (.name "int"),
    .plain (.subscript (.name "type") (.attribute (.name "_control") "ControlEntry"))])

def updateStatement (category : Category) (definitions : List Definition) (feature : String) :
    Statement :=
  .branch (guardTest feature) [.expression (.call (.attribute (.name "_DYN_TABLE") "update")
    [.plain (display category definitions (some feature))])] []

def dispatchStatements (category : Category) (definitions : List Definition) : List Statement :=
  .annotated (.name "_DYN_TABLE") tableHint (some (display category definitions none))
    :: (features definitions).map (updateStatement category definitions)

/-! ## The whole module -/

def closingTitle : String :=
  "Type-erased entry for ``id``; raises ControlNotFound or ControlValueError."

def closingStatements (category : Category) : List Statement := [
  .function [] "make_dyn" [⟨"id", some (.name "int")⟩, ⟨"value", some (.name "ControlValue")⟩]
    (some (.attribute (.name "_control") "DynControlEntry"))
    [.expression (.text closingTitle),
      .result (some (.call (.attribute (.name "_control") "make_dyn")
        [.plain (.name "_DYN_TABLE"), .plain (.name "id"), .plain (.name "value")]))],
  .assignment [.name "registry"] (.call (.name "DynRegistry")
    [.plain (.name "CATEGORY"), .plain (.name category.idClass), .plain (.name "make_dyn")])]

/-- The statements of the module for a category of a snapshot. -/
def program (s : Snapshot) (category : Category) : List Statement :=
  let definitions := s.definitions category
  preambleStatements s.version category
    ++ [catalogueStatement category definitions]
    ++ definitions.flatMap (classStatements category)
    ++ dispatchStatements category definitions
    ++ closingStatements category

end Layout

/-! ## Source that can be read -/

/-- Whether the hint of a descriptor can be read. -/
def Descriptor.hasReadableHint (d : Descriptor) : Bool :=
  match d.kind, d.shape with
  | .string, _ => true
  | _, .fixed dims => dims.all (0 < ·) && decide (dims.length ≤ Line.nestingLimit)
  | _, _ => true

/-- Whether the class of a definition can be read. -/
def Definition.isReadable (d : Definition) : Bool :=
  Docstring.isClosed d.description && (d.isEnum || d.descriptor.hasReadableHint)

end ControlSchema
