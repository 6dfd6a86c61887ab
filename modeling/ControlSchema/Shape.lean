import ControlSchema.Datum.Text
import ControlSchema.ControlKind

/-!
# Shapes and descriptors

A control holds one element, a fixed grid of elements, or a list of any length. The first dimension
of a grid is the innermost: elements lie row by row, and `[3, 2]` is two rows of three.

A descriptor is a kind with a shape. Texts are always single, whatever their shape says.
-/

namespace ControlSchema

inductive Shape where
  | scalar
  | fixed (dims : List Nat)
  | variable
deriving DecidableEq, Inhabited

/-- Why a size specification is not a shape. -/
inductive SizeFault where
  | notList
  | empty
  | notInteger (entry : Datum)
  | notPositive (entry : Int)
  | mixedDynamic

namespace SizeFault

def message : SizeFault → String
  | .notList => "expected a list of dimensions"
  | .empty => "array-like datatype with zero dimensions"
  | .notInteger entry => "dimension " ++ entry.shown ++ " is not an integer"
  | .notPositive entry => "dimension " ++ Number.intText entry ++ " is not positive"
  | .mixedDynamic => "dynamic length with more than 1 dimension is not supported"

end SizeFault

namespace Shape

def isScalar : Shape → Bool
  | .scalar => true
  | _ => false

def dims : Shape → List Nat
  | .fixed dims => dims
  | _ => []

def isDynamic : Shape → Bool
  | .variable => true
  | _ => false

/-- The number of elements of a grid. -/
def volume (dims : List Nat) : Nat := dims.foldl (· * ·) 1

/-- How many elements the shape holds, unless any number will do. -/
def elementCount? : Shape → Option Nat
  | .scalar => some 1
  | .fixed dims => some (volume dims)
  | .variable => none

/-! ## Size specifications -/

/-- An entry of a size specification: a dimension, or the mark of a variable length. -/
def readEntry (entry : Datum) : Except SizeFault (Option Nat) :=
  match entry with
  | .text s => if Text.lower (Text.strip s) == "n" then .ok none else .error (.notInteger entry)
  | .int i => if 0 < i then .ok (some i.toNat) else .error (.notPositive i)
  | _ => .error (.notInteger entry)

def ofEntries (entries : List Datum) : Except SizeFault Shape := do
  if entries.isEmpty then throw .empty
  let dims ← entries.mapM readEntry
  if dims.contains none then
    if 1 < entries.length then throw .mixedDynamic
    return .variable
  return .fixed (dims.filterMap id)

/-- The shape that a schema's size asks for; no size means one element. -/
def ofSize (size : Datum) : Except SizeFault Shape :=
  match size with
  | .null => .ok .scalar
  | .list entries | .tuple entries => ofEntries entries
  | _ => .error .notList

/-! ## Source text -/

/-- Whether no dimension is too long to be written. -/
def isWritable (shape : Shape) : Bool := shape.dims.all fun dim => Number.isWritable dim

/-- The expression that builds the shape, each name behind the given qualifier. -/
def source (qualifier : String) : Shape → String
  | .scalar => qualifier ++ "Dimensionality.scalar()"
  | .fixed dims =>
    qualifier ++ "Dimensionality.fixed(" ++ ", ".intercalate (dims.map Number.digitsText) ++ ")"
  | .variable => qualifier ++ "Dimensionality.variable()"

end Shape

structure Descriptor where
  kind : ControlKind
  shape : Shape
deriving DecidableEq, Inhabited

namespace Descriptor

/-- A tuple of the given type; long ones are abbreviated. -/
def tupleHint (dim : Nat) (inner : String) : String :=
  if dim ≤ 4 then "tuple[" ++ ", ".intercalate (List.replicate dim inner) ++ "]"
  else "tuple[" ++ inner ++ ", ...]"

/-- The type of the control's value in generated source. -/
def hint (d : Descriptor) : String :=
  let inner := d.kind.elementType?.getD "None"
  match d.kind, d.shape with
  | .string, _ => inner
  | _, .scalar => inner
  | _, .variable => "list[" ++ inner ++ "]"
  | _, .fixed dims => dims.foldl (fun hint dim => tupleHint dim hint) inner

/-- The expression that builds the descriptor, each name behind the given qualifier. -/
def source (qualifier : String) (d : Descriptor) : String :=
  qualifier ++ "TypeDescriptor(" ++ qualifier ++ "ControlType." ++ d.kind.constant ++ ", "
    ++ d.shape.source qualifier ++ ")"

end Descriptor

end ControlSchema
