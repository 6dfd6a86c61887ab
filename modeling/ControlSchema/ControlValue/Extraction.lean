import ControlSchema.ControlValue.Construction

/-!
# Extracting data

The way back from a value to data of an expected kind and shape. The kind is checked first and the
number of elements next; only then are elements touched, so a value is never read as something else.

A grid is taken apart from the innermost dimension outwards: elements are gathered into rows of the
first dimension, rows into planes of the second, and so on, until one group is left.
-/

namespace ControlSchema

namespace ControlValue

def checkKind (value : ControlValue) (expected : KindRequest) : Except ValueError Unit :=
  if expected = .known value.kind then .ok () else .error (.invalidType expected value.kind)

/-- The elements, which must be of the given number. -/
def exactly (value : ControlValue) (expected : Int) : Except ValueError (List Datum) :=
  let items := value.items
  if (items.length : Int) = expected then .ok items
  else .error (.invalidLength expected items.length)

/-- The single element, or the whole text. -/
def toScalar (value : ControlValue) (expected : KindRequest) : Except ValueError Datum := do
  value.checkKind expected
  match value with
  | .string text => return .text text
  | value =>
    let items ← value.exactly 1
    return items.headD .null

def toArray (value : ControlValue) (expected : KindRequest) (count : Int) :
    Except ValueError Datum := do
  value.checkKind expected
  return .tuple (← value.exactly count)

/-! ## Grids -/

/-- Groups of `size` items, the last one of what is left. -/
def groupsOf (size : Nat) (items : List Datum) : List Datum :=
  match items with
  | [] => []
  | item :: rest =>
    .tuple ((item :: rest).take (size + 1)) :: groupsOf size (rest.drop size)
termination_by items.length
decreasing_by simp only [List.length_drop, List.length_cons]; omega

/-- Items gathered along one dimension: no groups of a negative size are ever made, and none of
size zero can be. -/
def gather (items : List Datum) (dim : Int) : Except ValueError (List Datum) :=
  if dim = 0 then .error .emptyGroups
  else if dim < 0 then .ok []
  else .ok (groupsOf (dim.toNat - 1) items)

def gatherAll (items : List Datum) (dims : List Int) : Except ValueError (List Datum) :=
  dims.foldlM gather items

/-- The number of elements of a grid. -/
def product (dims : List Int) : Int := dims.foldl (· * ·) 1

/-- Nested groups, the first dimension innermost. -/
def toNested (value : ControlValue) (expected : KindRequest) (dims : List Int) :
    Except ValueError Datum := do
  value.checkKind expected
  let items ← value.exactly (product dims)
  return (← gatherAll items dims).headD (.tuple [])

/-- Rows of columns, taken row by row. -/
def toMatrix (value : ControlValue) (expected : KindRequest) (rows columns : Int) :
    Except ValueError Datum :=
  value.toNested expected [columns, rows]

/-! ## Whole values -/

/-- All elements; those of a text are the bytes of its encoding. -/
def toList (value : ControlValue) (expected : KindRequest) : Except ValueError Datum := do
  value.checkKind expected
  match value with
  | .string text => return .list (text.toUTF8.toList.map fun b => .int b.toNat)
  | value => return .list value.items

def toText (value : ControlValue) : Except ValueError Datum := do
  value.checkKind ControlKind.string
  return value.data

/-- The data of the shape that is asked for. -/
def extractAs (value : ControlValue) (request : KindRequest) (shape : Shape) :
    Except ValueError Datum :=
  if request = .known .string then value.toText
  else match shape with
    | .scalar => value.toScalar request
    | .variable => value.toList request
    | .fixed dims => value.toNested request (dims.map Int.ofNat)

def extract (value : ControlValue) (descriptor : Descriptor) : Except ValueError Datum :=
  value.extractAs descriptor.kind descriptor.shape

end ControlValue

end ControlSchema
