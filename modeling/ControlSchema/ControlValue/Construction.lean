import ControlSchema.ControlValue.Error
import ControlSchema.Shape

/-!
# Building values

A value is built from data in one of three ways: from its sequence of elements, from data nested in
any way that is flattened first, or from data of the shape that a descriptor asks for. Every element
is checked, and the first that does not fit decides the error.
-/

namespace ControlSchema

open Number

namespace ElementKind

/-- An integer of an integer kind. -/
def readInt (kind : ControlKind) (low high : Int) :
    Datum → Except ValueError (Ranged low high)
  | .int n =>
    match Ranged.ofInt? low high n with
    | some element => .ok element
    | none => .error (.invalidData (.elementOutOfRange kind n))
  | found => .error (.wrongType (.element kind found))

/-- A field of a geometric record. -/
def readField (kind : ControlKind) (field : String) (low high : Int) :
    Datum → Except ValueError (Ranged low high)
  | .int n =>
    match Ranged.ofInt? low high n with
    | some value => .ok value
    | none => .error (.invalidData (.fieldOutOfRange kind field n))
  | found => .error (.wrongType (.field kind field found))

/-- A number, rounded to single precision by way of double precision. -/
def readFloat : Datum → Except ValueError Single
  | .float x => .ok (x.convert .single)
  | .int n =>
    match Binary.ofInt? .double n with
    | some x => .ok (x.convert .single)
    | none => .error .tooLarge
  | found => .error (.wrongType (.element .float found))

/-- The element that a datum is. -/
def ofDatum (kind : ElementKind) (datum : Datum) : Except ValueError kind.Element :=
  match kind, datum with
  | .bool, .bool b => .ok b
  | .byte, d => readInt .byte _ _ d
  | .int32, d => readInt .int32 _ _ d
  | .int64, d => readInt .int64 _ _ d
  | .float, d => readFloat d
  | .rectangle, .rectangle x y width height => do
    return ⟨← readField .rectangle "x" _ _ x, ← readField .rectangle "y" _ _ y,
      ← readField .rectangle "width" _ _ width, ← readField .rectangle "height" _ _ height⟩
  | .size, .size width height => do
    return ⟨← readField .size "width" _ _ width, ← readField .size "height" _ _ height⟩
  | .point, .point x y => do
    return ⟨← readField .point "x" _ _ x, ← readField .point "y" _ _ y⟩
  | kind, found => .error (.wrongType (.element kind.kind found))

end ElementKind

namespace Datum

mutual

/-- The data that are no lists, in order, however deep they are nested. -/
def flatten : Datum → List Datum
  | .list xs | .tuple xs => flattenItems xs
  | d => [d]
termination_by structural x => x

def flattenItems : List Datum → List Datum
  | [] => []
  | x :: xs => flatten x ++ flattenItems xs
termination_by structural xs => xs

end

end Datum

namespace ControlValue

def ofElements (kind : ElementKind) (items : List Datum) : Except ValueError ControlValue := do
  return .array kind (← items.mapM kind.ofDatum)

/-- The value of a kind with the given elements. -/
def ofItems (kind : ControlKind) (items : List Datum) : Except ValueError ControlValue :=
  match kind.element? with
  | some elementKind => ofElements elementKind items
  | none =>
    if items.isEmpty then .ok .none else .error (.invalidData .noneHoldsElements)

/-- The value of a kind whose data are a text or a sequence of elements. -/
def build (kind : ControlKind) (data : Datum) : Except ValueError ControlValue :=
  match kind, data with
  | .string, .text s => .ok (.string s)
  | .string, found => .error (.wrongType (.notText found))
  | kind, .text _ => .error (.wrongType (.notElements kind))
  | kind, .bytes _ => .error (.wrongType (.notElements kind))
  | kind, data =>
    match data.items? with
    | some items => ofItems kind items
    | none => .error (.wrongType .notSequence)

/-- The value of the kind that is asked for, whose data are a text or a sequence of elements. -/
def construct (request : KindRequest) (data : Datum) : Except ValueError ControlValue :=
  match request.resolve?, request with
  | some kind, _ => build kind data
  | none, .byTag tag => .error (.unknownType tag)
  | none, .known _ => .error .noSuchKind

/-- The value whose elements are found in the data, however nested. -/
def of (request : KindRequest) (data : Datum) : Except ValueError ControlValue :=
  match request.resolve? with
  | none => .error .noSuchKind
  | some .string => build .string data
  | some .none => .ok .none
  | some kind => build kind (.tuple data.flatten)

/-- The value that data of a shape stand for; the inverse of extraction. -/
def packAs (request : KindRequest) (shape : Shape) (data : Datum) :
    Except ValueError ControlValue :=
  if request = .known .string then build .string data
  else match shape with
    | .scalar => construct request (.tuple [data])
    | .variable =>
      match data.items? with
      | some items => construct request (.tuple items)
      | none => .error (.wrongType .notSequence)
    | .fixed dims =>
      let flat := data.flatten
      if flat.length = Shape.volume dims then construct request (.tuple flat)
      else .error (.invalidLength (Shape.volume dims) flat.length)

def pack (descriptor : Descriptor) (data : Datum) : Except ValueError ControlValue :=
  packAs descriptor.kind descriptor.shape data

end ControlValue

end ControlSchema
