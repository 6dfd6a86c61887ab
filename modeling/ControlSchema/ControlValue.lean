import ControlSchema.Element

/-!
# Control values

The value of a control at one moment: nothing, a text, or elements of one kind in storage order. A
single element is the common case and needs no shape of its own; what the elements mean as a grid
is known to whoever extracts them.
-/

namespace ControlSchema

open Number

inductive ControlValue where
  | protected none
  | array (kind : ElementKind) (elements : List kind.Element)
  | string (text : String)
deriving DecidableEq

namespace ControlValue

instance : Inhabited ControlValue := ⟨.none⟩

def kind : ControlValue → ControlKind
  | .none => .none
  | .array kind _ => kind.kind
  | .string _ => .string

/-- The elements as data; those of a text are its characters. -/
def items : ControlValue → List Datum
  | .none => []
  | .array kind elements => elements.map kind.toDatum
  | .string text => text.toList.map fun c => .text c.toString

/-- The number of stored elements; a text is stored as the bytes of its encoding. -/
def elementCount : ControlValue → Nat
  | .none => 0
  | .array _ elements => elements.length
  | .string text => text.utf8ByteSize

/-- Only a single element that is no text is stored outside an array. -/
def isArray : ControlValue → Bool
  | .string _ => true
  | value => value.elementCount != 1

/-- The data as handed to a caller: a text, or the list of elements. -/
def data : ControlValue → Datum
  | .string text => .text text
  | value => .list value.items

/-- The value as an expression. -/
def shown : ControlValue → String
  | .none => "ControlValue.None()"
  | value => "ControlValue." ++ value.kind.label ++ "(" ++ value.data.shown ++ ")"

/-- Equality of values: of one kind, with elements that are equal as data. A value with an
undefined number differs from every value. -/
def same : ControlValue → ControlValue → Bool
  | .none, .none => true
  | .array k xs, .array k' ys =>
    k == k' && Datum.sameItems (xs.map k.toDatum) (ys.map k'.toDatum)
  | .string s, .string t => s == t
  | _, _ => false

end ControlValue

end ControlSchema
