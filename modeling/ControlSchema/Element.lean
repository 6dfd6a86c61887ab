import ControlSchema.ControlKind
import ControlSchema.Datum.Text

/-!
# Elements

What one element of a value can be. Integers carry their bounds, floating-point numbers have single
precision and the fields of the geometric records fit the words that store them, so an element that
exists can be stored without loss.
-/

namespace ControlSchema

attribute [local instance] Number.corePow

/-- Integers between two bounds, both included. -/
structure Ranged (low high : Int) where
  val : Int
  low_le : low ≤ val
  le_high : val ≤ high
deriving DecidableEq

namespace Ranged

def ofInt? (low high n : Int) : Option (Ranged low high) :=
  if h : low ≤ n ∧ n ≤ high then some ⟨n, h.1, h.2⟩ else none

end Ranged

abbrev Unsigned8 := Ranged 0 (2 ^ (8 : Nat) - 1)

abbrev Signed32 := Ranged (-2 ^ (31 : Nat)) (2 ^ (31 : Nat) - 1)

abbrev Signed64 := Ranged (-2 ^ (63 : Nat)) (2 ^ (63 : Nat) - 1)

abbrev Unsigned32 := Ranged 0 (2 ^ (32 : Nat) - 1)

structure Point where
  x : Signed32
  y : Signed32
deriving DecidableEq

structure Size where
  width : Unsigned32
  height : Unsigned32
deriving DecidableEq

structure Rectangle where
  x : Signed32
  y : Signed32
  width : Unsigned32
  height : Unsigned32
deriving DecidableEq

/-! ## Kinds of elements -/

/-- The kinds whose values are sequences of elements. -/
inductive ElementKind where
  | bool
  | byte
  | int32
  | int64
  | float
  | rectangle
  | size
  | point
deriving DecidableEq, Inhabited

namespace ElementKind

def kind : ElementKind → ControlKind
  | .bool => .bool
  | .byte => .byte
  | .int32 => .int32
  | .int64 => .int64
  | .float => .float
  | .rectangle => .rectangle
  | .size => .size
  | .point => .point

/-- The type of the elements of a kind. -/
@[reducible] def Element : ElementKind → Type
  | .bool => Bool
  | .byte => Unsigned8
  | .int32 => Signed32
  | .int64 => Signed64
  | .float => Number.Single
  | .rectangle => Rectangle
  | .size => Size
  | .point => Point

instance : (kind : ElementKind) → DecidableEq kind.Element
  | .bool => inferInstanceAs (DecidableEq Bool)
  | .byte => inferInstanceAs (DecidableEq Unsigned8)
  | .int32 => inferInstanceAs (DecidableEq Signed32)
  | .int64 => inferInstanceAs (DecidableEq Signed64)
  | .float => inferInstanceAs (DecidableEq Number.Single)
  | .rectangle => inferInstanceAs (DecidableEq Rectangle)
  | .size => inferInstanceAs (DecidableEq Size)
  | .point => inferInstanceAs (DecidableEq Point)

/-- An element handed out as a datum; numbers of single precision are numbers of double precision
too. -/
def toDatum : (kind : ElementKind) → kind.Element → Datum
  | .bool, b => .bool b
  | .byte, n => .int n.val
  | .int32, n => .int n.val
  | .int64, n => .int n.val
  | .float, x => .float (x.convert .double)
  | .rectangle, r => .rectangle (.int r.x.val) (.int r.y.val) (.int r.width.val) (.int r.height.val)
  | .size, s => .size (.int s.width.val) (.int s.height.val)
  | .point, p => .point (.int p.x.val) (.int p.y.val)

end ElementKind

/-- The element kind of a kind of control, if its values have elements. -/
def ControlKind.element? : ControlKind → Option ElementKind
  | .none | .string => Option.none
  | .bool => some .bool
  | .byte => some .byte
  | .int32 => some .int32
  | .int64 => some .int64
  | .float => some .float
  | .rectangle => some .rectangle
  | .size => some .size
  | .point => some .point

@[simp] theorem ElementKind.element?_kind (kind : ElementKind) :
    kind.kind.element? = some kind := by
  cases kind <;> rfl

end ControlSchema
