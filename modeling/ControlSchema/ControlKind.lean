import ControlSchema.Number.Power
import ControlSchema.Text.Blank
import ControlSchema.Text.Letter

/-!
# Kinds of controls

The ten kinds of value a control can have. The tag of a kind is the number by which the runtime
marks a cell; a schema names a kind by one of several aliases, in any letter case.
-/

namespace ControlSchema

attribute [local instance] Number.corePow

inductive ControlKind where
  | none
  | bool
  | byte
  | int32
  | int64
  | float
  | string
  | rectangle
  | size
  | point
deriving DecidableEq, Inhabited

namespace ControlKind

def all : List ControlKind :=
  [.none, .bool, .byte, .int32, .int64, .float, .string, .rectangle, .size, .point]

def tag : ControlKind → Nat
  | .none => 0
  | .bool => 1
  | .byte => 2
  | .int32 => 3
  | .int64 => 4
  | .float => 5
  | .string => 6
  | .rectangle => 7
  | .size => 8
  | .point => 9

def ofTag? (tag : Int) : Option ControlKind := all.find? fun kind => (kind.tag : Int) == tag

@[simp] theorem ofTag?_tag (kind : ControlKind) : ofTag? kind.tag = some kind := by
  cases kind <;> rfl

def label : ControlKind → String
  | .none => "None"
  | .bool => "Bool"
  | .byte => "Byte"
  | .int32 => "Int32"
  | .int64 => "Int64"
  | .float => "Float"
  | .string => "String"
  | .rectangle => "Rectangle"
  | .size => "Size"
  | .point => "Point"

/-- The name by which generated source refers to the kind. -/
def constant : ControlKind → String
  | .none => "NONE"
  | .bool => "BOOL"
  | .byte => "BYTE"
  | .int32 => "INT32"
  | .int64 => "INT64"
  | .float => "FLOAT"
  | .string => "STRING"
  | .rectangle => "RECTANGLE"
  | .size => "SIZE"
  | .point => "POINT"

def ofConstant? (name : String) : Option ControlKind := all.find? fun kind => kind.constant == name

/-- The type of one element in generated source; a value without elements has none. -/
def elementType? : ControlKind → Option String
  | .none => Option.none
  | .bool => some "bool"
  | .byte | .int32 | .int64 => some "int"
  | .float => some "float"
  | .string => some "str"
  | .rectangle => some "Rectangle"
  | .size => some "Size"
  | .point => some "Point"

/-- The least and the greatest element of an integer kind. -/
def intRange? : ControlKind → Option (Int × Int)
  | .byte => some (0, 2 ^ (8 : Nat) - 1)
  | .int32 => some (-2 ^ (31 : Nat), 2 ^ (31 : Nat) - 1)
  | .int64 => some (-2 ^ (63 : Nat), 2 ^ (63 : Nat) - 1)
  | _ => Option.none

def isInteger (kind : ControlKind) : Bool := kind.intRange?.isSome

def aliases : List (String × ControlKind) := [
  ("bool", .bool), ("boolean", .bool),
  ("byte", .byte), ("uint8", .byte), ("uint8_t", .byte), ("u8", .byte),
  ("int32", .int32), ("int32_t", .int32), ("i32", .int32),
  ("int64", .int64), ("int64_t", .int64), ("i64", .int64),
  ("float", .float), ("float32", .float), ("f32", .float),
  ("string", .string), ("str", .string),
  ("rectangle", .rectangle), ("size", .size), ("point", .point)]

/-- The kind a schema names, whatever its letter case and the blanks around it. -/
def ofAlias? (name : String) : Option ControlKind :=
  aliases.lookup (Text.lower (Text.strip name))

end ControlKind

end ControlSchema
