import ControlSchema.ControlValue.Extraction
import ControlSchema.Registry

/-!
# Typed entries

A class of entries belongs to one identifier. Its entries either wrap data of the shape that the
descriptor says, unchecked until they are converted, or are the members of a closed enumeration.
Members may share a number: the first of them is the member that a number stands for.
-/

namespace ControlSchema

open Number

inductive EntryForm where
  | wrapper
  | enumeration (members : Table String Int)
deriving DecidableEq

structure EntryClass where
  name : String
  /-- The category whose collections take the entries. -/
  category : Category
  id : Int
  descriptor : Descriptor
  form : EntryForm
  doc : Option String
deriving DecidableEq

namespace EntryClass

def members (c : EntryClass) : Table String Int :=
  match c.form with
  | .wrapper => []
  | .enumeration members => members

/-- The member that a number stands for. -/
def memberOf? (c : EntryClass) (raw : Datum) : Option (String × Int) :=
  c.members.find? fun (_, n) => Datum.same (.int n) raw

end EntryClass

inductive Entry where
  | wrapped (class_ : EntryClass) (value : Datum)
  | member (class_ : EntryClass) (name : String) (number : Int)

/-- Why there is no entry of a class. -/
inductive EntryFault where
  /-- The class has no member of the name. -/
  | noMember
  /-- No member has the number. -/
  | noNumber
  /-- The class has no members at all. -/
  | notEnumeration

namespace Entry

def entryClass : Entry → EntryClass
  | .wrapped c _ => c
  | .member c _ _ => c

def shown : Entry → String
  | .wrapped c value => c.name ++ "(" ++ value.shown ++ ")"
  | .member c name _ => c.name ++ "." ++ name

/-- The value that the entry stands for. -/
def toValue : Entry → Except ValueError ControlValue
  | .wrapped c value => ControlValue.pack c.descriptor value
  | .member c _ number => ControlValue.construct c.descriptor.kind (.tuple [.int number])

/-- Wrapped data are compared within one class, members by number. -/
def same : Entry → Entry → Bool
  | .wrapped c value, .wrapped c' value' => c == c' && Datum.same value value'
  | .member _ _ number, .member _ _ number' => number == number'
  | _, _ => false

instance : Dynamic Entry where
  name e := e.entryClass.name
  id e := e.entryClass.id
  value := Entry.toValue
  shown := Entry.shown

end Entry

namespace EntryClass

/-! ## Making entries -/

/-- The entry made from data: the data themselves, or the member that they number. -/
def make (c : EntryClass) (value : Datum) : Except EntryFault Entry :=
  match c.form with
  | .wrapper => .ok (.wrapped c value)
  | .enumeration _ =>
    match c.memberOf? value with
    | some (name, number) => .ok (.member c name number)
    | none => .error .noNumber

/-- The member of a name; an alias gives the member that it stands for. -/
def named (c : EntryClass) (name : String) : Except EntryFault Entry :=
  match c.form with
  | .wrapper => .error .notEnumeration
  | .enumeration members =>
    match members.get? name with
    | none => .error .noMember
    | some number => c.make (.int number)

/-- The entry that a value stands for. -/
def ofValue (c : EntryClass) (value : ControlValue) : Except ValueError Entry :=
  match c.form with
  | .wrapper => do return .wrapped c (← value.extract c.descriptor)
  | .enumeration _ => do
    let raw ← value.toScalar c.descriptor.kind
    match c.memberOf? raw with
    | some (name, number) => return .member c name number
    | none => throw (.unknownVariant value)

end EntryClass

end ControlSchema
