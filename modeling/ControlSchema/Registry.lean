import ControlSchema.Category
import ControlSchema.ControlValue.Error
import ControlSchema.Table

/-!
# Identifiers and registries

The identifiers of one category have the numbers that the linked runtime gives them. Several names
may have one number: the first of them is the identifier's name, the others are aliases of it.

A registry tells what the items of a collection are when only numbers and values are at hand. An
item whose number is known and whose value fits becomes a typed entry. Any other item stays what it
is, together with the reason, so that one odd item never stops the description of the rest.

Where the typed entries come from is left open: generated bindings and interpreted schemas both
supply them.
-/

namespace ControlSchema

open Number

attribute [local instance] corePow

/-! ## Identifiers -/

structure Identifiers where
  category : Category
  /-- Every name with its number, aliases included. -/
  members : Table String Int
deriving DecidableEq

namespace Identifiers

/-- A name that no member can have. -/
def forbiddenName : String := "mro"

/-- A name whose member hides the operation of looking up. -/
def hidingName : String := "lookup"

/-- The identifiers with the given names and numbers, unless a name is forbidden. -/
def ofMembers? (category : Category) (members : Table String Int) : Option Identifiers :=
  if members.has forbiddenName then none else some ⟨category, members⟩

/-- The name of a number. -/
def nameOf? (ids : Identifiers) (id : Int) : Option String :=
  (ids.members.find? fun (_, n) => n == id).map Prod.fst

def numberOf? (ids : Identifiers) (name : String) : Option Int := ids.members.get? name

/-- Whether identifiers can be looked up by number. -/
def canLookUp (ids : Identifiers) : Bool := !ids.members.has hidingName

/-- An identifier as an expression. -/
def shown (ids : Identifiers) (name : String) : String := ids.category.idClass ++ "." ++ name

/-- Every name with its number, in the order of the names. -/
def listed (ids : Identifiers) : Table String Int := ids.members.sorted

end Identifiers

/-! ## Entries without their types -/

/-- Entries whose type has been forgotten. -/
class Dynamic (η : Type) where
  name : η → String
  id : η → Int
  value : η → Except ValueError ControlValue
  shown : η → String

/-! ## Failing to find an entry -/

/-- There is nothing for the number. -/
structure ControlNotFound where
  id : Int
deriving DecidableEq

def ControlNotFound.message (e : ControlNotFound) : String :=
  "Control id " ++ intText e.id ++ " not found"

inductive DispatchError where
  | notFound (error : ControlNotFound)
  | conversion (error : ValueError)

namespace DispatchError

def message? : DispatchError → Option String
  | .notFound e => some e.message
  | .conversion e => e.message?

/-- The class of what is raised. -/
def errorClass : DispatchError → ErrorClass
  | .notFound e => ErrorClass.notFound.raised [e.id]
  | .conversion e => e.errorClass

/-- Whether the error is one that describing an item expects. An error whose message cannot be
written is never raised as what it is. -/
def isExpected : DispatchError → Bool
  | .notFound e => isWritable e.id
  | .conversion e => e.isWritable && e.isConversion

end DispatchError

/-! ## Descriptions -/

/-- An item that could not be interpreted. -/
structure RawEntry where
  id : Int
  value : ControlValue
  /-- The name, when only the conversion failed. -/
  name : Option String
  /-- What the failed conversion said. -/
  error : Option String

namespace RawEntry

def shown (e : RawEntry) : String :=
  "RawEntry(" ++ e.name.getD (intText e.id) ++ ", " ++ e.value.shown ++ ")"

end RawEntry

inductive Described (η : Type) where
  | typed (entry : η)
  | raw (entry : RawEntry)

structure Registry (η : Type) where
  identifiers : Identifiers
  dispatch : Int → ControlValue → Except DispatchError η

inductive RegistryError where
  /-- A member of the identifiers hides the operation of looking up. -/
  | noLookup
  | unexpected (error : DispatchError)
  /-- A number does not fit into a column of a frame. -/
  | tooLarge

namespace Registry

variable {η : Type} [Dynamic η]

/-- The name of a number, none for a number that is unknown. -/
def lookup (r : Registry η) (id : Int) : Except RegistryError (Option String) :=
  if r.identifiers.canLookUp then .ok (r.identifiers.nameOf? id) else .error .noLookup

/-- What an item is. -/
def describe (r : Registry η) (id : Int) (value : ControlValue) :
    Except RegistryError (Described η) := do
  match ← r.lookup id with
  | none => return .raw ⟨id, value, none, none⟩
  | some name =>
    match r.dispatch id value with
    | .ok entry => return .typed entry
    | .error e =>
      if e.isExpected then return .raw ⟨id, value, some name, e.message?⟩
      else throw (.unexpected e)

def describeAll (r : Registry η) (items : List (Int × ControlValue)) :
    Except RegistryError (List (Described η)) :=
  items.mapM fun (id, value) => r.describe id value

/-! ## Text -/

/-- What stands in front of an item: its name, or its number. -/
def label (r : Registry η) (id : Int) : Described η → Except RegistryError String
  | .raw entry => .ok (entry.name.getD (intText id))
  | .typed _ => do return (← r.lookup id).getD (intText id)

def shownEntry : Described η → String
  | .raw entry => entry.value.shown
  | .typed entry => Dynamic.shown entry

def formatItem (r : Registry η) (item : Int × ControlValue) : Except RegistryError String := do
  let entry ← r.describe item.1 item.2
  return (← r.label item.1 entry) ++ ": " ++ shownEntry entry

/-- All items between braces. -/
def format (r : Registry η) (items : List (Int × ControlValue)) :
    Except RegistryError String := do
  return "\x7b" ++ ", ".intercalate (← items.mapM r.formatItem) ++ "\x7d"

/-! ## Frames -/

end Registry

/-- A row for one item. -/
structure ItemRow where
  id : Int
  name : Option String
  type : String
  typed : Bool
  value : String

namespace ItemRow

def columns : List String := ["id", "name", "type", "typed", "value"]

/-- The row under the columns. -/
def cells (row : ItemRow) : List Datum := [
  .int row.id, row.name.elim .null .text, .text row.type, .bool row.typed, .text row.value]

end ItemRow

namespace Registry

variable {η : Type} [Dynamic η]

def isTyped : Described η → Bool
  | .typed _ => true
  | .raw _ => false

def row (r : Registry η) (item : Int × ControlValue) : Except RegistryError ItemRow := do
  let entry ← r.describe item.1 item.2
  let name ← r.lookup item.1
  return ⟨item.1, name, item.2.kind.label, isTyped entry, shownEntry entry⟩

/-- Whether a number fits into a column of 64 bits. -/
def fitsColumn (id : Int) : Bool := -2 ^ (63 : Nat) ≤ id && id < 2 ^ (63 : Nat)

/-- One row for each item, in order. -/
def frame (r : Registry η) (items : List (Int × ControlValue)) :
    Except RegistryError (List ItemRow) := do
  let rows ← items.mapM r.row
  if rows.all fun row => fitsColumn row.id then return rows else throw .tooLarge

end Registry

end ControlSchema
