import ControlSchema.Bindings.Entry
import ControlSchema.Cell

/-!
# Control lists

The controls that go with a request, or the properties of a camera: a cell for every number, in the
order in which the numbers were first set. A value is encoded when it is set and decoded whenever it
is asked for. A call that fails leaves the list as it was.
-/

namespace ControlSchema

open Number

structure ControlList where
  /-- The category whose entries the list takes. -/
  category : Category
  cells : Table Int Cell
deriving DecidableEq

inductive ListError where
  /-- The entry belongs to the other category. -/
  | wrongCategory (list : Category) (entry : String)
  | badValue (error : ValueError)
  | notFound (error : ControlNotFound)
  /-- The list cannot describe its items. -/
  | noRegistry (list : Category)
  | registry (error : RegistryError)

namespace ControlList

/-- The name of the lists of a category. -/
def typeName (category : Category) : String := category.marker ++ "List"

end ControlList

def ListError.message? : ListError → Option String
  | .wrongCategory list entry =>
    some (ControlList.typeName list ++ " accepts " ++ list.marker ++ " entries, got " ++ entry)
  | .badValue e => e.message?
  | .notFound e => some e.message
  | .noRegistry list => some (ControlList.typeName list ++ " has no registry")
  | .registry (.unexpected e) => e.message?
  | .registry _ => none

namespace ControlList

def empty (category : Category) : ControlList := ⟨category, []⟩

def size (l : ControlList) : Nat := l.cells.length

/-! ## Writing -/

/-- The list with a value under a number. -/
def setRaw (l : ControlList) (id : Int) (value : ControlValue) : ControlList :=
  { l with cells := l.cells.put id value.encode }

/-- The list with an entry under its own number. -/
def set (l : ControlList) (entry : Entry) : Except ListError ControlList :=
  if entry.entryClass.category ≠ l.category then
    .error (.wrongCategory l.category entry.entryClass.name)
  else match entry.toValue with
    | .ok value => .ok (l.setRaw entry.entryClass.id value)
    | .error e => .error (.badValue e)

/-- The list of the values that some cells hold. -/
def ofCells (category : Category) (cells : List (Int × Cell)) : Except ListError ControlList :=
  cells.foldlM (fun l (id, cell) =>
    match ControlValue.ofCell cell with
    | .ok value => .ok (l.setRaw id value)
    | .error e => .error (.badValue e)) (empty category)

/-! ## Reading -/

def contains (l : ControlList) (id : Int) : Bool := l.cells.has id

/-- The cell of a number. -/
def cell (l : ControlList) (id : Int) : Except ListError Cell :=
  match l.cells.get? id with
  | some cell => .ok cell
  | none => .error (.notFound ⟨id⟩)

def decoded (cell : Cell) : Except ListError ControlValue :=
  match ControlValue.ofCell cell with
  | .ok value => .ok value
  | .error e => .error (.badValue e)

/-- The value of a number. -/
def getRaw (l : ControlList) (id : Int) : Except ListError ControlValue := do
  decoded (← l.cell id)

/-- The entry of a class. -/
def get (l : ControlList) (c : EntryClass) : Except ListError Entry := do
  match c.ofValue (← l.getRaw c.id) with
  | .ok entry => return entry
  | .error e => throw (.badValue e)

/-- All numbers with their values, in order. -/
def items (l : ControlList) : Except ListError (List (Int × ControlValue)) :=
  l.cells.mapM fun (id, cell) => do return (id, ← decoded cell)

/-! ## Describing -/

def withRegistry {α : Type} (l : ControlList) (registry : Option (Registry Entry))
    (describe : Registry Entry → List (Int × ControlValue) → Except RegistryError α) :
    Except ListError α := do
  match registry with
  | none => throw (.noRegistry l.category)
  | some r =>
    match describe r (← l.items) with
    | .ok a => return a
    | .error e => throw (.registry e)

def describe (l : ControlList) (registry : Option (Registry Entry)) :
    Except ListError (List (Described Entry)) :=
  l.withRegistry registry Registry.describeAll

def frame (l : ControlList) (registry : Option (Registry Entry)) :
    Except ListError (List ItemRow) :=
  l.withRegistry registry Registry.frame

/-- The list between braces; without a registry its items have numbers for names. -/
def shown (l : ControlList) (registry : Option (Registry Entry)) : Except ListError String :=
  match registry with
  | some r => l.withRegistry (some r) Registry.format
  | none => do
    let items ← l.items
    return "\x7b" ++ ", ".intercalate (items.map fun (id, v) => intText id ++ ": " ++ v.shown)
      ++ "\x7d"

end ControlList

end ControlSchema
