import ControlSchema.ControlValue.Extraction
import ControlSchema.Linkage
import ControlSchema.Registry

/-!
# Interpreted schemas

The other way to typed entries: instead of generating source for one release, the definitions of a
snapshot are kept and consulted for every value. Numbers come from the linked runtime, and
definitions whose feature is not enabled are left out. When two definitions get one number, the
later one is consulted.
-/

namespace ControlSchema

open Number

/-- A value that was taken apart as its definition says. -/
structure InterpretedEntry where
  definition : Definition
  id : Int
  payload : Datum

namespace InterpretedEntry

/-- The name of the enumerator that the payload equals. -/
def variant? (e : InterpretedEntry) : Option String :=
  (e.definition.variants.find? fun (v, _) => Datum.same (.int v.value) e.payload).map Prod.snd

def value (e : InterpretedEntry) : Except ValueError ControlValue :=
  ControlValue.pack e.definition.descriptor e.payload

def shown (e : InterpretedEntry) : String :=
  match e.variant? with
  | some variant => e.definition.name ++ "." ++ variant
  | none => e.definition.name ++ "(" ++ e.payload.shown ++ ")"

def same (a b : InterpretedEntry) : Bool :=
  a.id == b.id && a.definition.name == b.definition.name && Datum.same a.payload b.payload

instance : Dynamic InterpretedEntry where
  name e := e.definition.name
  id := InterpretedEntry.id
  value := InterpretedEntry.value
  shown := InterpretedEntry.shown

end InterpretedEntry

/-! ## Decoding -/

namespace Definition

/-- Whether the closed set of values, if there is one, holds the payload. -/
def allows (d : Definition) (payload : Datum) : Bool :=
  !d.isEnum || d.enumerators.any fun e => Datum.same (.int e.value) payload

/-- The entry that a value stands for under a definition. -/
def interpret (d : Definition) (id : Int) (value : ControlValue) :
    Except ValueError InterpretedEntry := do
  let payload ← value.extract d.descriptor
  if d.allows payload then return ⟨d, id, payload⟩ else throw (.unknownVariant value)

/-- Whether the definition is there when only some features are. -/
def isEnabled (d : Definition) (enabled : String → Bool) : Bool := d.feature.all enabled

end Definition

/-! ## Interpreters -/

structure Interpreter where
  identifiers : Identifiers
  definitions : Table Int Definition

inductive InterpreterError where
  | missing (error : MissingConstant)
  /-- A definition has a name that no identifier can have. -/
  | forbiddenName

namespace Interpreter

/-- The definitions that are enabled. -/
def enabledDefinitions (s : Snapshot) (category : Category) (enabled : String → Bool) :
    List Definition :=
  (s.definitions category).filter fun d => d.isEnabled enabled

/-- The interpreter of a category, with the numbers of a runtime. -/
def ofSnapshot (s : Snapshot) (category : Category) (runtime : LinkedRuntime)
    (enabled : String → Bool) : Except InterpreterError Interpreter := do
  let numbered ← (enabledDefinitions s category enabled).mapM fun d =>
    match runtime.constant category d.linkageName with
    | .ok id => Except.ok (id, d)
    | .error e => .error (.missing e)
  match Identifiers.ofMembers? category (numbered.map fun (id, d) => (d.name, id)) with
  | some identifiers => return ⟨identifiers, Table.ofPairs numbered⟩
  | none => throw .forbiddenName

def definition? (i : Interpreter) (id : Int) : Option Definition := i.definitions.get? id

/-- The entry that a number and a value stand for. -/
def makeEntry (i : Interpreter) (id : Int) (value : ControlValue) :
    Except DispatchError InterpretedEntry :=
  match i.definition? id with
  | none => .error (.notFound ⟨id⟩)
  | some d =>
    match d.interpret id value with
    | .ok entry => .ok entry
    | .error e => .error (.conversion e)

def registry (i : Interpreter) : Registry InterpretedEntry := ⟨i.identifiers, i.makeEntry⟩

/-- The number of known numbers. -/
def size (i : Interpreter) : Nat := i.definitions.length

end Interpreter

end ControlSchema
