import ControlSchema.Snapshot

/-!
# Linked runtimes

The runtime that a program is linked with decides the number of every constant. Generated modules
and interpreters never invent a number: they ask the runtime, and a constant that the runtime does
not define is an error.
-/

namespace ControlSchema

structure LinkedRuntime where
  version : Option Version
  controls : Table String Int
  properties : Table String Int
deriving DecidableEq

/-- The runtime defines no constant of the name in the category. -/
structure MissingConstant where
  category : Category
  name : String
deriving DecidableEq

namespace MissingConstant

def message (e : MissingConstant) : String :=
  "linked runtime defines no " ++ e.category.word ++ " constant " ++ Text.quoted e.name

end MissingConstant

namespace LinkedRuntime

def ids (r : LinkedRuntime) : Category → Table String Int
  | .controls => r.controls
  | .properties => r.properties

/-- The number of a constant. -/
def constant (r : LinkedRuntime) (category : Category) (name : String) :
    Except MissingConstant Int :=
  match (r.ids category).get? name with
  | some id => .ok id
  | none => .error ⟨category, name⟩

/-- The runtime whose constants are numbered as in the snapshot's own header. -/
def ofSnapshot (s : Snapshot) : LinkedRuntime where
  version := some s.version
  controls := (s.linkageIds .controls).map fun (name, id) => (name, (id : Int))
  properties := (s.linkageIds .properties).map fun (name, id) => (name, (id : Int))

end LinkedRuntime

/-! ## Looking up by name -/

/-- The constants of one category, asked for by name. -/
structure LinkageTable where
  category : Category
  ids : Table String Int

inductive LookupError where
  | missing (error : MissingConstant)
  /-- Names that begin with an underscore are never constants. -/
  | hidden (name : String)

namespace LinkageTable

def ofRuntime (r : LinkedRuntime) (category : Category) : LinkageTable := ⟨category, r.ids category⟩

def contains (t : LinkageTable) (name : String) : Bool := t.ids.has name

def get (t : LinkageTable) (name : String) : Except LookupError Int :=
  if Naming.startsWithUnderscore name then .error (.hidden name)
  else match t.ids.get? name with
    | some id => .ok id
    | none => .error (.missing ⟨t.category, name⟩)

def names (t : LinkageTable) : List String := t.ids.keys.mergeSort textAtMost

def shown (t : LinkageTable) : String :=
  "LinkageTable(" ++ Text.quoted t.category.word ++ ", " ++ Number.digitsText t.ids.length
    ++ " constants)"

end LinkageTable

end ControlSchema
