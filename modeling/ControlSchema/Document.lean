import ControlSchema.Definition.Entry
import ControlSchema.Table

/-!
# Schema documents

A document is a YAML text whose roots are mappings with a list of controls, each item naming one
control and describing it, and possibly the vendor of all of them. Documents are read in the order
of their names, so the definitions do not depend on the order in which documents were found.
-/

namespace ControlSchema

inductive DocumentError where
  | notYaml (file : String)
  /-- The text cannot be read, and not for its form, as when a scalar is no value of its type. -/
  | badScalar (fault : Yaml.Fault)
  | notMapping (file : String)
  | missingControls (file : String)
  | badItem (file : String) (item : Datum)
  /-- An item that has to be written holds an integer that is too long. -/
  | unwritable
  | badEntry (file name : String) (error : EntryError)

namespace DocumentError

/-- The text of the error. Issues of an entry stand behind the names of file and control. -/
def message? : DocumentError → Option String
  | .notYaml file => some (file ++ ": invalid YAML")
  | .badScalar _ | .unwritable => none
  | .notMapping file => some (file ++ ": document must be a mapping")
  | .missingControls file => some (file ++ ": missing 'controls' list")
  | .badItem file item =>
    some (file ++ ": each control must be a single-key mapping, got " ++ item.shown)
  | .badEntry file name (.invalid _) => some (file ++ ": " ++ name)
  | .badEntry _ _ error => error.message?

/-- What is added to the text of errors that do not name the file. -/
def notes : DocumentError → List String
  | .badEntry _ _ (.invalid _) | .badEntry _ _ .unwritable => []
  | .badEntry file _ _ => ["in " ++ file]
  | _ => []

def issues : DocumentError → List Issue
  | .badEntry _ _ (.invalid issues) => issues
  | _ => []

/-- Whether the error is one about schemas; the others are faults of reading scalars and of writing
integers that come up behind the checks. -/
def isAboutSchema : DocumentError → Bool
  | .badScalar _ | .unwritable | .badEntry _ _ .unwritable => false
  | _ => true

end DocumentError

namespace Document

variable [Readers]

/-- The roots of a text; empty documents have none. -/
def roots (file text : String) : Except DocumentError (List Datum) :=
  match Readers.yaml text with
  | .ok data => .ok (data.filter fun | .null => false | _ => true)
  | .error .malformed => .error (.notYaml file)
  | .error fault => .error (.badScalar fault)

/-- The definition of one item of a list of controls. -/
def ofItem (file : String) (vendor item : Datum) : Except DocumentError Definition :=
  match item with
  | .dict [(name, body)] =>
    if name.isWritable then
      (Definition.ofEntry (.text name.plain) body vendor).mapError (.badEntry file name.plain)
    else .error .unwritable
  | item => .error (if item.isWritable then .badItem file item else .unwritable)

/-- The definitions of one root, in order. -/
def ofRoot (file : String) (root : Datum) : Except DocumentError (List Definition) :=
  match root with
  | .dict entries =>
    match Datum.lookup? "controls" entries with
    | some (.list items) =>
      items.mapM (ofItem file ((Datum.lookup? "vendor" entries).getD .null))
    | _ => .error (.missingControls file)
  | _ => .error (.notMapping file)

/-- The definitions of a list of roots, in order. -/
def ofRoots (file : String) (roots : List Datum) : Except DocumentError (List Definition) := do
  return (← roots.mapM (ofRoot file)).flatten

def parse (file text : String) : Except DocumentError (List Definition) := do
  ofRoots file (← roots file text)

/-- The definitions of all documents, in the order of the documents' names. -/
def parseAll (documents : Table String String) : Except DocumentError (List Definition) := do
  return (← documents.sorted.mapM fun (file, text) => parse file text).flatten

end Document

end ControlSchema
