import ControlSchema.Settings
import ControlSchema.Storage.Operation
import ControlSchema.Toml.Document

/-!
# Configuration files

A configuration is looked for in the files of a list, one after another. A file that is missing,
cannot be read or is no TOML holds none, and neither does an empty table; the first configuration
that is there counts. In a project file the configuration is a table among those of other tools, in
a file of its own it is a table of that name or the whole file.
-/

namespace ControlSchema

/-- Why a file ends the search. -/
inductive ConfigurationFault where
  /-- A name on the way to the file is longer than names can be. -/
  | unreachable (error : StorageError)
  | encoding (fault : Text.EncodingFault)
  /-- An integer has more digits than are ever read. -/
  | tooLong
  /-- Values are nested deeper than they are ever read. -/
  | tooDeep
  /-- The name of a feature holds an integer that is too long to be written. -/
  | unwritable

namespace ConfigurationFault

def message : ConfigurationFault → String
  | .unreachable error => error.message
  | .encoding fault => fault.message
  | .tooLong => "an integer of the configuration has too many digits"
  | .tooDeep => "the values of the configuration are nested too deep"
  | .unwritable => Datum.tooLongToWrite

end ConfigurationFault

namespace Settings

variable {m : Type → Type} [Monad m] [Storage m]

/-- The name of the table that holds the configuration. -/
def tableName : String := "camctl"

/-- The name of the file that tools share. -/
def projectFile : String := "pyproject.toml"

/-- Where a configuration is looked for when no file is given. -/
def searchPath : List String := ["camctl.toml", projectFile]

/-- The configuration among the entries of a file. -/
def configuration (path : String) (entries : Toml.Entries) : Datum :=
  if Path.lastName path == projectFile then
    match Datum.lookup? "tool" entries with
    | none => .dict []
    | some (.dict tools) => (Datum.lookup? tableName tools).getD (.dict [])
    | some _ => .null
  else
    match Datum.lookup? tableName entries with
    | some (.dict table) => .dict table
    | _ => .dict entries

/-- The entries of a file, if it can be read and is TOML. -/
def readEntries? (path : String) : ExceptT ConfigurationFault m (Option Toml.Entries) := do
  match ← ExceptT.lift (Storage.read (Path.tidy path)).run with
  | .error e => if e.fault = .nameTooLong then throw (.unreachable e) else return none
  | .ok bytes =>
    let text ← ExceptT.mk (pure ((Text.ofBytes bytes).mapError .encoding))
    match Toml.read text with
    | .ok entries => return some entries
    | .error .malformed => return none
    | .error .tooLong => throw .tooLong
    | .error .tooDeep => throw .tooDeep

/-- The first configuration that the files hold, null when none holds any. -/
def search : List String → ExceptT ConfigurationFault m Datum
  | [] => return .null
  | path :: rest => do
    match ← readEntries? path with
    | none => search rest
    | some entries =>
      let found := configuration path entries
      if found.truthy then return found else search rest

/-- The settings with the configuration of a file, or else of the usual files, over the defaults. -/
def ofFile (path : Option String) : ExceptT ConfigurationFault m Settings := do
  match default.configure? (← search (path.elim searchPath fun path => [path])) with
  | some settings => return settings
  | none => throw .unwritable

/-- The settings from all layers below the command line. -/
def load (environment : Environment) (path : Option String) :
    ExceptT ConfigurationFault m Settings := do
  return (← ofFile path).withEnvironment environment variablePrefix

end Settings

end ControlSchema
