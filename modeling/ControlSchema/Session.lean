import ControlSchema.Bindings.Import
import ControlSchema.Selection
import ControlSchema.Settings.File

/-!
# Sessions

A session is what a process has activated and imported: a set of features, a linked runtime, and
generated modules under their names. What is not activated is taken from the settings on first use.
Loading activates what the settings ask for and imports the modules of the selected snapshot; the
session keeps what was done up to a failure, except for the module that failed. How the text of a
module runs is a parameter of loading: it may be any code that leaves the session alone.
-/

namespace ControlSchema

structure Session where
  features : Option (List String)
  runtime : Option LinkedRuntime
  /-- The registered modules. One that was left in the middle has no bindings to go by. -/
  modules : Table String (Option Bindings)

inductive LoadError where
  | configuration (fault : ConfigurationFault)
  | selection (error : SelectionError)
  | header (error : HeaderError)
  /-- No runtime is active and none is configured. -/
  | noRuntime
  | unreadable (error : StorageError)
  /-- A generated module is no source. -/
  | notSource (path : String)
  | importing (fault : ImportFault)

namespace LoadError

/-- The text of an error of the session's own. -/
def message? : LoadError → Option String
  | .noRuntime =>
    some ("no linked runtime is active; call camctl.build.load_modules() or set runtime_header")
  | .notSource path => some (path ++ " does not compile")
  | _ => none

/-- Whether the handler that cleans up behind a failed import lets it pass. -/
def isExit : LoadError → Bool
  | .importing (.exited _) => true
  | _ => false

end LoadError

/-- How the text of a module runs. -/
abbrev TextRun := ImportContext → String → Except ImportFault Bindings

/-- Why names cannot be activated. -/
inductive NamesFault where
  | notSequence
  /-- One of the names is no text. -/
  | notText

/-- The names that a datum holds: its items, or the characters of a text. What counts as absent is
no name. -/
def featureNames (d : Datum) : Except NamesFault (List String) :=
  match d.items? with
  | none => .error .notSequence
  | some items => (items.filter Datum.truthy).mapM fun
    | .text name => .ok name
    | _ => .error .notText

/-- Computations in a session that goes on after they fail. -/
abbrev SessionT (m : Type → Type) := ExceptT LoadError (StateT Session m)

namespace Session

variable {m : Type → Type} [Monad m]

/-- The session of a process that has just started. -/
def empty : Session := ⟨none, none, []⟩

/-- A computation beside the session. -/
def beside {ε α : Type} (wrap : ε → LoadError) (action : ExceptT ε m α) : SessionT m α := do
  match ← ExceptT.lift (StateT.lift action.run) with
  | .ok a => return a
  | .error e => throw (wrap e)

/-! ## Features and runtime -/

def activateFeatures (names : List String) : SessionT m (List String) := do
  modify fun s => { s with features := some (activeFeatures names) }
  return activeFeatures names

def activateRuntime (runtime : LinkedRuntime) : SessionT m LinkedRuntime := do
  modify fun s => { s with runtime := some runtime }
  return runtime

/-- Takes back what was activated. -/
def reset : SessionT m Unit := modify fun s => { s with features := none, runtime := none }

variable [Storage m]

def loadSettings (environment : Settings.Environment) : SessionT m Settings :=
  beside .configuration (Settings.load environment none)

/-- The active features. -/
def enabledFeatures (environment : Settings.Environment) : SessionT m (List String) := do
  match (← get).features with
  | some names => return names
  | none => activateFeatures (← loadSettings environment).features

/-- The active runtime. -/
def linkedRuntime (environment : Settings.Environment) : SessionT m LinkedRuntime := do
  match (← get).runtime with
  | some runtime => return runtime
  | none =>
    match (← loadSettings environment).runtimeHeader with
    | none => throw .noRuntime
    | some path => activateRuntime (← beside .header (LinkedRuntime.ofFile path))

/-! ## Loading -/

/-- The name that a module of a snapshot is imported under. -/
def moduleName (version : Version) (category : Category) : String :=
  "_".intercalate (["camctl_generated_v" ++ Number.digitsText version.major,
    Number.digitsText version.minor, Number.digitsText version.patch, category.word])

/-- The bindings that the module in a file leaves. -/
def readModule (run : TextRun) (context : ImportContext) (path : String) :
    ExceptT LoadError m Bindings := do
  let text ← (Storage.readText path).adapt fun
    | .storage e => .unreadable e
    | .encoding _ => .notSource path
  match run context text with
  | .ok bindings => return bindings
  | .error .unreadable => throw (.notSource path)
  | .error fault => throw (.importing fault)

/-- The session with a module under a name. -/
def withModule (s : Session) (name : String) (bindings : Option Bindings) : Session :=
  { s with modules := s.modules.put name bindings }

/-- The session without a module of the name. -/
def without (s : Session) (name : String) : Session :=
  { s with modules := s.modules.filter fun (other, _) => other != name }

/-- The session after the module of a name was registered and failed. -/
def afterFailure (s : Session) (name : String) (e : LoadError) : Session :=
  if e.isExit then s.withModule name none else s.without name

/-- Imports a module under a name. -/
def importModule (run : TextRun) (context : ImportContext) (name path : String) :
    SessionT m Bindings := do
  match ← ExceptT.lift (StateT.lift (readModule run context path).run) with
  | .ok bindings =>
    modify fun s => s.withModule name bindings
    return bindings
  | .error e =>
    modify fun s => s.afterFailure name e
    throw e

/-- The modules of a loaded snapshot. -/
structure Loaded where
  version : Version
  controls : Bindings
  properties : Bindings

/-- The header that describes the runtime to link with: the configured one or the snapshot's own. -/
def headerPath (settings : Settings) (directory : String) : String :=
  match settings.runtimeHeader.filter fun path => !path.isEmpty with
  | some path => path
  | none => Path.join directory Header.fileName

/-- Selects a snapshot, activates the features and the runtime, and imports both modules. -/
def load (run : TextRun) (packages : Packages) (settings : Settings) : SessionT m Loaded := do
  let selected ← beside .selection (Selection.select packages settings)
  let features ← activateFeatures settings.features
  let header := headerPath settings selected.path
  let runtime ← activateRuntime (← beside .header (LinkedRuntime.ofFile header))
  let importCategory (category : Category) : SessionT m Bindings :=
    importModule run ⟨runtime, features.contains⟩ (moduleName selected.version category)
      (Path.join selected.path category.moduleName)
  let controls ← importCategory .controls
  let properties ← importCategory .properties
  return ⟨selected.version, controls, properties⟩

/-- Loads by the given settings, or by those of the process when none are given. -/
def loadModules (run : TextRun) (environment : Settings.Environment) (packages : Packages) :
    Option Settings → SessionT m Loaded
  | some settings => load run packages settings
  | none => do load run packages (← loadSettings environment)

end Session

end ControlSchema
