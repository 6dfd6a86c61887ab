import ControlSchema.Table
import ControlSchema.Version.Compatibility

/-!
# Settings

Settings come in layers: defaults, a configuration file, the environment, the command line. Each
layer is a mapping in which some fields may be missing or make no sense. What is acceptable for a
field replaces the field; anything else leaves it as the layers before it made it.
-/

namespace ControlSchema

open Text

structure Settings where
  /-- The directory of the generated snapshots. -/
  versionedDir : String
  compatMode : String
  /-- The version of the linked runtime, where it is not to be found out. -/
  linkedVersion : Option String
  /-- The header of the linked runtime, where it is not that of the snapshot. -/
  runtimeHeader : Option String
  features : List String
  gitUrl : String
  gitDir : String
  schemaDir : String
  logLevel : String
deriving DecidableEq

namespace Settings

def default : Settings where
  versionedDir := "versioned_files"
  compatMode := CompatMode.exact.word
  linkedVersion := none
  runtimeHeader := none
  features := ["vendor_draft", "vendor_rpi"]
  gitUrl := "https://git.libcamera.org/libcamera/libcamera.git"
  gitDir := ".cache/libcamera"
  schemaDir := "src/libcamera"
  logLevel := "INFO"

/-- The mode that the settings name. -/
def compat (s : Settings) : Except ChoiceError CompatMode := CompatMode.ofDatum (.text s.compatMode)

/-! ## What a field accepts -/

/-- A text that is not blank. -/
def acceptText : Datum → Option String
  | .text s => if (strip s).isEmpty then none else some (strip s)
  | _ => none

/-- Any text; a blank one takes the setting away. -/
def acceptOptional : Datum → Option (Option String)
  | .text s => some (if (strip s).isEmpty then none else some (strip s))
  | _ => none

/-- The word of a mode, in any letter case. -/
def acceptMode : Datum → Option String
  | .text s =>
    let word := lower (strip s)
    if word == CompatMode.exact.word || word == CompatMode.caret.word then some word else none
  | _ => none

def logLevels : List String := ["DEBUG", "INFO", "WARNING", "ERROR", "CRITICAL"]

/-- The word of a log level, in any letter case. -/
def acceptLevel : Datum → Option String
  | .text s =>
    let word := upper (strip s)
    if logLevels.contains word then some word else none
  | _ => none

def nonempty (names : List String) : List String := names.filter fun name => !name.isEmpty

/-- Names between commas, or the plain texts of a list. -/
def acceptFeatures : Datum → Option (List String)
  | .text s =>
    some (nonempty ((splitOn ',' s.toList).map fun piece => strip (String.ofList piece)))
  | .list items | .tuple items => some (nonempty (items.map fun item => strip item.plain))
  | _ => none

/-! ## Layers -/

/-- The acceptable value of a field in a mapping. -/
def field? {α : Type} (accept : Datum → Option α) (key : String) (layer : List (Datum × Datum)) :
    Option α :=
  (Datum.lookup? key layer).bind accept

/-- The settings with a layer over them. -/
def overlay (s : Settings) (layer : List (Datum × Datum)) : Settings where
  versionedDir := (field? acceptText "versioned_dir" layer).getD s.versionedDir
  compatMode := (field? acceptMode "compat_mode" layer).getD s.compatMode
  linkedVersion := (field? acceptOptional "linked_version" layer).getD s.linkedVersion
  runtimeHeader := (field? acceptOptional "runtime_header" layer).getD s.runtimeHeader
  features := (field? acceptFeatures "features" layer).getD s.features
  gitUrl := (field? acceptText "git_url" layer).getD s.gitUrl
  gitDir := (field? acceptText "git_dir" layer).getD s.gitDir
  schemaDir := (field? acceptText "schema_dir" layer).getD s.schemaDir
  logLevel := (field? acceptLevel "log_level" layer).getD s.logLevel

/-- Whether the names of features in a mapping can be written: an integer among them may be too
long. -/
def featuresWritable (layer : List (Datum × Datum)) : Bool :=
  match Datum.lookup? "features" layer with
  | some (.list items) | some (.tuple items) => Datum.areWritable items
  | _ => true

/-- The settings with a configuration over them, none if a name of a feature cannot be written. What
is no mapping configures nothing. -/
def configure? (s : Settings) : Datum → Option Settings
  | .dict layer => if featuresWritable layer then some (s.overlay layer) else none
  | _ => some s

/-! ## The environment -/

abbrev Environment := Table String String

/-- The fields that an empty variable does not set. -/
def variableKeys : List String := [
  "versioned_dir", "compat_mode", "linked_version", "runtime_header", "git_url", "git_dir",
  "schema_dir", "log_level"]

/-- The name of the variable for a field. -/
def variableName (beginning key : String) : String := beginning ++ upper key

/-- The layer of the environment. An empty list of features is a list of features. -/
def environmentLayer (beginning : String) (environment : Environment) : List (Datum × Datum) :=
  (variableKeys.filterMap fun key =>
    match environment.get? (variableName beginning key) with
    | some value => if value.isEmpty then none else some (.text key, .text value)
    | none => none)
  ++ match environment.get? (variableName beginning "features") with
    | some value => [(.text "features", .text value)]
    | none => []

/-- What the names of the variables begin with. -/
def variablePrefix : String := "CAMCTL_"

/-- The settings with the environment over them. -/
def withEnvironment (s : Settings) (environment : Environment)
    (beginning : String) : Settings :=
  s.overlay (environmentLayer beginning environment)

end Settings

/-! ## Features -/

/-- The names that are there when the given names are enabled: blanks at the ends and blank names
do not count. -/
def activeFeatures (names : List String) : List String :=
  (Settings.nonempty (names.map strip)).eraseDups

end ControlSchema
