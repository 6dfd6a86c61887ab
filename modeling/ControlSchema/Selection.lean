import ControlSchema.Artifact.Writing
import ControlSchema.Linkage.File
import ControlSchema.Settings
import ControlSchema.Version.Compatibility

/-!
# Selecting a snapshot

The directories that are named by versions are the available snapshots. The one to build against is
the greatest that may serve the linked runtime, whose version the settings name, or its header or
the package that it is installed under tells.
-/

namespace ControlSchema

/-- Why no snapshot is selected. -/
inductive SelectionError where
  /-- The settings name a linked version that is none. -/
  | invalidLinked (text : String)
  /-- Neither the settings nor a header nor a package tell the linked version. -/
  | unknownLinked
  | header (error : HeaderError)
  | unlisted (error : StorageError)
  | mode (error : ChoiceError)
  | unresolved (error : ResolutionError)

namespace SelectionError

/-- The text of an error of the selection's own. -/
def message? : SelectionError → Option String
  | .invalidLinked text => some ("invalid linked_version " ++ Text.quoted text)
  | .unknownLinked =>
    some ("cannot determine the linked libcamera version; set linked_version "
      ++ "(CAMCTL_LINKED_VERSION) or install pkg-config metadata")
  | .mode error => error.message?
  | .unresolved (.mismatch error) => some error.message
  | .unresolved (.version error) => error.message?
  | .header _ | .unlisted _ => none

end SelectionError

/-- What the package tool of the machine answers: the version of a package, if it knows the package.
A tool that is not there knows none. -/
abbrev Packages := String → Option String

namespace Packages

/-- The packages that the runtime may be installed under. -/
def runtimeNames : List String := ["libcamera", "camera"]

/-- The version of the first package that is known under a version. -/
def version? (packages : Packages) : Option Version :=
  runtimeNames.findSome? fun name => do (Version.parse (Text.strip (← packages name))).toOption

end Packages

/-- A selected snapshot with its directory. -/
structure Selection where
  version : Version
  path : String

namespace Selection

variable {m : Type → Type} [Monad m] [Storage m]

/-- The versions of the snapshots in a directory, in order. -/
def available (versionedDir : String) : StorageT m (List Version) := do
  let names ← Storage.sortedNames versionedDir
  let directories ← names.filterM fun name =>
    ExceptT.lift (Storage.isDirectory (Path.join versionedDir name))
  return Version.sort (directories.filterMap fun name => (Version.parse name).toOption)

/-- The version that the header named by the settings tells. -/
def headerVersion? (s : Settings) : ExceptT SelectionError m (Option Version) :=
  match s.runtimeHeader with
  | none => return none
  | some path => do
    if path.isEmpty then return none
    return (← (LinkedRuntime.ofFile path).adapt .header).version

/-- The version of the linked runtime. -/
def linkedVersion (packages : Packages) (s : Settings) : ExceptT SelectionError m Version := do
  match s.linkedVersion.filter fun text => !text.isEmpty with
  | some text =>
    match Version.parse text with
    | .ok version => return version
    | .error _ => throw (.invalidLinked text)
  | none =>
    match (← headerVersion? s) <|> packages.version? with
    | some version => return version
    | none => throw .unknownLinked

/-- The snapshot to build against. -/
def select (packages : Packages) (s : Settings) : ExceptT SelectionError m Selection := do
  let linked ← linkedVersion packages s
  let found ← (available s.versionedDir).adapt .unlisted
  let mode ← ExceptT.mk (pure (s.compat.mapError .mode))
  let version ← ExceptT.mk (pure ((Version.resolveChecked found linked mode).mapError .unresolved))
  return ⟨version, version.directory s.versionedDir⟩

end Selection

end ControlSchema
