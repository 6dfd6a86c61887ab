import ControlSchema.Artifact.Verification
import ControlSchema.Selection

/-!
# Installing a snapshot

Installing copies the generated files of the selected snapshot, byte for byte, once it has been
found to be intact.
-/

namespace ControlSchema

inductive InstallationError where
  | selection (error : SelectionError)
  | artifact (fault : ArtifactFault)
  /-- The directory to install into cannot be made. -/
  | destination (error : StorageError)

namespace Selection

variable {m : Type → Type} [Monad m] [Storage m]

/-- Refuses a snapshot that does not match its manifest. -/
def checkIntact (path : String) : ExceptT ArtifactFault m Unit := do
  let damaged ← Manifest.verify path
  if !damaged.isEmpty then throw (.artifact (.damaged path damaged))

/-- The files that are installed. -/
def installedNames : List String := Category.all.map Category.moduleName ++ [Header.fileName]

/-- Copies one file of a snapshot and answers the path of the copy. -/
def copyFile (source destination name : String) : ExceptT ArtifactFault m String := do
  let failed (e : StorageError) : ArtifactFault := .artifact (.uninstalled name source e)
  let text ← (Storage.readExact (Path.join source name)).adapt fun
    | .storage e => failed e
    | .encoding fault => .reading (.encoding fault)
  let target := Path.join destination name
  (Storage.writeText target text).adapt failed
  return target

/-- Copies the generated files of the selected snapshot and answers the paths of the copies. -/
def install (packages : Packages) (s : Settings) (destination : String) :
    ExceptT InstallationError m (List String) := do
  let selected ← (select packages s).adapt .selection
  (checkIntact selected.path).adapt .artifact
  (Storage.makeDirectories destination true).adapt .destination
  installedNames.mapM fun name => (copyFile selected.path destination name).adapt .artifact

end Selection

end ControlSchema
