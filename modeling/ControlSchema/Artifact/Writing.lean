import ControlSchema.Artifact.Error
import ControlSchema.Artifact.Manifest
import ControlSchema.Bindings.Generation
import ControlSchema.Header
import ControlSchema.Release

/-!
# Rendering and writing snapshots

The files of a snapshot directory are the documents of the release as they are, a generated module
for each category, the header, and the manifest. All of them are made before any is written, so that
a release that cannot be rendered leaves no trace.

The files of a snapshot are written to a temporary directory beside the place where the snapshot
belongs, and the directory is moved there when it is complete. Whatever goes wrong, the temporary
directory is swept away. An earlier snapshot of the version is taken away just before the move.
-/

namespace ControlSchema

/-! ## Rendering -/

/-- The names of the generated files. -/
def Category.moduleName : Category → String
  | .controls => "controls.py"
  | .properties => "properties.py"

def Header.fileName : String := "controls.h"

namespace Snapshot

/-- The generated files, the modules before the header. -/
def outputs (s : Snapshot) : Except GenerationError (Table String String) := do
  let controls ← Bindings.generate s .controls
  let properties ← Bindings.generate s .properties
  let header ← (Header.generate s).mapError fun _ => .unwritable
  return [
    (Category.controls.moduleName, controls), (Category.properties.moduleName, properties),
    (Header.fileName, header)]

end Snapshot

namespace Release

/-- The manifest over the given generated files, without its seal. -/
def unsealed (r : Release) (s : Snapshot) (outputs : Table String String) (createdAt : String) :
    Manifest where
  version := .whole s.version.text
  tag := .whole r.tag
  sources := Manifest.digestsOf r.allDocuments
  outputs := Manifest.digestsOf outputs
  generator := .whole Manifest.generatorName
  createdAt := .whole createdAt
  layout := Manifest.currentLayout
  digest := .whole ""

def manifest (r : Release) (s : Snapshot) (outputs : Table String String) (createdAt : String) :
    Manifest :=
  (r.unsealed s outputs createdAt).sealed

/-- All files of the directory of the release's snapshot. -/
def render (r : Release) (s : Snapshot) (createdAt : String) :
    Except GenerationError (Table String String) := do
  let outputs ← s.outputs
  let files := Table.merge r.allDocuments outputs
  return files.put Manifest.fileName (r.manifest s outputs createdAt).text

end Release

/-! ## Writing -/

/-- Why a release has no snapshot directory. -/
inductive WriteError where
  | generation (error : GenerationError)
  | artifact (error : ArtifactError)

/-- The directory of a version's snapshot. -/
def Version.directory (v : Version) (versionedDir : String) : String :=
  Path.join versionedDir v.text

namespace Release

variable {m : Type → Type} [Monad m] [Storage m]

/-- Fills a temporary directory and moves it to its place. -/
def placeFiles (files : Table String String) (temporary final : String) : StorageT m Unit := do
  files.sorted.forM fun (name, text) => Storage.writeText (Path.join temporary name) text
  Storage.moveOver temporary final

/-- Puts a directory of the given files in the place of what was there. -/
def replaceDirectory (files : Table String String) (final : String) : StorageT m Unit := do
  let temporary ← Storage.temporaryBeside final
  match ← ExceptT.lift (placeFiles files temporary final).run with
  | .ok () => return
  | .error e =>
    ExceptT.lift (Storage.sweepTree temporary)
    throw e

/-- Writes the snapshot directory of a release and answers its path. -/
def write (r : Release) (s : Snapshot) (versionedDir : String) : ExceptT WriteError m String := do
  let createdAt := (← ExceptT.lift Storage.now).joined "T"
  let files ← ExceptT.mk (pure ((r.render s createdAt).mapError .generation))
  let final := s.version.directory versionedDir
  (replaceDirectory files final).adapt fun e => .artifact (.unwritten s.version final e)
  return final

end Release

end ControlSchema
