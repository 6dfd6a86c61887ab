import ControlSchema.Artifact.Manifest
import ControlSchema.Storage.Operation
import ControlSchema.Version

/-!
# Errors about snapshot directories

Most of what can go wrong with a snapshot directory is an error about the directory. A few faults of
its contents come up behind the check for those and are reported as what they are.
-/

namespace ControlSchema

namespace ManifestFault

def message : ManifestFault → String
  | .notMapping (.list _) => "list indices must be integers or slices, not str"
  | .notMapping (.text _) => "string indices must be integers, not 'str'"
  | .notMapping found => "'" ++ found.typeName ++ "' object is not subscriptable"
  | .missingVersion => Text.quoted Manifest.versionKey
  | .badDigests fault => fault.message
  | .badLayout (.float _) => "cannot convert float NaN to integer"
  | .badLayout found => "invalid literal for int() with base 10: " ++ found.shown
  | .infiniteLayout => "cannot convert float infinity to integer"
  | .untypedLayout found =>
    "int() argument must be a string, a bytes-like object or a real number, not '"
      ++ found.typeName ++ "'"

end ManifestFault

/-- Why a file is no manifest. -/
inductive ManifestProblem where
  | unreadable (error : Storage.ReadError)
  | notJson (message : String)
  | badContent (fault : ManifestFault)

inductive ArtifactError where
  | unwritten (version : Version) (path : String) (cause : StorageError)
  | noManifest (path : String)
  | badManifest (file : String) (cause : ManifestProblem)
  | damaged (path : String) (names : List String)
  | uninstalled (name path : String) (cause : StorageError)

namespace ArtifactError

def message : ArtifactError → String
  | .unwritten version path _ => "failed to write snapshot " ++ version.text ++ " to " ++ path
  | .noManifest path => path ++ " has no " ++ Manifest.fileName
  | .badManifest file _ => "invalid manifest " ++ file
  | .damaged path names =>
    "snapshot " ++ path ++ " does not match its manifest: " ++ ", ".intercalate names
  | .uninstalled name path _ => "cannot install " ++ name ++ " from " ++ path

/-- What a report adds to the message. -/
def cause? : ArtifactError → Option String
  | .unwritten _ _ cause | .uninstalled _ _ cause => some cause.message
  | .badManifest _ (.unreadable error) => some error.message
  | .badManifest _ (.notJson message) => some message
  | .badManifest _ (.badContent fault) => some fault.message
  | _ => none

end ArtifactError

/-- What may go wrong when a snapshot directory is checked or copied. -/
inductive ArtifactFault where
  | artifact (error : ArtifactError)
  /-- The manifest's layout is an infinite number. -/
  | infiniteLayout
  /-- The manifest has no digest to compare the seal with. -/
  | undigested (fault : Json.WriteFault)
  /-- The manifest records files under names that are no texts, and they cannot be put in order. -/
  | untypedNames
  /-- The names that are reported are no texts, so they are the names of no files. -/
  | untypedReport (names : List Json.Value)
  | reading (error : Storage.ReadError)

end ControlSchema
