import ControlSchema.Release
import ControlSchema.Storage.Operation

/-!
# Sources of releases

A source knows the tags of releases and, for each tag, the names and texts of files. A directory is
a source whose subdirectories are the tags. What of a source counts is decided when releases are
read from it, so a source may know tags and files of any kind.
-/

namespace ControlSchema

/-- Why a source cannot be read. -/
inductive SourceError where
  | noReleases (path : String)
  | unreadable (path : String) (cause : StorageError)
  | noSnapshot (path : String)
  | unnamed (path : String) (cause : VersionError)
  | noDocuments (path : String)
  /-- The program that reads repositories is not there, or neither is the directory to run it in. -/
  | noProgram (directory : String) (cause : StorageError)
  /-- The program was run and failed with a message. -/
  | refused (arguments : List String) (message : String)

namespace SourceError

def message : SourceError → String
  | .noReleases path => "release directory not found: " ++ path
  | .unreadable path _ => "cannot read " ++ path
  | .noSnapshot path => "snapshot directory not found: " ++ path
  | .unnamed path _ => path ++ " is not named by a version"
  | .noDocuments path => path ++ " holds no schema documents"
  | .noProgram directory _ => "cannot run git in " ++ directory
  | .refused arguments message => "git " ++ " ".intercalate arguments ++ " failed: " ++ message

/-- What a report adds to the message. -/
def cause? : SourceError → Option String
  | .unreadable _ cause | .noProgram _ cause => some cause.message
  | _ => none

end SourceError

/-- What may end the reading of releases. -/
inductive ReleaseFault where
  | source (error : SourceError)
  | reading (error : Storage.ReadError)

/-- Where the tags and files of releases come from. -/
structure ReleaseSource (m : Type → Type) where
  tags : ExceptT ReleaseFault m (List String)
  /-- The names of the files of a tag, none for a tag that is not known. -/
  files (tag : String) : ExceptT ReleaseFault m (List String)
  read (tag name : String) : ExceptT ReleaseFault m String

namespace ReleaseSource

variable {m : Type → Type} [Monad m] [Storage m]

/-- The names in a directory, in order, that lead to something of a kind. A name that is listed is
short enough to be followed. -/
def entriesOf (kind : EntryKind) (directory : String) : StorageT m (List String) := do
  let names := (← Storage.names directory).mergeSort textAtMost
  names.filterM fun name => do
    return (← ExceptT.lift (Storage.kind? (Path.join directory name))) == some kind

/-- A fault of storage, that is not a fault of the source itself. -/
def asFault {α : Type} (action : StorageT m α) : ExceptT ReleaseFault m α :=
  action.adapt fun e => .reading (.storage e)

/-- The text of a file; that it cannot be had is a fault of the source, that it is no text is not.
-/
def readDocument (path : String) : ExceptT ReleaseFault m String :=
  (Storage.readText path).adapt fun
    | .storage cause => .source (.unreadable path cause)
    | .encoding fault => .reading (.encoding fault)

/-- The directory of a tag, which may be several directories below the source. -/
def tagDirectory (root tag : String) : String := Path.below root tag

/-- The source whose tags are the subdirectories of a directory. -/
def inDirectory (root : String) : ReleaseSource m where
  tags := asFault (entriesOf .directory root)
  files tag := do
    if ← asFault (Storage.leadsTo .directory (tagDirectory root tag)) then
      asFault (entriesOf .file (tagDirectory root tag))
    else return []
  read tag name := readDocument (Path.below (tagDirectory root tag) name)

/-- The source in a directory, which must be there. -/
def ofDirectory (path : String) : ExceptT ReleaseFault m (ReleaseSource m) := do
  let root := Path.tidy path
  if ← asFault (Storage.leadsTo .directory root) then return inDirectory root
  else throw (.source (.noReleases root))

end ReleaseSource

end ControlSchema
