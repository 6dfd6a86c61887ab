import ControlSchema.Datum
import ControlSchema.Storage.Path
import ControlSchema.Text.Quoted

/-!
# Storage

What the library asks of a file system, as a class of primitive operations over any monad. An
operation either does its whole work or fails and changes nothing. Programs run it on the file
system of the machine; a disk that is a value answers the same questions, and can be told to fail.
-/

namespace ControlSchema

inductive EntryKind where
  | file
  | directory
deriving DecidableEq

/-- Why an operation failed. -/
inductive StorageFault where
  | missing
  | notDirectory
  | alreadyExists
  | isDirectory
  | notEmpty
  | nameTooLong
  | invalid
  | inputOutput
  | other (code : Nat) (description : String)
deriving DecidableEq

namespace StorageFault

/-- The number and the words of a fault. -/
def code : StorageFault → Nat × String
  | .missing => (2, "No such file or directory")
  | .notDirectory => (20, "Not a directory")
  | .alreadyExists => (17, "File exists")
  | .isDirectory => (21, "Is a directory")
  | .notEmpty => (39, "Directory not empty")
  | .nameTooLong => (36, "File name too long")
  | .invalid => (22, "Invalid argument")
  | .inputOutput => (5, "Input/output error")
  | .other code description => (code, description)

end StorageFault

/-- A failed operation with the path that it was about, and the path that it would have led to. -/
structure StorageError where
  fault : StorageFault
  path : String
  target : Option String
deriving DecidableEq

namespace StorageError

def message (e : StorageError) : String :=
  let (code, description) := e.fault.code
  "[Errno " ++ toString code ++ "] " ++ description ++ ": " ++ Text.quoted e.path
    ++ e.target.elim "" fun target => " -> " ++ Text.quoted target

end StorageError

/-- Computations that may fail as storage does. -/
abbrev StorageT (m : Type → Type) := ExceptT StorageError m

/-- The primitive operations. -/
class Storage (m : Type → Type) where
  /-- What a path leads to, nothing when it leads nowhere. A path that cannot be followed for its
  own sake is a fault. -/
  look (path : String) : StorageT m (Option EntryKind)
  /-- The names in a directory, in any order. -/
  names (path : String) : StorageT m (List String)
  read (path : String) : StorageT m ByteArray
  /-- Makes a file, or replaces the content of one. -/
  write (path : String) (content : ByteArray) : StorageT m Unit
  makeDirectory (path : String) : StorageT m Unit
  /-- Makes a directory under a name that is not in use, between a beginning and an ending. -/
  makeTemporary (directory beginning ending : String) : StorageT m String
  removeFile (path : String) : StorageT m Unit
  /-- Removes a directory that is empty. -/
  removeDirectory (path : String) : StorageT m Unit
  /-- Moves a file or directory to another path, over what may stand there. -/
  replace (source target : String) : StorageT m Unit
  workingDirectory : m String
  now : m Moment

end ControlSchema
