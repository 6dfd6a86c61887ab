import ControlSchema.Storage.Basic
import ControlSchema.Table
import ControlSchema.Text.Utf8

/-!
# Operations on storage

What programs do with files and directories, made of the primitive operations. A file that is to
appear whole is written under a temporary name beside its destination and moved there; a directory
that stands at the destination is taken away first, entry by entry.
-/

namespace ControlSchema.Storage

variable {m : Type → Type} [Monad m] [Storage m]

/-! ## Questions

Most of them let a path that cannot be followed lead nowhere. -/

def kind? (path : String) : m (Option EntryKind) := return (← (look path).run).toOption.join

def isDirectory (path : String) : m Bool := return (← kind? path) == some .directory

def isFile (path : String) : m Bool := return (← kind? path) == some .file

def present (path : String) : m Bool := return (← kind? path).isSome

/-- Whether a path leads to anything, when it can be told. -/
def leads (path : String) : StorageT m Bool := return (← look path).isSome

/-- Whether a path leads to something of a kind, when it can be told. -/
def leadsTo (kind : EntryKind) (path : String) : StorageT m Bool :=
  return (← look path) == some kind

/-- The names in a directory in order, none when there is no directory. -/
def sortedNames (path : String) : StorageT m (List String) := do
  match ← ExceptT.lift (names path).run with
  | .ok found => return found.mergeSort textAtMost
  | .error e => if e.fault = .missing then return [] else throw e

/-! ## Texts -/

/-- Why a text could not be read. -/
inductive ReadError where
  | storage (error : StorageError)
  | encoding (fault : Text.EncodingFault)

def ReadError.message : ReadError → String
  | .storage error => error.message
  | .encoding fault => fault.message

/-- The text in a file as it was written. -/
def readExact (path : String) : ExceptT ReadError m String := do
  let bytes ← (read path).adapt .storage
  match Text.ofBytes bytes with
  | .ok text => return text
  | .error fault => throw (.encoding fault)

/-- The text in a file with line feeds for its line ends. -/
def readText (path : String) : ExceptT ReadError m String := do
  return Text.unifyBreaks (← readExact path)

def writeText (path text : String) : StorageT m Unit := write path text.toUTF8

/-! ## Directories -/

/-- Makes the first directory of a lineage, and before it those above it that are missing. It is no
fault if a directory is there by then, unless it should be new. -/
def makeLineage (mayExist : Bool) : List String → StorageT m Unit
  | [] => return
  | path :: above => do
    if let some head := above.head? then
      if !(← ExceptT.lift (present head)) then
        if let .error e ← ExceptT.lift (makeLineage mayExist above).run then
          if e.fault ≠ .alreadyExists then throw e
        if (Path.split path).2 == "." then return
    match ← ExceptT.lift (makeDirectory path).run with
    | .ok () => return
    | .error e => if !(mayExist && (← ExceptT.lift (isDirectory path))) then throw e

def makeDirectories (path : String) (mayExist : Bool) : StorageT m Unit :=
  makeLineage mayExist (Path.lineage path)

/-- Makes a directory, unless there is one. What is above it has to be there. -/
def makeOnce (path : String) : StorageT m Unit := do
  match ← ExceptT.lift (makeDirectory path).run with
  | .ok () => return
  | .error e =>
    if e.fault = .missing then throw e
    if !(← leadsTo .directory path) then throw e

/-- Makes the first directory of an ascent, after those above it if it cannot be made without. -/
def makeAscent : List String → StorageT m Unit
  | [] => return
  | path :: above => do
    match ← ExceptT.lift (makeOnce path).run with
    | .ok () => return
    | .error e =>
      if e.fault = .missing && !above.isEmpty then
        makeAscent above
        makeOnce path
      else throw e

/-- Makes a temporary directory beside a path, in the same directory and with its name in it. -/
def temporaryBeside (path : String) : StorageT m String := do
  let directory := Path.parent (Path.absolute (← ExceptT.lift workingDirectory) path)
  makeDirectories directory true
  makeTemporary directory ("." ++ Path.baseName path ++ ".") ".tmp"

/-- Directories are not nested deeper than a path can be long. -/
def depthLimit : Nat := 4096

/-- Takes away a directory and all that is in it, up to the first fault. -/
def removeDown : Nat → String → StorageT m Unit
  | 0, path => throw ⟨.nameTooLong, path, none⟩
  | depth + 1, path => do
    (← names path).forM fun name => do
      let inner := Path.join path name
      if ← ExceptT.lift (isDirectory inner) then removeDown depth inner else removeFile inner
    removeDirectory path

/-- Takes away as much of a directory as can be taken away. -/
def sweepDown : Nat → String → m Unit
  | 0, _ => return
  | depth + 1, path => do
    match ← (names path).run with
    | .error _ => return
    | .ok found =>
      found.forM fun name => do
        let inner := Path.join path name
        if ← isDirectory inner then sweepDown depth inner
        else do let _ ← (removeFile inner).run
      let _ ← (removeDirectory path).run

def removeTree (path : String) : StorageT m Unit := removeDown depthLimit path

def sweepTree (path : String) : m Unit := sweepDown depthLimit path

/-- Moves a file or directory over what stands at the target. -/
def moveOver (source target : String) : StorageT m Unit := do
  if ← ExceptT.lift (isDirectory target) then removeTree target
  replace source target

end ControlSchema.Storage
