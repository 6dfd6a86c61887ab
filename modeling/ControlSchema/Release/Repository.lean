import ControlSchema.Release.Source

/-!
# Repositories as sources

The releases of a repository are its tags, and their files are read with the program git, without a
checkout. What git answers is up to git: it is run with arguments in a directory, and leaves the
bytes that it wrote and whether it succeeded. A tag that git cannot list has no files; every other
failure ends the reading.
-/

namespace ControlSchema

/-- What a run of git leaves behind. -/
structure GitReport where
  succeeded : Bool
  output : ByteArray
  messages : ByteArray

/-- The program git, run with arguments in a directory, the working directory unless one is given.
It may change whatever there is. That it cannot be run is a fault. -/
abbrev Git (m : Type → Type) := List String → Option String → StorageT m GitReport

namespace ReleaseSource

variable {m : Type → Type} [Monad m] [Storage m]

def decoded (bytes : ByteArray) : ExceptT ReleaseFault m String :=
  ExceptT.mk (pure ((Text.linesOfBytes bytes).mapError fun fault => .reading (.encoding fault)))

/-- The output of git, which has to succeed. -/
def runGit (git : Git m) (arguments : List String) (directory : Option String) :
    ExceptT ReleaseFault m String := do
  match ← ExceptT.lift (git arguments directory).run with
  | .error e =>
    if e.fault = .missing then
      let place ← match directory with
        | some directory => pure directory
        | none => ExceptT.lift Storage.workingDirectory
      throw (.source (.noProgram place e))
    else throw (.reading (.storage e))
  | .ok report =>
    let output ← decoded report.output
    let messages ← decoded report.messages
    if report.succeeded then return output
    else throw (.source (.refused arguments (Text.strip messages)))

/-- The lines of an output, without the blanks around them and without those that are empty. -/
def linesOf (output : String) : List String :=
  ((Text.lines output).map Text.strip).filter fun line => !line.isEmpty

/-- The source whose tags are those of the repository in a directory. The documents of a tag stand
in one directory of its tree. -/
def inRepository (git : Git m) (directory schemaDir : String) : ReleaseSource m where
  tags := return linesOf (← runGit git ["tag", "--list"] (some directory))
  files tag := do
    let arguments := ["ls-tree", "--name-only", tag ++ ":" ++ schemaDir]
    match ← ExceptT.lift (runGit git arguments (some directory)).run with
    | .ok output => return (linesOf output).mergeSort textAtMost
    | .error (.source _) => return []
    | .error fault => throw fault
  read tag name := runGit git ["show", tag ++ ":" ++ schemaDir ++ "/" ++ name] (some directory)

/-- The names of which one is in the directory of every repository. -/
def repositoryNames : List String := [".git", "HEAD"]

def isRepository (directory : String) : StorageT m Bool :=
  repositoryNames.anyM fun name => Storage.leads (Path.below directory name)

/-- Brings the repository in a directory up to date, or clones it there if there is none, and
answers the path of the directory. -/
def prepare (git : Git m) (url directory : String) : ExceptT ReleaseFault m String := do
  let path := Path.tidy directory
  if ← asFault (isRepository path) then
    let _ ← runGit git ["fetch", "--tags", "--force", "origin"] (some path)
  else
    asFault (Storage.makeAscent (Path.ascent (Path.tidy (Path.parent path))))
    let _ ← runGit git ["clone", "--no-checkout", url, path] none
  return path

/-- The directory without slashes around it. -/
def withoutSlashes (directory : String) : String :=
  let trimmed := directory.toList.dropWhile (· == '/')
  String.ofList (trimmed.reverse.dropWhile (· == '/')).reverse

/-- The source of a repository that is prepared first. -/
def ofRepository (git : Git m) (url directory schemaDir : String) :
    ExceptT ReleaseFault m (ReleaseSource m) := do
  return inRepository git (← prepare git url directory) (withoutSlashes schemaDir)

end ReleaseSource

end ControlSchema
