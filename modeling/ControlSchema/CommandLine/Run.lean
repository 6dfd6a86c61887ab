import ControlSchema.CommandLine.Command
import ControlSchema.Installation
import ControlSchema.Release.Reading
import ControlSchema.Release.Repository
import ControlSchema.Settings.File
import ControlSchema.Snapshot

/-!
# Running commands

A command prints as it goes on, so what it printed stays printed when it fails. Most failures are
reported in one line; a failure that no command is prepared for interrupts the program.
-/

namespace ControlSchema.CommandLine

/-! ## Failures -/

inductive CommandError where
  | configuration (fault : ConfigurationFault)
  | version (error : VersionError)
  | source (fault : ReleaseFault)
  | release (error : ReleaseError)
  | generation (error : GenerationError)
  | artifact (fault : ArtifactFault)
  | selection (error : SelectionError)
  | storage (error : StorageError)

namespace CommandError

/-- What is reported of a number that is too long to be read. -/
def tooManyDigits : String := "a number has too many digits"

/-- What is reported of a text that cannot be encoded. -/
def halfCharacter : String := "half of a character stands alone"

def withCause (message : String) (cause : Option String) : String :=
  message ++ cause.elim "" fun cause => ": " ++ cause

/-- Of the faults of reading, those of storage are not expected. -/
def readReport? : Storage.ReadError → Option String
  | .storage _ => none
  | .encoding fault => some fault.message

def releaseReport? : ReleaseError → Option String
  | .document (.badScalar .badValue) => some "a scalar is no value of its type"
  | .document .unwritable | .document (.badEntry _ _ .unwritable) => some Datum.tooLongToWrite
  | .document error => error.message?
  | .repeated error => some (error.version.text ++ ": " ++ error.message)

def selectionReport? : SelectionError → Option String
  | .header (.unreachable _) => none
  | .header (.unreadable error) => readReport? error
  | .header (.badNumber _) => some tooManyDigits
  | .unlisted _ => none
  | .unresolved (.version error) => some (error.message?.getD tooManyDigits)
  | error => error.message?

/-- The report of a failure, none for those that are not expected. -/
def report? : CommandError → Option String
  | .configuration .tooDeep | .configuration (.unreachable _) => none
  | .configuration fault => some fault.message
  | .version error => some (error.message?.getD tooManyDigits)
  | .source (.source error) => some (withCause error.message error.cause?)
  | .source (.reading error) => readReport? error
  | .release error => releaseReport? error
  | .generation error => some (error.message?.getD Datum.tooLongToWrite)
  | .artifact (.artifact error) => some (withCause error.message error.cause?)
  | .artifact (.reading error) => readReport? error
  | .artifact (.undigested .tooLong) => some Datum.tooLongToWrite
  | .artifact (.undigested .unencodable) => some halfCharacter
  | .artifact .infiniteLayout | .artifact .untypedNames | .artifact (.untypedReport _)
  | .artifact (.undigested .notJson) => none
  | .selection error => selectionReport? error
  | .storage _ => none

def ofWriting : WriteError → CommandError
  | .generation error => .generation error
  | .artifact error => .artifact (.artifact error)

def ofInstallation : InstallationError → CommandError
  | .selection error => .selection error
  | .artifact fault => .artifact fault
  | .destination error => .storage error

end CommandError

/-- Commands that print and may fail. -/
abbrev CommandT (m : Type → Type) := ExceptT CommandError (StateT String m)

variable {m : Type → Type} [Monad m]

/-- An action that prints nothing. -/
def silently {ε α : Type} (wrap : ε → CommandError) (action : ExceptT ε m α) : CommandT m α := do
  match ← ExceptT.lift (StateT.lift action.run) with
  | .ok a => return a
  | .error e => throw (wrap e)

def purely {ε α : Type} (wrap : ε → CommandError) (result : Except ε α) : CommandT m α :=
  ExceptT.mk (pure (result.mapError wrap))

def print (text : String) : CommandT m Unit := modify (· ++ text)

def printLine (text : String) : CommandT m Unit := print (text ++ "\n")

/-! ## Commands -/

/-- What the machine has of other programs. -/
structure Tools (m : Type → Type) where
  packages : Packages
  git : Git m

variable [Storage m]

/-- The source that releases are generated from: a directory, or else the configured repository. -/
def releaseSource (git : Git m) (settings : Settings) :
    Option String → ExceptT ReleaseFault m (ReleaseSource m)
  | some path => ReleaseSource.ofDirectory path
  | none => ReleaseSource.ofRepository git settings.gitUrl settings.gitDir settings.schemaDir

/-- The releases that are to be generated. -/
def releasesFrom (git : Git m) (settings : Settings) (source : Option String)
    (tags : Option (List String)) :
    ExceptT ReleaseFault m (Except VersionError (List Release)) := do
  Release.readAllChecked (← releaseSource git settings source) tags

variable [Readers]

/-- Writes the snapshot of one release. -/
def generateRelease (settings : Settings) (release : Release) : CommandT m Unit := do
  let snapshot ← purely .release release.parse
  let path ← silently .ofWriting (release.write snapshot settings.versionedDir)
  printLine ("[ok] " ++ snapshot.version.text ++ ": "
    ++ Number.digitsText snapshot.controls.length ++ " controls, "
    ++ Number.digitsText snapshot.properties.length ++ " properties -> " ++ path)

def generate (git : Git m) (settings : Settings) (source : Option String)
    (tags : Option (List String)) : CommandT m Unit := do
  let releases ← purely .version (← silently .source (releasesFrom git settings source tags))
  if releases.isEmpty then printLine "[INFO] No release tags with schema documents found"
  else releases.forM (generateRelease settings)

def listVersions (settings : Settings) : CommandT m Unit := do
  let versions ← silently .storage (Selection.available settings.versionedDir)
  if versions.isEmpty then
    let directory ← ExceptT.lift (StateT.lift Storage.workingDirectory)
    printLine ("[INFO] No snapshots under " ++ Path.absolute directory settings.versionedDir)
  else versions.forM fun v => printLine v.text

def select (packages : Packages) (settings : Settings) (destination : Option String) :
    CommandT m Unit := do
  let selected ← silently .selection (Selection.select packages settings)
  printLine ("[ok] selected " ++ selected.version.text ++ " (" ++ selected.path ++ ")")
  if let some destination := destination then
    let written ← silently .ofInstallation (Selection.install packages settings destination)
    written.forM fun path => printLine ("[INFO] Wrote " ++ path)

/-- The snapshot of a version that is given by its text. -/
def readSnapshot (settings : Settings) (version : String) : CommandT m Snapshot := do
  let version ← purely .version (Version.parse version)
  let directory := version.directory settings.versionedDir
  let release ← silently .source (Release.ofSnapshotDirectory directory (some version))
  purely .release release.parse

def showHeader (settings : Settings) (version : String) (file : Option String) :
    CommandT m Unit := do
  let snapshot ← readSnapshot settings version
  let header ← purely (fun _ => .generation .unwritable) (Header.generate snapshot)
  match file with
  | none => print header
  | some file =>
    silently .storage (Storage.writeText (Path.tidy file) header)
    printLine ("[INFO] Wrote " ++ file)

/-- So many items from the front, or all but so many for a negative number. -/
def firstRows {α : Type} (count : Int) (rows : List α) : List α :=
  rows.take (if count < 0 then (rows.length + count).toNat else count.toNat)

/-- A cell as it is printed; nothing is a hyphen. -/
def cellText : Datum → String
  | .null => "-"
  | d => d.plain

def showCatalogue (settings : Settings) (version : String) (category : Category) (rows : Int) :
    CommandT m Unit := do
  let snapshot ← readSnapshot settings version
  printLine ("\t".intercalate CatalogueRow.columns)
  (firstRows rows (snapshot.catalogue category)).forM fun row =>
    printLine ("\t".intercalate (row.cells.map cellText))

def perform (tools : Tools m) (settings : Settings) : Command → CommandT m Unit
  | .generate source tags => generate tools.git settings source tags
  | .versions => listVersions settings
  | .select destination => select tools.packages settings destination
  | .header version file => showHeader settings version file
  | .catalogue version category rows => showCatalogue settings version category rows

/-- The settings from all layers. -/
def Invocation.settings (i : Invocation) (environment : Settings.Environment) :
    ExceptT ConfigurationFault m Settings := do
  return (← Settings.load environment i.config).overlay i.overrides

def Invocation.execute (i : Invocation) (environment : Settings.Environment) (tools : Tools m) :
    CommandT m Unit := do
  perform tools (← silently .configuration (i.settings environment)) i.command

/-! ## Programs -/

/-- How a program ends. -/
inductive Ending where
  /-- Nothing was asked for. -/
  | idle
  | success
  | misuse
  | failure (report : String)
  | interrupted (error : CommandError)

namespace Ending

/-- The exit code; a program that is idle ends without one, an interrupted one does not end. -/
def exitCode? : Ending → Option Nat
  | .success => some 0
  | .failure _ => some 1
  | .misuse => some 2
  | .idle | .interrupted _ => none

/-- What is printed among the errors. -/
def report : Ending → String
  | .failure report => "[ERROR] " ++ report ++ "\n"
  | _ => ""

end Ending

structure Outcome where
  ending : Ending
  output : String

def usage : String :=
  "usage: camctl generate | versions | select | header VERSION | catalogue VERSION\n"

/-- What a finished command amounts to. -/
def Outcome.ofResult : Except CommandError Unit → String → Outcome
  | .ok (), output => ⟨.success, output⟩
  | .error e, output => ⟨e.report?.elim (.interrupted e) .failure, output⟩

/-- Runs the program on a command line, in the environment that has been prepared for it. The usual
settings are loaded before anything else. -/
def run (environment : Settings.Environment) (tools : Tools m) (arguments : List String) :
    m Outcome := do
  match arguments with
  | [] => return ⟨.idle, usage⟩
  | name :: rest =>
    match ← (Settings.load environment none).run with
    | .error fault => return ⟨.interrupted (.configuration fault), ""⟩
    | .ok _ =>
      match Invocation.read name rest with
      | .error .help => return ⟨.success, usage⟩
      | .error .misuse => return ⟨.misuse, ""⟩
      | .ok invocation =>
        let (result, output) ← (invocation.execute environment tools).run.run ""
        return Outcome.ofResult result output

end ControlSchema.CommandLine
