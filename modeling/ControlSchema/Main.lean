import ControlSchema.CommandLine.Run
import ControlSchema.Datum.Calendar
import ControlSchema.Readers.Standard

/-!
# The program

The command line on the machine's own file system, environment and clock.
-/

namespace ControlSchema.Machine

/-- A fault by the number and the words that the system has for it. -/
def faultOfCode (code : Nat) (description : String) : StorageFault :=
  let known : List StorageFault := [
    .missing, .notDirectory, .alreadyExists, .isDirectory, .notEmpty, .nameTooLong, .invalid,
    .inputOutput]
  (known.find? fun fault => fault.code.1 == code).getD (.other code description)

def faultOf (error : IO.Error) : StorageFault :=
  match error with
  | .noFileOrDirectory _ code details => faultOfCode code.toNat details
  | .alreadyExists _ code details => faultOfCode code.toNat details
  | .inappropriateType _ code details => faultOfCode code.toNat details
  | .invalidArgument _ code details => faultOfCode code.toNat details
  | .permissionDenied _ code details => faultOfCode code.toNat details
  | .resourceExhausted _ code details => faultOfCode code.toNat details
  | .unsatisfiedConstraints code details => faultOfCode code.toNat details
  | .hardwareFault code details => faultOfCode code.toNat details
  | .resourceBusy code details => faultOfCode code.toNat details
  | .otherError code details => faultOfCode code.toNat details
  | error => .other 0 (toString error)

/-- An operation of the machine, which may fail. -/
def attempt {α : Type} (path : String) (target : Option String) (action : IO α) : StorageT IO α :=
  ExceptT.mk do
    match ← action.toBaseIO with
    | .ok a => return .ok a
    | .error e => return .error ⟨faultOf e, path, target⟩

/-- The faults of a path that leads nowhere. -/
def leadsNowhere (fault : StorageFault) : Bool := fault = .missing || fault = .notDirectory

def look (path : String) : StorageT IO (Option EntryKind) := ExceptT.mk do
  match ← ((← IO.currentDir) / path).metadata.toBaseIO with
  | .ok found => return .ok (some (if found.type matches .dir then .directory else .file))
  | .error e =>
    if leadsNowhere (faultOf e) then return .ok none else return .error ⟨faultOf e, path, none⟩

def names (path : String) : IO (List String) := do
  let entries ← ((← IO.currentDir) / path).readDir
  return entries.toList.map fun entry => entry.fileName

/-- Makes a directory under the first name that is free, up to a limit. -/
def makeTemporary (directory beginning ending : String) : Nat → Nat → IO String
  | 0, _ => throw (IO.userError "no temporary name is free")
  | tries + 1, n => do
    let path := Path.join directory (beginning ++ padded 8 n ++ ending)
    match ← (IO.FS.createDir path).toBaseIO with
    | .ok () => return path
    | .error (.alreadyExists ..) => makeTemporary directory beginning ending tries (n + 1)
    | .error e => throw e

/-- The time at which a file is made. -/
def now : IO Moment := do
  let (_, path) ← IO.FS.createTempFile
  let made := (← path.metadata).modified
  IO.FS.removeFile path
  return Moment.ofSeconds made.sec.toNat (made.nsec.toNat / 1000)

instance : Storage IO where
  look := look
  names path := attempt path none (names path)
  read path := attempt path none (IO.FS.readBinFile path)
  write path content := attempt path none (IO.FS.writeBinFile path content)
  makeDirectory path := attempt path none (IO.FS.createDir path)
  makeTemporary directory beginning ending :=
    attempt directory none (makeTemporary directory beginning ending 100000 0)
  removeFile path := attempt path none (IO.FS.removeFile path)
  removeDirectory path := attempt path none (IO.FS.removeDir path)
  replace source target := attempt source (some target) (IO.FS.rename source target)
  workingDirectory := return toString (← IO.currentDir)
  now := now

/-- The variables of the environment that settings are taken from. -/
def environment : IO Settings.Environment := do
  let names := ("features" :: Settings.variableKeys).map
    (Settings.variableName Settings.variablePrefix)
  names.filterMapM fun name => return (← IO.getEnv name).map fun value => (name, value)

/-- No other program is run. -/
def tools : CommandLine.Tools IO where
  packages := fun _ => none
  git _ directory := throw ⟨.missing, directory.getD "git", none⟩

end ControlSchema.Machine

open ControlSchema CommandLine in
def main (arguments : List String) : IO UInt32 := do
  let outcome ← @run IO _ _ .standard (← Machine.environment) Machine.tools arguments
  IO.print outcome.output
  IO.eprint outcome.ending.report
  match outcome.ending with
  | .interrupted _ =>
    IO.eprintln "interrupted by a fault that no command is prepared for"
    return 1
  | ending => return (ending.exitCode?.getD 0).toUInt32
