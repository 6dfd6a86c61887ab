import ControlSchema.Category
import ControlSchema.CommandLine.Arguments
import ControlSchema.Number.Integer
import ControlSchema.Settings

/-!
# Commands

What a command line asks for: a command with its own arguments, the configuration file to use, and
the settings that the command line overrides. An empty value overrides nothing.
-/

namespace ControlSchema.CommandLine

inductive Command where
  /-- Write the snapshots of the releases in a directory, or in the configured repository. -/
  | generate (source : Option String) (tags : Option (List String))
  /-- List the available versions. -/
  | versions
  /-- Select a snapshot, and install it into a directory. -/
  | select (destination : Option String)
  /-- Show the header of a version, or write it to a file. -/
  | header (version : String) (file : Option String)
  /-- Show the first rows of a version's catalogue, or all but the last for a negative number. -/
  | catalogue (version : String) (category : Category) (rows : Int)

structure Invocation where
  command : Command
  /-- The configuration file. -/
  config : Option String
  /-- The layer of settings that goes over all others. -/
  overrides : List (Datum × Datum)

/-! ## Grammars -/

def anything (name : String) : Switch := ⟨name, fun _ => true⟩

def oneOf (name : String) (words : List String) : Switch := ⟨name, words.contains⟩

def integer (name : String) : Switch := ⟨name, fun s => (Number.integerOfText? s).isSome⟩

/-- The options of every command. -/
def commonSwitches : List Switch := [anything "--config", anything "--versioned-dir"]

def modeWords : List String := [CompatMode.exact.word, CompatMode.caret.word]

/-- What each command takes. -/
def grammar? : String → Option Grammar
  | "generate" => some ⟨commonSwitches ++ [anything "--source-dir", anything "--tag"], false⟩
  | "versions" => some ⟨commonSwitches, false⟩
  | "select" => some ⟨commonSwitches ++ [anything "--linked-version",
      oneOf "--compat-mode" modeWords, anything "--install"], false⟩
  | "header" => some ⟨commonSwitches ++ [anything "--out"], true⟩
  | "catalogue" => some ⟨commonSwitches ++ [
      oneOf "--category" (Category.all.map Category.word), integer "--n"], true⟩
  | _ => none

/-! ## Reading -/

def nonempty? (text : String) : Option String := if text.isEmpty then none else some text

/-- The number of rows that is shown when none is given. -/
def defaultRows : Int := 50

/-- The command of a name with the given arguments. -/
def Arguments.command? (a : Arguments) (name : String) : Option Command :=
  let version := a.operand.getD ""
  match name with
  | "generate" =>
    let tags := a.valuesOf "--tag"
    some (.generate (nonempty? (a.value "--source-dir")) (if tags.isEmpty then none else some tags))
  | "versions" => some .versions
  | "select" => some (.select (nonempty? (a.value "--install")))
  | "header" => some (.header version (nonempty? (a.value "--out")))
  | "catalogue" =>
    let category := Category.all.find? fun c => a.value? "--category" == some c.word
    let rows := (a.value? "--n").bind Number.integerOfText?
    some (.catalogue version (category.getD .controls) (rows.getD defaultRows))
  | _ => none

/-- The options that override settings, with the fields they override. -/
def overriding : List (String × String) := [
  ("versioned_dir", "--versioned-dir"), ("compat_mode", "--compat-mode"),
  ("linked_version", "--linked-version")]

/-- The layer of settings that the options make. -/
def Arguments.overrides (a : Arguments) : List (Datum × Datum) :=
  overriding.filterMap fun (field, option) =>
    (nonempty? (a.value option)).map fun value => (.text field, .text value)

/-- What a command with the given arguments asks for. -/
def Invocation.read (name : String) (arguments : List String) : Except Refusal Invocation := do
  let some grammar := grammar? name | throw .misuse
  let a ← grammar.read arguments
  let some command := a.command? name | throw .misuse
  return ⟨command, nonempty? (a.value "--config"), a.overrides⟩

end ControlSchema.CommandLine
