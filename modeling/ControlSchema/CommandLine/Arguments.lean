import ControlSchema.Text.Letter
import ControlSchema.Text.Quoted

/-!
# Arguments of a command

A command takes options, each with one value, and possibly one operand. Options and the operand may
come in any order. The name of an option may be shortened as long as it stays unambiguous, its value
is the next argument or follows an equals sign, and behind a double hyphen nothing is an option. An
argument with a hyphen in front is an option unless it looks like a number or has a space in it.

All arguments are told apart before any is used, so an ambiguous name is found out first.
-/

namespace ControlSchema.CommandLine

/-- An option, and which values it takes. -/
structure Switch where
  name : String
  accepts : String → Bool

/-- What a command takes. -/
structure Grammar where
  switches : List Switch
  hasOperand : Bool

/-- Why there is nothing to be done for a command. -/
inductive Refusal where
  | help
  | misuse
deriving DecidableEq

/-- What an argument is meant as. -/
inductive Word where
  | operand (text : String)
  | switch (switch : Switch) (value : Option String)
  | help
  /-- A request for help that is given a value. -/
  | badHelp
  /-- What looks like an option that the command does not take. -/
  | unknown
  | separator

/-! ## Telling arguments apart -/

def helpName : String := "--help"

/-- Digits, possibly with a point among them or in front, behind a hyphen. -/
def looksNegative (cs : List Char) : Bool :=
  match cs with
  | '-' :: rest =>
    let whole := rest.takeWhile Text.isDecimal
    match rest.drop whole.length with
    | [] | ['\n'] => !whole.isEmpty
    | '.' :: fraction =>
      let digits := fraction.takeWhile Text.isDecimal
      !digits.isEmpty && [[], ['\n']].contains (fraction.drop digits.length)
    | _ => false
  | _ => false

/-- An argument split at its first equals sign. -/
def splitValue (cs : List Char) : String × Option String :=
  match cs.dropWhile (· != '=') with
  | _ :: value => (String.ofList (cs.takeWhile (· != '=')), some (String.ofList value))
  | [] => (String.ofList cs, none)

/-- The options whose names begin with a text, or the one whose name it is. -/
def Grammar.named (g : Grammar) (name : String) : List (Option Switch) :=
  let all : List (String × Option Switch) :=
    (helpName, none) :: g.switches.map fun s => (s.name, some s)
  match all.find? fun (other, _) => other == name with
  | some (_, exact) => [exact]
  | none => (all.filter fun (other, _) => name.toList.isPrefixOf other.toList).map Prod.snd

/-- What an argument is meant as, as long as no option of its name is known. -/
def unnamed (cs : List Char) : Word :=
  if looksNegative cs || cs.contains ' ' then .operand (String.ofList cs) else .unknown

/-- What an argument in front of any double hyphen is meant as, none if that is ambiguous. -/
def Grammar.classify? (g : Grammar) (argument : String) : Option Word :=
  match argument.toList with
  | ['-', '-'] => some .separator
  | '-' :: '-' :: rest =>
    let (name, value) := splitValue ('-' :: '-' :: rest)
    match g.named name with
    | [] => some (unnamed argument.toList)
    | [some switch] => some (.switch switch value)
    | [none] => some (if value.isSome then .badHelp else .help)
    | _ => none
  | '-' :: 'h' :: '=' :: _ => some .badHelp
  | '-' :: 'h' :: _ => some .help
  | '-' :: c :: rest => some (unnamed ('-' :: c :: rest))
  | _ => some (.operand argument)

/-- What all arguments are meant as. -/
def Grammar.words? (g : Grammar) : List String → Option (List Word)
  | [] => some []
  | argument :: rest => do
    match ← g.classify? argument with
    | .separator => return .separator :: rest.map .operand
    | word => return word :: (← g.words? rest)

/-! ## Using them -/

/-- The values of options in the order in which they are given, and the operand. -/
structure Arguments where
  values : List (String × String)
  operand : Option String
  /-- Something was given that the command does not take. -/
  surplus : Bool

namespace Arguments

def empty : Arguments := ⟨[], none, false⟩

def giveValue (a : Arguments) (switch : Switch) (value : String) : Except Refusal Arguments :=
  if switch.accepts value then .ok { a with values := a.values ++ [(switch.name, value)] }
  else .error .misuse

/-- The arguments with a list of words, given whether an operand is still missing. A separator goes
with the operand that is next to it. -/
def gather (missing : Bool) (a : Arguments) : List Word → Except Refusal Arguments
  | [] => .ok a
  | .help :: _ => .error .help
  | .badHelp :: _ => .error .misuse
  | .switch s (some value) :: rest => do gather missing (← a.giveValue s value) rest
  | .switch s none :: .operand value :: rest => do gather missing (← a.giveValue s value) rest
  | .switch _ none :: _ => .error .misuse
  | .separator :: .operand text :: rest | .operand text :: .separator :: rest
  | .operand text :: rest =>
    gather false (if missing then { a with operand := some text } else { a with surplus := true })
      rest
  | .unknown :: rest | .separator :: rest => gather missing { a with surplus := true } rest

/-- The last value of an option. -/
def value? (a : Arguments) (name : String) : Option String := a.values.reverse.lookup name

/-- The last value of an option that may be left out or be empty. -/
def value (a : Arguments) (name : String) : String := (a.value? name).getD ""

/-- All values of an option that may be given several times. -/
def valuesOf (a : Arguments) (name : String) : List String :=
  a.values.filterMap fun (other, value) => if other == name then some value else none

end Arguments

/-- The arguments that are given to a command. -/
def Grammar.read (g : Grammar) (arguments : List String) : Except Refusal Arguments := do
  let some words := g.words? arguments | throw .misuse
  let given ← Arguments.empty.gather g.hasOperand words
  if given.surplus || (g.hasOperand && given.operand.isNone) then throw .misuse else return given

end ControlSchema.CommandLine
