import ControlSchema.Datum.Text
import ControlSchema.Text.Blank

/-!
# Names

A control is known by one name in four spellings: the schema's mixed case name, the snake case name
of C identifiers, the upper snake case name of the runtime's constants, and, for enumerators, the
name of a member in a generated class. The other spellings are computed from the schema's.

A word begins at an upper case letter after a lower case one, at an upper case letter before a
lower case one, and at whatever follows a digit and is none.
-/

namespace ControlSchema

open Text

inductive NamingError where
  /-- The value meant as `what` is not a schema name. -/
  | notName (what : String) (value : Datum)
  /-- The enumerator leaves no identifier to name a member by. -/
  | notIdentifier (enumerator control : String)

namespace NamingError

def message : NamingError → String
  | .notName what value =>
    what ++ " must be an ASCII identifier starting with a letter (got: " ++ value.shown ++ ")"
  | .notIdentifier enumerator control =>
    "enumerator " ++ quoted enumerator ++ " of " ++ quoted control ++ " is not a valid identifier"

end NamingError

namespace Naming

/-! ## Forms of names -/

/-- A letter followed by letters and digits, all of ASCII. -/
def isPlainName (cs : List Char) : Bool :=
  match cs with
  | [] => false
  | c :: rest => c.isAlpha && rest.all Char.isAlphanum

/-- One line feed at the end is not looked at. -/
def withoutFinalBreak (cs : List Char) : List Char :=
  if cs.getLast? == some '\n' then cs.dropLast else cs

def isSchemaName (s : String) : Bool :=
  isPlainName s.toList || isPlainName (withoutFinalBreak s.toList)

def isSnakeWord (cs : List Char) : Bool :=
  !cs.isEmpty && cs.all fun c => c.isDigit || c.isLower

def isPlainSnake (cs : List Char) : Bool := (splitOn '_' cs).all isSnakeWord

/-- Words of lower case letters and digits between single underscores. -/
def isLowerSnake (s : String) : Bool :=
  isPlainSnake s.toList || isPlainSnake (withoutFinalBreak s.toList)

/-- The value itself when it is a schema name. -/
def checkName (what : String) (value : Datum) : Except NamingError String :=
  match value with
  | .text s => if isSchemaName s then .ok s else .error (.notName what value)
  | _ => .error (.notName what value)

/-! ## Spellings -/

def startsWord (previous current : Char) (next : Option Char) : Bool :=
  (isUpper current && isLower previous) || (isUpper current && next.any isLower)
    || (!isDigit current && isDigit previous)

/-- The snake case of what follows `previous`. -/
def snakeAfter : Option Char → List Char → List Char
  | _, [] => []
  | previous, c :: rest =>
    let word := lowerChar c ++ snakeAfter (some c) rest
    if previous.any (startsWord · c rest.head?) then '_' :: word else word

def snakeCase (name : String) : String := String.ofList (snakeAfter none name.toList)

/-- The name of the runtime's constant. -/
def linkageName (name : String) : String := upper (snakeCase name)

/-! ## Members of generated classes -/

/-- The words that generated source cannot use as names. -/
def keywords : List String := [
  "False", "None", "True", "and", "as", "assert", "async", "await", "break", "class", "continue",
  "def", "del", "elif", "else", "except", "finally", "for", "from", "global", "if", "import", "in",
  "is", "lambda", "nonlocal", "not", "or", "pass", "raise", "return", "try", "while", "with",
  "yield"]

def isKeyword (s : String) : Bool := keywords.contains s

def escapeKeyword (name : String) : String := if isKeyword name then name ++ "_" else name

/-- The enumerator without its control's name in front. -/
def withoutOwner (enumerator control : String) : String :=
  if control.toList.isPrefixOf enumerator.toList then
    String.ofList (enumerator.toList.drop control.length)
  else enumerator

def startsWithUnderscore (s : String) : Bool := s.toList.head? == some '_'

/-- The name of an enumerator's member: without its control's name if an identifier is left that
does not begin with an underscore, in full otherwise. -/
def variantName (enumerator control : String) : Except NamingError String :=
  let short := withoutOwner enumerator control
  let name := if isIdentifier short && !startsWithUnderscore short then short else enumerator
  if isIdentifier name then .ok (escapeKeyword name)
  else .error (.notIdentifier enumerator control)

end Naming

end ControlSchema
