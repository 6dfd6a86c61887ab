import ControlSchema.Yaml.Cursor
import ControlSchema.Text.Blank

/-!
# YAML types

The type of a node, either given by a tag or, for plain scalars, read off the text: what looks like
a truth value, a number, a time or nothing at all is one, and everything else is text.
-/

namespace ControlSchema.Yaml

inductive Kind where
  | null
  | bool
  | int
  | float
  | binary
  | timestamp
  | orderedMap
  | pairs
  | set
  | text
  | sequence
  | mapping
  /-- The mark of a key whose value is merged into the mapping around it. -/
  | merge
  /-- The mark of a key for the value that a mapping stands for. -/
  | default
  | unknown
deriving DecidableEq

namespace Kind

/-- What the tags of the known types begin with. -/
def stem : String := "tag:yaml.org,2002:"

def names : List (String × Kind) := [
  ("null", .null), ("bool", .bool), ("int", .int), ("float", .float), ("binary", .binary),
  ("timestamp", .timestamp), ("omap", .orderedMap), ("pairs", .pairs), ("set", .set),
  ("str", .text), ("seq", .sequence), ("map", .mapping), ("merge", .merge), ("value", .default)]

def ofTag (tag : String) : Kind :=
  ((names.map fun (name, kind) => (stem ++ name, kind)).lookup tag).getD .unknown

/-- Whether data of the kind hold other data, so that none of them is a key. -/
def isCollection : Kind → Bool
  | .orderedMap | .pairs | .set | .sequence | .mapping => true
  | _ => false

/-! ## Plain scalars -/

def truthWords : List String := [
  "yes", "Yes", "YES", "no", "No", "NO", "true", "True", "TRUE", "false", "False", "FALSE",
  "on", "On", "ON", "off", "Off", "OFF"]

def nullWords : List String := ["", "~", "null", "Null", "NULL"]

/-- The text without a sign in front. -/
def unsigned (cs : List Char) : List Char :=
  match cs with
  | '-' :: rest | '+' :: rest => rest
  | _ => cs

def isDigitOrGap (c : Char) : Bool := c.isDigit || c == '_'

/-- A digit, and then digits and underscores. -/
def isNumeral (cs : List Char) : Bool :=
  match cs with
  | [] => false
  | c :: rest => c.isDigit && rest.all isDigitOrGap

/-- Minutes or seconds: one digit, or two of which the first is at most five. -/
def isSixtieth (cs : List Char) : Bool :=
  match cs with
  | [c] => c.isDigit
  | [a, b] => '0' ≤ a && a ≤ '5' && b.isDigit
  | _ => false

def isInt (cs : List Char) : Bool :=
  let body := unsigned cs
  match body with
  | '0' :: 'b' :: digits => !digits.isEmpty && digits.all fun c => c == '0' || c == '1' || c == '_'
  | '0' :: 'x' :: digits =>
    !digits.isEmpty && digits.all fun c =>
      c.isDigit || ('a' ≤ c && c ≤ 'f') || ('A' ≤ c && c ≤ 'F') || c == '_'
  | '0' :: digits => digits.all fun c => ('0' ≤ c && c ≤ '7') || c == '_'
  | _ =>
    match Text.splitOn ':' body with
    | first :: rest => isNumeral first && rest.all isSixtieth
    | [] => false

/-- A power of ten, always with its sign, or nothing. -/
def isPower (cs : List Char) : Bool :=
  match cs with
  | [] => true
  | e :: sign :: digits =>
    (e == 'e' || e == 'E') && (sign == '-' || sign == '+') && !digits.isEmpty
      && digits.all Char.isDigit
  | _ => false

def isFloat (cs : List Char) : Bool :=
  let body := unsigned cs
  let whole := body.takeWhile (· != '.')
  match body.dropWhile (· != '.') with
  | [] => false
  | _ :: fraction =>
    let digits := fraction.takeWhile isDigitOrGap
    let power := fraction.dropWhile isDigitOrGap
    if whole.isEmpty then
      ["inf", "Inf", "INF"].contains (String.ofList fraction)
        || (body == cs && (["nan", "NaN", "NAN"].contains (String.ofList fraction)
          || (isNumeral digits && isPower power)))
    else if isNumeral whole then isPower power
    else match Text.splitOn ':' whole with
      | first :: rest => isNumeral first && rest.all isSixtieth && power.isEmpty
      | [] => false

/-- Between `least` and `most` digits. -/
def isDigits (least most : Nat) (cs : List Char) : Bool :=
  least ≤ cs.length && cs.length ≤ most && cs.all Char.isDigit

/-- A time behind a date: hours, minutes, seconds, a fraction and an offset. -/
def isClock (cs : List Char) : Bool :=
  match Text.splitOn ':' (cs.takeWhile fun c => c.isDigit || c == ':') with
  | [hour, minute, second] =>
    let rest := cs.dropWhile fun c => c.isDigit || c == ':'
    let rest := match rest with
      | '.' :: fraction => fraction.dropWhile Char.isDigit
      | _ => rest
    let zone := rest.dropWhile fun c => c == ' ' || c == '\t'
    let isOffset := match zone with
      | [] => rest.isEmpty
      | ['Z'] => true
      | sign :: offset =>
        (sign == '+' || sign == '-') && (match Text.splitOn ':' offset with
          | [hours] => isDigits 1 2 hours
          | [hours, minutes] => isDigits 1 2 hours && isDigits 2 2 minutes
          | _ => false)
    isDigits 1 2 hour && isDigits 2 2 minute && isDigits 2 2 second && isOffset
  | _ => false

/-- The parts of a date and what follows it. -/
def dateParts? (cs : List Char) : Option (List Char × List Char × List Char × List Char) :=
  match Text.splitOn '-' cs with
  | year :: month :: _ =>
    let afterMonth := cs.drop (year.length + month.length + 2)
    some (year, month, afterMonth.takeWhile Char.isDigit, afterMonth.dropWhile Char.isDigit)
  | _ => none

/-- What stands between a date and a time: a letter, or blanks. -/
def clockOf? (cs : List Char) : Option (List Char) :=
  match cs with
  | 'T' :: rest | 't' :: rest => some rest
  | ' ' :: _ | '\t' :: _ => some (cs.dropWhile fun c => c == ' ' || c == '\t')
  | _ => none

def isTimestamp (cs : List Char) : Bool :=
  match dateParts? cs with
  | none => false
  | some (year, month, day, rest) =>
    isDigits 4 4 year
      && (if rest.isEmpty then isDigits 2 2 month && isDigits 2 2 day
        else isDigits 1 2 month && isDigits 1 2 day && ((clockOf? rest).any isClock))

/-- The type of a plain scalar. -/
def ofPlain (text : String) : Kind :=
  let cs := text.toList
  if truthWords.contains text then .bool
  else if isFloat cs then .float
  else if isInt cs then .int
  else if text == "<<" then .merge
  else if nullWords.contains text then .null
  else if isTimestamp cs then .timestamp
  else if text == "=" then .default
  else .text

end Kind

end ControlSchema.Yaml
