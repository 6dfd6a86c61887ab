import ControlSchema.Definition.Entry
import ControlSchema.Yaml.Content

/-!
# The usual readers

Documents are YAML 1.1. Fields are read generously: text may be given by the bytes of its encoding,
and truth values, whole floating-point numbers and decimal texts will do for an integer.
-/

namespace ControlSchema

namespace Readers

/-! ## Texts and integers -/

/-- Text, as itself or as the bytes of its encoding. -/
def asText? : Datum → Option String
  | .text s => some s
  | .bytes b => String.fromUTF8? (ByteArray.mk b.toArray)
  | _ => none

def readText (datum : Datum) : Checked String :=
  match asText? datum with
  | some s => .ok s
  | none => Checked.fail .notText

/-- Zeros in front, with the underscores between them, up to the last one if nothing follows but a
point. -/
def dropLeadingZeros (cs : List Char) : List Char :=
  if cs.head? != some '0' then cs
  else match cs.dropWhile fun c => c == '0' || c == '_' with
    | [] => ['0']
    | '.' :: rest => '0' :: '.' :: rest
    | rest => rest

/-- The text without a fraction of zeros. -/
def dropZeroFraction (cs : List Char) : List Char :=
  match cs.dropWhile (· != '.') with
  | _ :: fraction =>
    if !fraction.isEmpty && fraction.all (· == '0') then cs.takeWhile (· != '.') else cs
  | [] => cs

/-- Single underscores between digits are left out. -/
def dropUnderscores (cs : List Char) : List Char :=
  if (Text.splitOn '_' cs).all fun part => !part.isEmpty then cs.filter (· != '_') else cs

/-- Digits without a zero in front. -/
def natOfDigits? (cs : List Char) : Option Nat :=
  if cs == ['0'] then some 0
  else if !cs.isEmpty && cs.all Char.isDigit && cs.head? != some '0' then
    some (Number.natOfChars cs)
  else none

/-- The integer that a text writes in decimal. -/
def readDecimal (s : String) : Checked Int :=
  let trimmed := (Text.strip s).toList
  let (negative, magnitude) := match trimmed with
    | '-' :: rest => (true, rest)
    | rest => (false, dropLeadingZeros rest)
  let digits := dropUnderscores (dropZeroFraction magnitude)
  match natOfDigits? digits with
  | none => Checked.fail .notDecimal
  | some n =>
    if Number.digitLimit < digits.length then Checked.fail .tooLong
    else .ok (if negative then -n else n)

def readInteger (datum : Datum) : Checked Int :=
  match datum with
  | .bool b => .ok (if b then 1 else 0)
  | .int n => .ok n
  | .float x =>
    if !x.isFinite then Checked.fail .notFinite
    else match x.toInt? with
      | some n => .ok n
      | none => Checked.fail .fractional
  | datum =>
    match asText? datum with
    | some s => readDecimal s
    | none => Checked.fail .notInteger

/-! ## Kinds and shapes -/

def readKind (datum : Datum) : Checked ControlKind :=
  match readInteger datum with
  | .ok tag =>
    match ControlKind.ofTag? tag with
    | some kind => .ok kind
    | none => Checked.fail .notMember
  | .error _ => Checked.fail .notMember

def readDims (datum : Datum) : Checked (List Int) :=
  match datum with
  | .list items | .tuple items | .set items => Checked.all 0 (items.map readInteger)
  | _ => Checked.fail .notTuple

/-- The words and numbers that stand for a truth value. -/
def readTruth (datum : Datum) : Checked Bool :=
  match datum with
  | .text s =>
    let word := Text.lower s
    if ["1", "true", "t", "yes", "y", "on"].contains word then .ok true
    else if ["0", "false", "f", "no", "n", "off"].contains word then .ok false
    else Checked.fail .notMember
  | datum =>
    match readInteger datum with
    | .ok 0 => .ok false
    | .ok 1 => .ok true
    | _ => Checked.fail .notMember

/-- The shape with the given dimensions, or of variable length. Dimensions that no size
specification has, and dimensions of what varies, make none. -/
def readShape (datum : Datum) : Checked Shape :=
  match datum with
  | .dict entries =>
    let dims := Enumerator.readField entries "dims" (.ok []) readDims
    let varies := Enumerator.readField entries "dynamic" (.ok false) readTruth
    match dims, varies with
    | .ok [], .ok true => .ok .variable
    | .ok [], .ok false => .ok .scalar
    | .ok dims, .ok false =>
      if dims.all (0 < ·) then .ok (.fixed (dims.map Int.toNat)) else Checked.fail .notRecord
    | .ok _, .ok true => Checked.fail .notRecord
    | dims, varies => .error (Checked.issues dims ++ Checked.issues varies)
  | _ => Checked.fail .notRecord

/-- The readers as they usually are. -/
@[reducible]
def standard : Readers where
  yaml := Yaml.read
  text := readText
  integer := readInteger
  kind := readKind
  shape := readShape

end Readers

end ControlSchema
