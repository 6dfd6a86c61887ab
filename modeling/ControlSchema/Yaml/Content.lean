import ControlSchema.Datum.Calendar
import ControlSchema.Number.Integer
import ControlSchema.Yaml.Node

/-!
# From nodes to data

The datum of a node depends on its type alone. Mappings may merge others: what is merged comes
first, so that keys of the mapping itself count more, and of two equal keys the later one counts.
-/

namespace ControlSchema.Yaml

open Number

/-! ## Scalars -/

def truthWord? (text : String) : Option Bool :=
  let word := String.ofList (text.toList.map Char.toLower)
  if ["yes", "true", "on"].contains word then some true
  else if ["no", "false", "off"].contains word then some false
  else none

/-- The sign in front of a number, and the rest. -/
def splitSign (cs : List Char) : Bool × List Char :=
  match cs with
  | '-' :: rest => (true, rest)
  | '+' :: rest => (false, rest)
  | _ => (false, cs)

/-- A digit of any script, or a letter that counts as one. -/
def digitValue? (base : Nat) (c : Char) : Option Nat :=
  (Text.decimalValue? c <|> Text.hexValue? c).filter (· < base)

/-- The value of at least one digit of a base. -/
def natOfBase (base : Nat) (cs : List Char) : Result Nat :=
  match cs with
  | [] => .error .badValue
  | cs =>
    match cs.mapM (digitValue? base) with
    | some digits => .ok (digits.foldl (fun value digit => base * value + digit) 0)
    | none => .error .badValue

/-- The integer that a text writes in a base, behind a sign and the letter of the base perhaps. -/
def intOfBase (base : Nat) (letter : Char) (cs : List Char) : Result Int := do
  let (negative, body) := splitSign (trimPadding cs)
  let magnitude ← match body with
    | '0' :: c :: digits => natOfBase base (if c.toLower == letter then digits else body)
    | _ => natOfBase base body
  return if negative then -magnitude else magnitude

def intOfDecimal (cs : List Char) : Result Int :=
  match integerOfChars? cs with
  | some i => .ok i
  | none => .error .badValue

/-- Digits in base sixty, the most significant first. -/
def intOfSixtieths (cs : List Char) : Result Int := do
  let digits ← (Text.splitOn ':' cs).mapM intOfDecimal
  return digits.foldl (fun value digit => 60 * value + digit) 0

def readInt (text : String) : Result Int := do
  let cs := text.toList.filter (· != '_')
  if cs.isEmpty then throw (.other "IndexError")
  let (negative, body) := splitSign cs
  let magnitude ← match body with
    | [] => throw (.other "IndexError")
    | ['0'] => pure 0
    | '0' :: 'b' :: digits => intOfBase 2 'b' digits
    | '0' :: 'x' :: digits => intOfBase 16 'x' digits
    | '0' :: _ => intOfBase 8 'o' body
    | _ => if body.contains ':' then intOfSixtieths body else intOfDecimal body
  return if negative then -magnitude else magnitude

/-- A finite number as a quotient of an integer and a natural number. -/
def ratio (x : Double) : Int × Nat :=
  match x.reading with
  | .finite negative significand power =>
    let (n, d) := scaleByPower significand 1 power
    (if negative then -n else n, d)
  | _ => (0, 1)

def ofRatio (numerator : Int) (denominator : Nat) : Double :=
  .ofQuotient .double (numerator < 0) numerator.natAbs denominator

/-- A number times a finite one that is not zero, rounded. -/
def scale (x weight : Double) : Double :=
  if x.isFinite then
    let (n, d) := ratio x
    let (m, e) := ratio weight
    ofRatio (n * m) (d * e)
  else x

/-- The sum of two numbers, rounded. -/
def add (x y : Double) : Double :=
  if x.isFinite && y.isFinite then
    let (n, d) := ratio x
    let (m, e) := ratio y
    ofRatio (n * e + m * d) (d * e)
  else if x.isFinite then y
  else if y.isFinite || x == y then x
  else Binary.undefined .double

/-- A digit of any script as the ASCII digit of the same value. -/
def plainDigit (c : Char) : Char :=
  match Text.decimalValue? c with
  | some value => Char.ofNat (0x30 + value)
  | none => c

/-- The number that a text in lower case writes in digits or as a word. -/
def doubleOfDecimal (cs : List Char) : Result Double :=
  let trimmed := trimPadding cs
  let (negative, body) := splitSign trimmed
  if body == "inf".toList || body == "infinity".toList then .ok (Binary.infinite .double negative)
  else if body == "nan".toList then .ok (Binary.undefined .double)
  else match doubleOfText? (trimmed.map plainDigit) with
    | some x => .ok x
    | none => .error .badValue

/-- The weight of a digit as a number, rounded. -/
def weightOf (weight : Nat) : Result Double :=
  let rounded := ofRatio weight 1
  if rounded.isFinite then .ok rounded else .error (.other "OverflowError")

/-- Digits in base sixty, the last of which may have a fraction. They are added up from the last to
the first, each sum rounded. -/
def doubleOfSixtieths (cs : List Char) : Result Double := do
  let digits ← (Text.splitOn ':' cs).mapM doubleOfDecimal
  let (sum, _) ← digits.reverse.foldlM
    (fun (sum, weight) digit => do
      return (add sum (scale digit (← weightOf weight)), 60 * weight))
    (Binary.zero .double false, 1)
  return sum

def negate (x : Double) : Double := .ofMagnitude .double (!x.negative) x.magnitude

def readFloat (text : String) : Result Double := do
  let cs := (text.toList.filter (· != '_')).map Char.toLower
  if cs.isEmpty then throw (.other "IndexError")
  let (negative, body) := splitSign cs
  let x ←
    if body == ".inf".toList then pure (Binary.infinite .double false)
    else if body == ".nan".toList then return Binary.undefined .double
    else if body.contains ':' then doubleOfSixtieths body
    else doubleOfDecimal body
  return if negative then negate x else x

/-! ## Bytes -/

def base64Value? (c : Char) : Option Nat :=
  if c.isUpper then some (c.toNat - 0x41)
  else if c.isLower then some (c.toNat - 0x61 + 26)
  else if c.isDigit then some (c.toNat - 0x30 + 52)
  else if c == '+' then some 62
  else if c == '/' then some 63
  else none

/-- The bytes of a text in base 64, given the number of characters of the current group, the bits
that are left over, and the padding seen. Other characters are passed over. -/
def base64Bytes (position left pads : Nat) : List Char → Result (List UInt8)
  | [] => if position = 0 then .ok [] else .error .malformed
  | c :: rest =>
    if c == '=' then
      if 2 ≤ position then
        if 4 ≤ position + pads + 1 then .ok [] else base64Bytes position left (pads + 1) rest
      else base64Bytes position left pads rest
    else match base64Value? c with
      | none => base64Bytes position left pads rest
      | some value =>
        match position with
        | 0 => base64Bytes 1 value 0 rest
        | 1 => (base64Bytes 2 (value % 16) 0 rest).map (UInt8.ofNat (4 * left + value / 16) :: ·)
        | 2 => (base64Bytes 3 (value % 4) 0 rest).map (UInt8.ofNat (16 * left + value / 4) :: ·)
        | _ => (base64Bytes 0 0 0 rest).map (UInt8.ofNat (64 * left + value) :: ·)

def readBinary (text : String) : Result (List UInt8) :=
  if text.toList.all fun c => c.toNat < 0x80 then base64Bytes 0 0 0 text.toList
  else .error .malformed

/-! ## Times -/

def readDate (year month day : List Char) : Result Date :=
  let date : Date := ⟨natOfChars year, natOfChars month, natOfChars day⟩
  if date.isReal then .ok date else .error .badValue

/-- The offset of a zone in seconds; it must be less than a day. -/
def readZone (cs : List Char) : Result (Option Int) :=
  match cs with
  | [] => .ok none
  | ['Z'] => .ok (some 0)
  | sign :: offset =>
    let parts := (Text.splitOn ':' offset).map natOfChars
    let seconds := 3600 * parts.headD 0 + 60 * (parts.drop 1).headD 0
    if 86400 ≤ seconds then .error .badValue
    else .ok (some (if sign == '-' then -seconds else seconds))

/-- A time of day, read from a text that has the form of one. -/
def readClock (date : Date) (cs : List Char) : Result Moment := do
  let isClockChar (c : Char) : Bool := c.isDigit || c == ':'
  let rest := cs.dropWhile isClockChar
  let (fraction, rest) := match rest with
    | '.' :: rest => (rest.takeWhile Char.isDigit, rest.dropWhile Char.isDigit)
    | _ => ([], rest)
  let offset ← readZone (rest.dropWhile fun c => c == ' ' || c == '\t')
  let microsecond := natOfChars ((fraction ++ List.replicate 6 '0').take 6)
  match (Text.splitOn ':' (cs.takeWhile isClockChar)).map natOfChars with
  | [hour, minute, second] =>
    if hour < 24 && minute < 60 && second < 60 then
      return ⟨date, ⟨hour, minute, second, microsecond⟩, offset⟩
    else throw .badValue
  | _ => throw (.other "AttributeError")

/-- A date in its long form needs no leading zeros, unlike a plain scalar that is to be seen as
one. -/
def isLooseTimestamp (cs : List Char) : Bool :=
  Kind.isTimestamp cs || (match Kind.dateParts? cs with
    | some (year, month, day, []) =>
      Kind.isDigits 4 4 year && Kind.isDigits 1 2 month && Kind.isDigits 1 2 day
    | _ => false)

def readTime (text : String) : Result Datum := do
  let cs := text.toList
  if !isLooseTimestamp cs then throw (.other "AttributeError")
  match Kind.dateParts? cs with
  | none => throw (.other "AttributeError")
  | some (year, month, day, rest) =>
    match Kind.clockOf? rest with
    | none => return .date (← readDate year month day)
    | some clock =>
      let zoned ← readClock ⟨1, 1, 1⟩ clock
      return .moment { zoned with date := ← readDate year month day }

/-- The datum of a scalar. -/
def readScalar (kind : Kind) (text : String) : Result Datum :=
  match kind with
  | .null => .ok .null
  | .bool =>
    match truthWord? text with
    | some b => .ok (.bool b)
    | none => .error (.other "KeyError")
  | .int => (readInt text).map .int
  | .float => (readFloat text).map .float
  | .binary => (readBinary text).map .bytes
  | .timestamp => readTime text
  | .text => .ok (.text text)
  | _ => .error .malformed

/-! ## Collections -/

namespace Node

def kind : Node → Kind
  | .scalar kind _ | .sequence kind _ | .mapping kind _ => kind

mutual

/-- The pairs of a mapping with those that it merges in front. -/
def flatten : Nat → List (Node × Node) → Result (List (Node × Node))
  | 0, _ => .error .malformed
  | fuel + 1, pairs => do
    let (merged, own) ← separate fuel pairs
    return merged ++ own

/-- The merged pairs and the pairs of the mapping itself. -/
def separate : Nat → List (Node × Node) → Result (List (Node × Node) × List (Node × Node))
  | 0, _ => .error .malformed
  | _, [] => .ok ([], [])
  | fuel + 1, (key, value) :: rest => do
    match key with
    | .scalar .merge _ =>
      let first ← merging fuel value
      let (merged, own) ← separate fuel rest
      return (first ++ merged, own)
    | .scalar .default text =>
      let (merged, own) ← separate fuel rest
      return (merged, (.scalar .text text, value) :: own)
    | key =>
      let (merged, own) ← separate fuel rest
      return (merged, (key, value) :: own)

/-- What a value to be merged contributes: a mapping its pairs, a sequence those of its mappings
from the last to the first. -/
def merging : Nat → Node → Result (List (Node × Node))
  | 0, _ => .error .malformed
  | fuel + 1, value =>
    match value with
    | .mapping _ pairs => flatten fuel pairs
    | .sequence _ items => do
      let parts ← mergingAll fuel items
      return parts.reverse.flatten
    | .scalar .. => .error .malformed

def mergingAll : Nat → List Node → Result (List (List (Node × Node)))
  | 0, _ => .error .malformed
  | _, [] => .ok []
  | fuel + 1, .mapping _ pairs :: rest => do
    return (← flatten fuel pairs) :: (← mergingAll fuel rest)
  | _, _ :: _ => .error .malformed

end

mutual

/-- A bound on the depth of the recursion through a node. -/
def weight : Node → Nat
  | .scalar .. => 1
  | .sequence _ items => 1 + weightOfItems items
  | .mapping _ pairs => 1 + weightOfPairs pairs
termination_by structural n => n

def weightOfItems : List Node → Nat
  | [] => 1
  | item :: rest => weight item + weightOfItems rest + 1
termination_by structural items => items

def weightOfPairs : List (Node × Node) → Nat
  | [] => 1
  | pair :: rest => weightOfPair pair + weightOfPairs rest + 1
termination_by structural pairs => pairs

def weightOfPair : Node × Node → Nat
  | (key, value) => weight key + weight value
termination_by structural pair => pair

end

/-- The text that a scalar is, or that a mapping has under the key for its value. -/
def scalarText : Node → Result String
  | .scalar _ text => .ok text
  | .mapping _ pairs =>
    match pairs.findSome? fun (key, value) => match key, value with
      | .scalar .default _, .scalar _ text => some text
      | _, _ => none with
    | some text => .ok text
    | none => .error .malformed
  | .sequence .. => .error .malformed

mutual

/-- The datum of a node. -/
def toDatum : Nat → Node → Result Datum
  | 0, _ => .error .malformed
  | fuel + 1, node =>
    match node with
    | .sequence .sequence items => do return .list (← toData fuel items)
    | .sequence .orderedMap items | .sequence .pairs items => do
      return .list (← toSinglePairs fuel items)
    | .mapping .mapping pairs => do return .dict (← toEntries fuel pairs)
    | .mapping .set pairs => do return .set ((← toEntries fuel pairs).map Prod.fst)
    | .scalar kind text => readScalar kind text
    | .mapping kind _ => do
      let text ← node.scalarText
      readScalar kind text
    | .sequence .. => .error .malformed

def toData : Nat → List Node → Result (List Datum)
  | 0, _ => .error .malformed
  | _, [] => .ok []
  | fuel + 1, item :: rest => do return (← toDatum fuel item) :: (← toData fuel rest)

/-- Mappings of one pair each, as pairs. -/
def toSinglePairs : Nat → List Node → Result (List Datum)
  | 0, _ => .error .malformed
  | _, [] => .ok []
  | fuel + 1, .mapping _ [(key, value)] :: rest => do
    let key ← toDatum fuel key
    let value ← toDatum fuel value
    return .tuple [key, value] :: (← toSinglePairs fuel rest)
  | _, _ :: _ => .error .malformed

/-- The entries of a mapping. -/
def toEntries : Nat → List (Node × Node) → Result (List (Datum × Datum))
  | 0, _ => .error .malformed
  | fuel + 1, pairs => do
    let pairs ← flatten (2 * weightOfPairs pairs + 2) pairs
    return Datum.ofPairs (← toPairs fuel pairs)

def toPairs : Nat → List (Node × Node) → Result (List (Datum × Datum))
  | 0, _ => .error .malformed
  | _, [] => .ok []
  | fuel + 1, (key, value) :: rest => do
    if key.kind.isCollection then throw .malformed
    let key ← toDatum fuel key
    let value ← toDatum fuel value
    return (key, value) :: (← toPairs fuel rest)

end

end Node

/-- The data of a text's documents, one for each document. -/
def read (text : String) : Result (List Datum) := do
  let (nodes, fault) := compose text
  let data ← nodes.mapM fun node => node.toDatum (4 * node.weight + 4)
  match fault with
  | some fault => throw fault
  | none => return data

end ControlSchema.Yaml
