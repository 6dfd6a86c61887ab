import ControlSchema.Json.Value

/-!
# Canonical JSON

One text for each JSON value: object keys in increasing order, no blanks, and only the characters
escaped that must be. A digest of this text does not depend on the order in which an object was
built.

Three things keep a value from having such a text that can be encoded: a part that JSON has no form
for or keys that cannot be put in order, an integer with more digits than are ever written, and half
of a character that stands alone. The first two end the writing where they are met, the third the
encoding of what was written.
-/

namespace ControlSchema.Json

open Number Text

/-- Digits of shortest decimals, with words for what JSON has no number for. -/
def numberNotation : Notation := { plainNotation with
  undefined := "NaN", infinity := "Infinity", negativeInfinity := "-Infinity" }

/-- Quotation marks, backslashes and control characters are escaped; everything else stands. -/
def escapeChar (c : Char) : List Char :=
  if c == '"' || c == '\\' then ['\\', c]
  else if c == '\n' then ['\\', 'n']
  else if c == '\r' then ['\\', 'r']
  else if c == '\t' then ['\\', 't']
  else if c.toNat == 0x8 then ['\\', 'b']
  else if c.toNat == 0xc then ['\\', 'f']
  else if c.toNat < 0x20 then '\\' :: 'u' :: hexDigits 4 c.toNat
  else [c]

/-- A text between quotation marks. -/
def writeText (s : String) : List Char := '"' :: s.toList.flatMap escapeChar ++ ['"']

/-! ## Keys -/

/-- A number as a quotient, with no denominator when it is infinite. -/
def quotient? : Value → Option (Int × Nat)
  | .bool b => some (if b then 1 else 0, 1)
  | .int i => some (i, 1)
  | .float x => match x.reading with
    | .finite negative significand power =>
      let (n, d) := scaleByPower significand 1 power
      some (if negative then -n else n, d)
    | .infinite negative => some (if negative then -1 else 1, 0)
    | .undefined .. => none
  | _ => none

/-- Keys are ordered among texts as texts and among numbers as numbers. -/
def keyAtMost : Value → Value → Bool
  | .text v, .text w => v.atMost w
  | v, w => match quotient? v, quotient? w with
    | some (a, b), some (c, d) => a * d < c * b || a * d == c * b && a ≤ c
    | _, _ => true

/-- Whether a list of keys can be put in order. -/
def comparable (keys : List Value) : Bool :=
  keys.length ≤ 1 || keys.all (fun | .text _ => true | _ => false)
    || keys.all (fun | .bool _ | .int _ | .float _ => true | _ => false)

/-- A dictionary's entries, each with what was made of it, in the order of their keys. -/
def inOrder {α : Type} (entries : List (Value × α)) : List (Value × α) :=
  entries.mergeSort fun a b => keyAtMost a.1 b.1

/-- A text of JSON is written if it can be encoded. -/
def writeWords : Words → List Char
  | .whole text => writeText text
  | .garbled _ => []

/-- A scalar that is no text; as a key it is spelt as a text. -/
def writeScalar : Value → List Char
  | .null => "null".toList
  | .bool b => if b then "true".toList else "false".toList
  | .int i => (intText i).toList
  | .float x => (numberNotation.text x).toList
  | _ => []

def writeKey : Value → List Char
  | .text w => writeWords w
  | key => writeText (String.ofList (writeScalar key))

/-! ## Values -/

/-- The members of an object in the order of their keys, separated by commas. -/
def joinMembers (members : List (Value × List Char)) : List Char :=
  [','].intercalate ((inOrder members).map fun (key, value) => writeKey key ++ ':' :: value)

mutual

/-- The canonical text of a value. -/
def write : Value → List Char
  | .text w => writeWords w
  | .list xs => '[' :: [','].intercalate (writeItems xs) ++ [']']
  | .dict es => '\x7b' :: joinMembers (writeEntries es) ++ ['\x7d']
  | v => writeScalar v
termination_by structural v => v

def writeItems : List Value → List (List Char)
  | [] => []
  | x :: xs => write x :: writeItems xs
termination_by structural xs => xs

def writeEntries : List (Value × Value) → List (Value × List Char)
  | [] => []
  | e :: rest => writeEntry e :: writeEntries rest
termination_by structural es => es

def writeEntry : Value × Value → Value × List Char
  | (k, v) => (k, write v)
termination_by structural e => e

end

/-! ## Faults -/

/-- Why a value has no canonical text that can be encoded. -/
inductive WriteFault where
  /-- JSON has no form for a part of it, or no order for the keys of an object. -/
  | notJson
  | tooLong
  | unencodable
deriving DecidableEq

/-- What is wrong with a scalar that is to be written. -/
def scalarFault? : Value → Option WriteFault
  | .int i => if Number.isWritable i then none else some .tooLong
  | .null | .bool _ | .float _ | .text _ => none
  | _ => some .notJson

mutual

/-- What ends the writing of a value. Keys are put in order before any entry is written. -/
def fault? : Value → Option WriteFault
  | .list xs => itemsFault? xs
  | .dict es =>
    if comparable (es.map Prod.fst) then (inOrder (entryFaults es)).findSome? Prod.snd
    else some .notJson
  | v => scalarFault? v
termination_by structural v => v

def itemsFault? : List Value → Option WriteFault
  | [] => none
  | x :: xs => (fault? x).or (itemsFault? xs)
termination_by structural xs => xs

def entryFaults : List (Value × Value) → List (Value × Option WriteFault)
  | [] => []
  | e :: rest => entryFault e :: entryFaults rest
termination_by structural es => es

def entryFault : Value × Value → Value × Option WriteFault
  | (k, v) => (k, (scalarFault? k).or (fault? v))
termination_by structural e => e

end

/-- The canonical text of a value, if it has one that can be encoded. -/
def canonical (value : Value) : Except WriteFault String :=
  match fault? value with
  | some fault => .error fault
  | none => if value.isWhole then .ok (String.ofList (write value)) else .error .unencodable

end ControlSchema.Json
