import ControlSchema.Json.Value

/-!
# Reading JSON

A text is one value with blanks around it. A number with a fraction or a power of ten is a
floating-point number, any other an integer of any size up to the limit on digits. Of two members
with the same key the later value counts, at the place of the earlier. Half of a character that is
escaped by number and stands alone is kept as it is.

Each reader takes what it needs from the front of the text and answers the rest, or says what is
wrong and how much of the text was left there. The recursion is bounded by the length of the text,
because every level of nesting costs a bracket.
-/

namespace ControlSchema.Json

open Number Text

/-! ## Faults -/

inductive Problem where
  | noValue
  /-- No name where a member of an object should begin. -/
  | noName
  | noColon
  | noComma
  /-- Something follows the value. -/
  | surplus
  /-- The text begins with a byte order mark. -/
  | byteOrderMark
  | controlCharacter
  | unterminated
  | badEscape
  | badUnit
  /-- An integer has more digits than are ever read. -/
  | tooLong (digits : Nat)
deriving DecidableEq

/-- A problem and the number of characters from there to the end of the text. -/
structure Fault where
  problem : Problem
  left : Nat
deriving DecidableEq

namespace Problem

def words : Problem → String
  | .noValue => "Expecting value"
  | .noName => "Expecting property name enclosed in double quotes"
  | .noColon => "Expecting ':' delimiter"
  | .noComma => "Expecting ',' delimiter"
  | .surplus => "Extra data"
  | .byteOrderMark => "Unexpected UTF-8 BOM (decode using utf-8-sig)"
  | .controlCharacter => "Invalid control character at"
  | .unterminated => "Unterminated string starting at"
  | .badEscape => "Invalid \\escape"
  | .badUnit => "Invalid \\uXXXX escape"
  | .tooLong digits =>
    "Exceeds the limit (" ++ digitsText digitLimit
      ++ ") for integer string conversion: value has " ++ digitsText digits ++ " digits"

end Problem

namespace Fault

/-- The problem and its place in the text: lines and columns are counted from one, characters from
zero. -/
def message (text : String) (f : Fault) : String :=
  match f.problem with
  | .tooLong digits => (Problem.tooLong digits).words
  | problem =>
    let before := text.toList.take (text.length - f.left)
    let line := before.count '\n' + 1
    let column := (before.reverse.takeWhile (· != '\n')).length + 1
    problem.words ++ ": line " ++ digitsText line ++ " column " ++ digitsText column ++ " (char "
      ++ digitsText before.length ++ ")"

end Fault

abbrev Result := Except Fault

/-- A problem in front of the rest of a text. -/
def fail {α : Type} (problem : Problem) (rest : List Char) : Result α :=
  .error ⟨problem, rest.length⟩

def isSpace (c : Char) : Bool := c == ' ' || c == '\t' || c == '\n' || c == '\r'

def skipSpace (cs : List Char) : List Char := cs.dropWhile isSpace

/-! ## Texts -/

/-- Four hexadecimal digits behind the letter of an escape; they do not end the text. -/
def readUnit (cs : List Char) : Result (Nat × List Char) :=
  match cs with
  | a :: b :: c :: d :: next :: rest =>
    match [a, b, c, d].mapM hexValue? with
    | some digits => .ok (digits.foldl (fun n digit => 16 * n + digit) 0, next :: rest)
    | none => fail .badUnit ('u' :: cs)
  | _ => fail .badUnit ('u' :: cs)

/-- The code of an escape by number; two halves in a row make one character. -/
def readEscapedUnit (cs : List Char) : Result (Nat × List Char) := do
  let (unit, rest) ← readUnit cs
  if 0xd800 ≤ unit && unit < 0xdc00 then
    match rest with
    | '\\' :: 'u' :: more =>
      let (low, after) ← readUnit more
      if 0xdc00 ≤ low && low < 0xe000 then
        return (0x10000 + (unit - 0xd800) * 0x400 + (low - 0xdc00), after)
      else return (unit, rest)
    | _ => return (unit, rest)
  else return (unit, rest)

def simpleEscape? : Char → Option Char
  | '"' => some '"'
  | '\\' => some '\\'
  | '/' => some '/'
  | 'b' => some '\x08'
  | 'f' => some '\x0c'
  | 'n' => some '\n'
  | 'r' => some '\r'
  | 't' => some '\t'
  | _ => none

/-- The codes of the characters up to the closing quotation mark, given how much of the text was
left at the opening one. -/
def readText (opening : Nat) : Nat → List Char → Result (List Nat × List Char)
  | 0, _ => .error ⟨.unterminated, opening⟩
  | fuel + 1, cs =>
    match cs with
    | [] | ['\\'] => .error ⟨.unterminated, opening⟩
    | '"' :: rest => .ok ([], rest)
    | '\\' :: 'u' :: rest => do
      let (code, after) ← readEscapedUnit rest
      let (codes, final) ← readText opening fuel after
      return (code :: codes, final)
    | '\\' :: e :: rest => do
      let some c := simpleEscape? e | fail .badEscape cs
      let (codes, final) ← readText opening fuel rest
      return (c.toNat :: codes, final)
    | c :: rest =>
      if c.toNat < 0x20 then fail .controlCharacter cs
      else do
        let (codes, final) ← readText opening fuel rest
        return (c.toNat :: codes, final)

/-- The text behind an opening quotation mark. -/
def readQuoted (rest : List Char) : Result (Words × List Char) := do
  let (codes, after) ← readText (rest.length + 1) (rest.length + 1) rest
  return (.ofCodes codes, after)

/-! ## Numbers -/

/-- The digits of a power of ten with its sign, when one follows. -/
def readPower (cs : List Char) : List Char × List Char :=
  match cs with
  | e :: rest =>
    if e == 'e' || e == 'E' then
      let (sign, body) := match rest with
        | '+' :: r => (['+'], r)
        | '-' :: r => (['-'], r)
        | _ => ([], rest)
      let (digits, after) := takeDigits body
      if digits.isEmpty then ([], cs) else ('e' :: sign ++ digits, after)
    else ([], cs)
  | [] => ([], cs)

def readFraction (cs : List Char) : List Char × List Char :=
  match cs with
  | '.' :: rest =>
    let (digits, after) := takeDigits rest
    if digits.isEmpty then ([], cs) else ('.' :: digits, after)
  | _ => ([], cs)

/-- A number: no leading zeros, and nothing but digits around the point. -/
def readNumber (cs : List Char) : Result (Value × List Char) :=
  let (sign, body) := match cs with
    | '-' :: rest => (['-'], rest)
    | _ => ([], cs)
  let (whole, afterWhole) := match body with
    | '0' :: rest => (['0'], rest)
    | _ => takeDigits body
  if whole.isEmpty then fail .noValue cs
  else
    let (fraction, afterFraction) := readFraction afterWhole
    let (power, rest) := readPower afterFraction
    if fraction.isEmpty && power.isEmpty then
      if digitLimit < whole.length then fail (.tooLong whole.length) cs
      else
        let value : Int := natOfChars whole
        .ok (.int (if sign.isEmpty then value else -value), rest)
    else
      match doubleOfText? (sign ++ whole ++ fraction ++ power) with
      | some value => .ok (.float value, rest)
      | none => fail .noValue cs

/-- The words that stand for a value. -/
def words : List (List Char × Value) := [
  ("null".toList, .null), ("true".toList, .bool true), ("false".toList, .bool false),
  ("NaN".toList, .float (Binary.undefined .double)),
  ("Infinity".toList, .float (Binary.infinite .double false)),
  ("-Infinity".toList, .float (Binary.infinite .double true))]

def readWord? (cs : List Char) : Option (Value × List Char) :=
  words.findSome? fun (word, value) =>
    if word.isPrefixOf cs then some (value, cs.drop word.length) else none

/-- A value that holds no others and is no text. -/
def readPlain (cs : List Char) : Result (Value × List Char) :=
  match readWord? cs with
  | some found => .ok found
  | none => readNumber cs

/-! ## Values -/

mutual

def readValue : Nat → List Char → Result (Value × List Char)
  | 0, cs => fail .noValue cs
  | fuel + 1, cs =>
    match cs with
    | '"' :: rest => do
      let (text, after) ← readQuoted rest
      return (.text text, after)
    | '[' :: rest =>
      match skipSpace rest with
      | ']' :: after => .ok (.list [], after)
      | inner => do
        let (items, after) ← readItems fuel inner
        return (.list items, after)
    | '\x7b' :: rest =>
      match skipSpace rest with
      | '\x7d' :: after => .ok (.dict [], after)
      | inner => do
        let (pairs, after) ← readMembers fuel inner
        return (.dict (Value.ofPairs pairs), after)
    | cs => readPlain cs

/-- Items up to the closing bracket; each but the last is followed by a comma. -/
def readItems : Nat → List Char → Result (List Value × List Char)
  | 0, cs => fail .noValue cs
  | fuel + 1, cs => do
    let (item, rest) ← readValue fuel cs
    match skipSpace rest with
    | ']' :: after => return ([item], after)
    | ',' :: more =>
      let (items, after) ← readItems fuel (skipSpace more)
      return (item :: items, after)
    | found => fail .noComma found

def readMembers : Nat → List Char → Result (List (Value × Value) × List Char)
  | 0, cs => fail .noName cs
  | fuel + 1, cs =>
    match cs with
    | '"' :: rest => do
      let (key, afterKey) ← readQuoted rest
      match skipSpace afterKey with
      | ':' :: body =>
        let (value, afterValue) ← readValue fuel (skipSpace body)
        match skipSpace afterValue with
        | '\x7d' :: after => return ([(.text key, value)], after)
        | ',' :: more =>
          let (pairs, after) ← readMembers fuel (skipSpace more)
          return ((.text key, value) :: pairs, after)
        | found => fail .noComma found
      | found => fail .noColon found
    | cs => fail .noName cs

end

/-- The value that a whole text is. -/
def read (s : String) : Result Value := do
  let cs := s.toList
  if cs.head? == some '\ufeff' then fail .byteOrderMark cs
  else
    let (value, rest) ← readValue (2 * cs.length + 2) (skipSpace cs)
    let rest := skipSpace rest
    if rest.isEmpty then return value else fail .surplus rest

end ControlSchema.Json
