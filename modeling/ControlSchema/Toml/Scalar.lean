import ControlSchema.Datum.Calendar
import ControlSchema.Number.Notation
import ControlSchema.Text.Hex

/-!
# Scalars of TOML

Each reader takes a scalar from the front of a text and answers the rest. Texts stand in single
quotation marks as they are, or in double ones with escapes; three marks in place of one let a text
run over several lines. Numbers may have single underscores between their digits. Dates and times
are numbers with separators, so they are tried first.
-/

namespace ControlSchema.Toml

open Number Text

inductive Fault where
  /-- The text is not TOML. -/
  | malformed
  /-- An integer has more digits than are ever read. -/
  | tooLong
  /-- Arrays and tables are nested deeper than is ever read. -/
  | tooDeep
deriving DecidableEq

abbrev Result (α : Type) := Except Fault α

/-! ## Characters -/

def isControl (c : Char) : Bool := c.toNat < 0x20 || c.toNat == 0x7f

/-- What may stand in comments and in texts of one line. -/
def isInline (c : Char) : Bool := c == '\t' || !isControl c

/-- What may stand in texts of several lines. -/
def isMultiline (c : Char) : Bool := c == '\n' || isInline c

def isSpace (c : Char) : Bool := c == ' ' || c == '\t'

def isSpaceOrBreak (c : Char) : Bool := c == '\n' || isSpace c

def skipSpace (cs : List Char) : List Char := cs.dropWhile isSpace

/-! ## Texts -/

/-- A text in single quotation marks, behind the first of them. -/
def readLiteral (cs : List Char) : Result (String × List Char) :=
  let body := cs.takeWhile (· != '\'')
  match cs.dropWhile (· != '\'') with
  | _ :: rest => if body.all isInline then .ok (String.ofList body, rest) else .error .malformed
  | [] => .error .malformed

/-- The characters up to three marks in a row. -/
def untilTriple? (mark : Char) : List Char → Option (List Char × List Char)
  | [] => none
  | c :: rest =>
    if [mark, mark, mark].isPrefixOf (c :: rest) then some ([], rest.drop 2)
    else (untilTriple? mark rest).map fun (body, after) => (c :: body, after)

/-- Up to two marks behind the closing three still belong to the text. -/
def extraMarks (mark : Char) (cs : List Char) : List Char × List Char :=
  let extra := (cs.take 2).takeWhile (· == mark)
  (extra, cs.drop extra.length)

/-- A line feed right behind the opening marks does not count. -/
def dropFirstBreak : List Char → List Char
  | '\n' :: rest => rest
  | cs => cs

def readLongLiteral (cs : List Char) : Result (String × List Char) :=
  match untilTriple? '\'' (dropFirstBreak cs) with
  | none => .error .malformed
  | some (body, after) =>
    let (extra, rest) := extraMarks '\'' after
    if body.all isMultiline then .ok (String.ofList (body ++ extra), rest) else .error .malformed

def simpleEscape? : Char → Option Char
  | 'b' => some '\x08'
  | 't' => some '\t'
  | 'n' => some '\n'
  | 'f' => some '\x0c'
  | 'r' => some '\r'
  | '"' => some '"'
  | '\\' => some '\\'
  | _ => none

/-- The character that a number of hexadecimal digits stand for. -/
def numberedEscape? (width : Nat) (cs : List Char) : Option (Char × List Char) := do
  let digits ← (cs.take width).mapM hexValue?
  let value := digits.foldl (fun n digit => 16 * n + digit) 0
  if digits.length = width && (value < 0xd800 || (0xe000 ≤ value && value < 0x110000)) then
    return (Char.ofNat value, cs.drop width)
  else none

/-- The text that follows a backslash at the end of a line, without the blanks in front of it. -/
def continued? (cs : List Char) : Option (List Char) :=
  match skipSpace cs with
  | '\n' :: rest => some (rest.dropWhile isSpaceOrBreak)
  | _ => none

/-- The characters up to the closing mark or marks. -/
def readEscaped? (long : Bool) : Nat → List Char → Option (List Char × List Char)
  | 0, _ => none
  | fuel + 1, cs => do
    let goOn (c : Char) (rest : List Char) : Option (List Char × List Char) := do
      let (body, after) ← readEscaped? long fuel rest
      return (c :: body, after)
    match cs with
    | [] => none
    | '"' :: rest =>
      if !long then return ([], rest)
      else if ['"', '"'].isPrefixOf rest then return ([], rest.drop 2)
      else goOn '"' rest
    | '\\' :: e :: rest =>
      if long && isSpaceOrBreak e then readEscaped? long fuel (← continued? (e :: rest))
      else
        let (c, after) ← match e with
          | 'u' => numberedEscape? 4 rest
          | 'U' => numberedEscape? 8 rest
          | e => (simpleEscape? e).map fun c => (c, rest)
        goOn c after
    | c :: rest =>
      if c != '\\' && (if long then isMultiline c else isInline c) then goOn c rest else none

/-- A text in double quotation marks, behind the first of them. -/
def readBasic (cs : List Char) : Result (String × List Char) :=
  match readEscaped? false (cs.length + 1) cs with
  | some (body, rest) => .ok (String.ofList body, rest)
  | none => .error .malformed

def readLongBasic (cs : List Char) : Result (String × List Char) :=
  match readEscaped? true (cs.length + 1) (dropFirstBreak cs) with
  | none => .error .malformed
  | some (body, after) =>
    let (extra, rest) := extraMarks '"' after
    .ok (String.ofList (body ++ extra), rest)

/-! ## Times -/

/-- A number of exactly so many digits, within bounds. -/
def fixedNumber? (width low high : Nat) (cs : List Char) : Option (Nat × List Char) :=
  let digits := cs.take width
  let value := natOfChars digits
  if digits.length = width && digits.all Char.isDigit && low ≤ value && value ≤ high then
    some (value, cs.drop width)
  else none

def expect? (c : Char) : List Char → Option (List Char)
  | d :: rest => if c == d then some rest else none
  | [] => none

def date? (cs : List Char) : Option (Date × List Char) := do
  let (year, rest) ← fixedNumber? 4 0 9999 cs
  let (month, rest) ← fixedNumber? 2 1 12 (← expect? '-' rest)
  let (day, rest) ← fixedNumber? 2 1 31 (← expect? '-' rest)
  return (⟨year, month, day⟩, rest)

/-- The microseconds of a fraction; further digits are dropped. -/
def fraction (cs : List Char) : Nat × List Char :=
  match cs with
  | '.' :: rest =>
    let digits := rest.takeWhile Char.isDigit
    if digits.isEmpty then (0, cs)
    else (natOfChars ((digits ++ List.replicate 6 '0').take 6), rest.dropWhile Char.isDigit)
  | _ => (0, cs)

def clock? (cs : List Char) : Option (Clock × List Char) := do
  let (hour, rest) ← fixedNumber? 2 0 23 cs
  let (minute, rest) ← fixedNumber? 2 0 59 (← expect? ':' rest)
  let (second, rest) ← fixedNumber? 2 0 59 (← expect? ':' rest)
  let (microsecond, rest) := fraction rest
  return (⟨hour, minute, second, microsecond⟩, rest)

def signedOffset? (sign : Int) (cs : List Char) : Option (Int × List Char) := do
  let (hours, rest) ← fixedNumber? 2 0 23 cs
  let (minutes, rest) ← fixedNumber? 2 0 59 (← expect? ':' rest)
  return (sign * (3600 * hours + 60 * minutes), rest)

/-- The offset from universal time, when there is one. -/
def offset (cs : List Char) : Option Int × List Char :=
  let found := match cs with
    | 'Z' :: rest | 'z' :: rest => some ((0 : Int), rest)
    | '+' :: rest => signedOffset? 1 rest
    | '-' :: rest => signedOffset? (-1) rest
    | _ => none
  match found with
  | some (seconds, rest) => (some seconds, rest)
  | none => (none, cs)

/-- The time of day behind a date and a separator. -/
def clockBehindDate? : List Char → Option (Clock × List Char)
  | c :: rest => if c == 'T' || c == 't' || c == ' ' then clock? rest else none
  | [] => none

/-- A date with or without a time, or a time alone. -/
def readTime? (cs : List Char) : Option (Result (Datum × List Char)) :=
  match date? cs with
  | some (date, rest) =>
    some <| if !date.isReal then .error .malformed
      else match clockBehindDate? rest with
        | some (clock, rest) =>
          let (offset, rest) := offset rest
          .ok (.moment ⟨date, clock, offset⟩, rest)
        | none => .ok (.date date, rest)
  | none => (clock? cs).map fun (clock, rest) => .ok (.clock clock, rest)

/-! ## Numbers -/

/-- Digits with at most one underscore in front of each but the first. -/
def takeGroups (isDigit : Char → Bool) : List Char → List Char × List Char
  | [] => ([], [])
  | c :: rest =>
    if isDigit c then
      match rest with
      | '_' :: d :: more =>
        if isDigit d then
          let (digits, after) := takeGroups isDigit (d :: more)
          (c :: digits, after)
        else ([c], rest)
      | rest =>
        let (digits, after) := takeGroups isDigit rest
        (c :: digits, after)
    else ([], c :: rest)

def isDigitOf (base : Nat) (c : Char) : Bool := (hexValue? c).any (· < base)

/-- An integer in a base that its second character names. -/
def readBased? (cs : List Char) : Option (Datum × List Char) :=
  let inBase (base : Nat) (rest : List Char) : Option (Datum × List Char) :=
    let (digits, after) := takeGroups (isDigitOf base) rest
    if digits.isEmpty then none
    else
      let value := (digits.filterMap hexValue?).foldl (fun n digit => base * n + digit) 0
      some (.int value, after)
  match cs with
  | '0' :: 'x' :: rest => inBase 16 rest
  | '0' :: 'o' :: rest => inBase 8 rest
  | '0' :: 'b' :: rest => inBase 2 rest
  | _ => none

/-- The digits of a fraction with its point, when one follows. -/
def fractionPart (cs : List Char) : List Char × List Char :=
  match cs with
  | '.' :: rest =>
    let (digits, after) := takeGroups Char.isDigit rest
    if digits.isEmpty then ([], cs) else ('.' :: digits, after)
  | _ => ([], cs)

def splitSign : List Char → List Char × List Char
  | '+' :: rest => (['+'], rest)
  | '-' :: rest => (['-'], rest)
  | cs => ([], cs)

/-- The digits of a power of ten with its sign, when one follows. -/
def powerPart (cs : List Char) : List Char × List Char :=
  match cs with
  | c :: rest =>
    let (sign, body) := splitSign rest
    let (digits, after) := takeGroups Char.isDigit body
    if (c == 'e' || c == 'E') && !digits.isEmpty then ('e' :: sign ++ digits, after) else ([], cs)
  | [] => ([], [])

/-- A number in base ten, an integer if it has neither a fraction nor a power of ten. -/
def readDecimal? (cs : List Char) : Option (Result (Datum × List Char)) :=
  let (sign, body) := splitSign cs
  let (whole, rest) := match body with
    | '0' :: rest => (['0'], rest)
    | body => takeGroups Char.isDigit body
  if whole.isEmpty then none
  else
    let (fraction, rest) := fractionPart rest
    let (power, rest) := powerPart rest
    some <|
      if fraction.isEmpty && power.isEmpty then
        if digitLimit < whole.length then .error .tooLong
        else
          let value : Int := natOfChars whole
          .ok (.int (if sign == ['-'] then -value else value), rest)
      else match doubleOfText? (sign ++ whole ++ fraction ++ power) with
        | some x => .ok (.float x, rest)
        | none => .error .malformed

/-- The numbers that have no digits. -/
def specialNumbers : List (List Char × Double) :=
  let infinity := Binary.infinite .double
  let undefined := Binary.undefined .double
  [("inf".toList, infinity false), ("+inf".toList, infinity false), ("-inf".toList, infinity true),
    ("nan".toList, undefined), ("+nan".toList, undefined), ("-nan".toList, undefined)]

def readSpecial? (cs : List Char) : Option (Datum × List Char) :=
  specialNumbers.findSome? fun (word, x) =>
    if word.isPrefixOf cs then some (.float x, cs.drop word.length) else none

/-- A date, time or number. -/
def readNumeral (cs : List Char) : Result (Datum × List Char) :=
  match readTime? cs with
  | some result => result
  | none =>
    match readBased? cs with
    | some found => .ok found
    | none =>
      match readDecimal? cs with
      | some result => result
      | none => match readSpecial? cs with
        | some found => .ok found
        | none => .error .malformed

end ControlSchema.Toml
