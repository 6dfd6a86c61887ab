import ControlSchema.Datum
import ControlSchema.Number.Integer
import ControlSchema.Text.Quoted

/-!
# Data as text

A datum has two texts. Shown, it reads as an expression: texts are quoted, sequences are bracketed.
Plain, a text stands for itself and a date for its calendar notation, and everything else is as
when shown. Integers are only written up to a number of digits, so a datum that holds a longer one
has no text.
-/

namespace ControlSchema

open Number Text

/-- Digits of `n`, with zeros in front up to the given width. -/
def padded (width n : Nat) : String :=
  let digits := Nat.toDigits 10 n
  String.ofList (List.replicate (width - digits.length) '0' ++ digits)

namespace Date

def plain (d : Date) : String :=
  padded 4 d.year ++ "-" ++ padded 2 d.month ++ "-" ++ padded 2 d.day

def shown (d : Date) : String :=
  "datetime.date("
    ++ ", ".intercalate [digitsText d.year, digitsText d.month, digitsText d.day] ++ ")"

end Date

namespace Clock

/-- Seconds and microseconds are left out when they and all that follows are zero. -/
def fields (c : Clock) : List String :=
  let numbers :=
    if c.microsecond != 0 then [c.hour, c.minute, c.second, c.microsecond]
    else if c.second != 0 then [c.hour, c.minute, c.second]
    else [c.hour, c.minute]
  numbers.map digitsText

def shown (c : Clock) : String := "datetime.time(" ++ ", ".intercalate c.fields ++ ")"

def plain (c : Clock) : String :=
  padded 2 c.hour ++ ":" ++ padded 2 c.minute ++ ":" ++ padded 2 c.second
    ++ (if c.microsecond = 0 then "" else "." ++ padded 6 c.microsecond)

end Clock

namespace Moment

/-- An offset as days and the seconds that are left, the days alone being negative. -/
def shownOffset (seconds : Int) : String :=
  if seconds = 0 then "datetime.timezone.utc"
  else
    let days := Int.fdiv seconds 86400
    let rest := Int.fmod seconds 86400
    let parts := (if days = 0 then [] else ["days=" ++ intText days])
      ++ (if rest = 0 then [] else ["seconds=" ++ intText rest])
    "datetime.timezone(datetime.timedelta(" ++ ", ".intercalate parts ++ "))"

def shown (m : Moment) : String :=
  let fields := [m.date.year, m.date.month, m.date.day].map digitsText ++ m.clock.fields
  let zone := match m.offset with
    | none => []
    | some offset => ["tzinfo=" ++ shownOffset offset]
  "datetime.datetime(" ++ ", ".intercalate (fields ++ zone) ++ ")"

def plainOffset (seconds : Int) : String :=
  let minutes := seconds.natAbs / 60
  (if seconds < 0 then "-" else "+") ++ padded 2 (minutes / 60) ++ ":" ++ padded 2 (minutes % 60)

/-- Date and time with a separator between them. -/
def joined (separator : String) (m : Moment) : String :=
  m.date.plain ++ separator ++ m.clock.plain ++ m.offset.elim "" plainOffset

def plain (m : Moment) : String := m.joined " "

end Moment

namespace Datum

mutual

/-- The datum as an expression. -/
def shown : Datum → String
  | .null => "None"
  | .bool b => if b then "True" else "False"
  | .int i => intText i
  | .float x => x.text
  | .text s => quoted s
  | .bytes b => quotedBytes b
  | .list xs => "[" ++ ", ".intercalate (shownItems xs) ++ "]"
  | .tuple [x] => "(" ++ shown x ++ ",)"
  | .tuple xs => "(" ++ ", ".intercalate (shownItems xs) ++ ")"
  | .dict es => "\x7b" ++ ", ".intercalate (shownEntries es) ++ "\x7d"
  | .set [] => "set()"
  | .set xs => "\x7b" ++ ", ".intercalate (shownItems xs) ++ "\x7d"
  | .date d => d.shown
  | .clock c => c.shown
  | .moment m => m.shown
  | .point x y => "Point(x=" ++ shown x ++ ", y=" ++ shown y ++ ")"
  | .size w h => "Size(width=" ++ shown w ++ ", height=" ++ shown h ++ ")"
  | .rectangle x y w h =>
    "Rectangle(x=" ++ shown x ++ ", y=" ++ shown y ++ ", width=" ++ shown w ++ ", height="
      ++ shown h ++ ")"
termination_by structural x => x

def shownItems : List Datum → List String
  | [] => []
  | x :: xs => shown x :: shownItems xs
termination_by structural xs => xs

def shownEntries : List (Datum × Datum) → List String
  | [] => []
  | e :: rest => shownEntry e :: shownEntries rest
termination_by structural es => es

def shownEntry : Datum × Datum → String
  | (k, v) => shown k ++ ": " ++ shown v
termination_by structural e => e

end

/-- The datum as it appears inside running text. -/
def plain : Datum → String
  | .text s => s
  | .date d => d.plain
  | .clock c => c.plain
  | .moment m => m.plain
  | d => d.shown

/-- The plain text of a datum that counts as present, and nothing otherwise. -/
def plainIfPresent (d : Datum) : String := if d.truthy then d.plain else ""

/-! ## Data that have a text -/

/-- What is said of an integer that is too long to be written. -/
def tooLongToWrite : String :=
  "Exceeds the limit (" ++ digitsText digitLimit
    ++ " digits) for integer string conversion; use sys.set_int_max_str_digits() to increase the limit"

mutual

/-- Whether no integer in the datum is too long to be written. -/
def isWritable : Datum → Bool
  | .int i => Number.isWritable i
  | .list xs | .tuple xs | .set xs => areWritable xs
  | .dict es => entriesWritable es
  | .point x y | .size x y => isWritable x && isWritable y
  | .rectangle x y w h => isWritable x && isWritable y && isWritable w && isWritable h
  | _ => true
termination_by structural x => x

def areWritable : List Datum → Bool
  | [] => true
  | x :: xs => isWritable x && areWritable xs
termination_by structural xs => xs

def entriesWritable : List (Datum × Datum) → Bool
  | [] => true
  | e :: rest => entryWritable e && entriesWritable rest
termination_by structural es => es

def entryWritable : Datum × Datum → Bool
  | (k, v) => isWritable k && isWritable v
termination_by structural e => e

end

end Datum

end ControlSchema
