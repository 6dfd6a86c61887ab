import ControlSchema.Number.Notation
import ControlSchema.Text.Blank
import ControlSchema.Text.Letter

/-!
# Integers in running text

A text writes an integer when, without the blanks around it, it is digits of any script with at most
one underscore between two of them, behind an optional sign. The separators of records are blanks
elsewhere, but not around numbers.
-/

namespace ControlSchema.Number

open Text

/-- The blanks that may stand around a number. -/
def isPadding (c : Char) : Bool := isBlank c && !(0x1c ≤ c.toNat && c.toNat ≤ 0x1f)

def trimPadding (cs : List Char) : List Char :=
  ((cs.dropWhile isPadding).reverse.dropWhile isPadding).reverse

/-- The value of digits in groups between single underscores. -/
def natOfGroups? (cs : List Char) : Option Nat := do
  let groups := splitOn '_' cs
  if groups.any List.isEmpty then none
  let digits ← groups.flatten.mapM decimalValue?
  if digitLimit < digits.length then none else some (ofDigits digits)

def integerOfChars? (cs : List Char) : Option Int :=
  match trimPadding cs with
  | '-' :: rest => (natOfGroups? rest).map fun (n : Nat) => -(n : Int)
  | '+' :: rest => (natOfGroups? rest).map fun (n : Nat) => (n : Int)
  | rest => (natOfGroups? rest).map fun (n : Nat) => (n : Int)

/-- The integer that a text writes. -/
def integerOfText? (s : String) : Option Int := integerOfChars? s.toList

/-- The integer that bytes write, all of them being ASCII. -/
def integerOfBytes? (bytes : List UInt8) : Option Int :=
  if bytes.all (· < 0x80) then integerOfChars? (bytes.map fun b => Char.ofNat b.toNat) else none

end ControlSchema.Number
