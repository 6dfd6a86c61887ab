import ControlSchema.Number.Shortest

/-!
# Decimal notation

Writing and reading numbers as text. A floating-point number is written with the digits of its
shortest decimal; a record of the format's decisions says where positional notation ends and how
the rest looks, so two outputs that differ in such a point differ in one field.
-/

namespace ControlSchema.Number

/-! ## Integers -/

def digitsText (n : Nat) : String := String.ofList (Nat.toDigits 10 n)

def intText (i : Int) : String :=
  if i < 0 then "-" ++ digitsText i.natAbs else digitsText i.natAbs

/-- Integers with more digits are neither read nor written. -/
def digitLimit : Nat := 4300

/-- Whether an integer is short enough to be written. -/
def isWritable (i : Int) : Bool := (Nat.toDigits 10 i.natAbs).length ≤ digitLimit

/-- What is said where an integer is not short enough. -/
structure TooLong
deriving DecidableEq

/-- The value of a list of decimal digits. -/
def ofDigits (digits : List Nat) : Nat := digits.foldl (fun value digit => 10 * value + digit) 0

/-- The decimal digits at the front, and what follows them. -/
def takeDigits (cs : List Char) : List Char × List Char :=
  (cs.takeWhile Char.isDigit, cs.dropWhile Char.isDigit)

/-- The value of ASCII decimal digits. -/
def natOfChars (cs : List Char) : Nat := ofDigits (cs.map fun c => c.toNat - 0x30)

/-! ## Floating-point numbers -/

/-- What a notation decides beyond the digits. -/
structure Notation where
  /-- The least exponent of the leading digit that is written positionally. -/
  positionalFrom : Int
  /-- The exponent from which numbers are written with a power of ten. -/
  positionalBelow : Int
  undefined : String
  infinity : String
  negativeInfinity : String

namespace Notation

/-- Digits with the point after the first `places`, and at least one digit on both sides. -/
def positional (digits : List Char) (places : Int) : List Char :=
  if places ≤ 0 then '0' :: '.' :: (List.replicate (-places).toNat '0' ++ digits)
  else
    let whole := digits.take places.toNat
    let fraction := digits.drop places.toNat
    whole ++ List.replicate (places.toNat - digits.length) '0' ++ '.'
      :: (if fraction.isEmpty then ['0'] else fraction)

/-- One digit before the point, and a power of ten of at least two digits with its sign. -/
def scientific (digits : List Char) (exponent : Int) : List Char :=
  let power := Nat.toDigits 10 exponent.natAbs
  let mantissa := match digits with
    | [] => ['0']
    | [d] => [d]
    | d :: rest => d :: '.' :: rest
  mantissa ++ 'e' :: (if exponent < 0 then '-' else '+')
    :: (List.replicate (2 - power.length) '0' ++ power)

def magnitudeText (style : Notation) (decimal : Decimal) : List Char :=
  let all := Nat.toDigits 10 decimal.digits
  let digits := (all.reverse.dropWhile (· == '0')).reverse
  let leading : Int := all.length + decimal.exponent - 1
  if style.positionalFrom ≤ leading ∧ leading < style.positionalBelow then
    positional digits (leading + 1)
  else scientific digits leading

def text {f : Format} (style : Notation) (x : Binary f) : String :=
  match x.reading with
  | .undefined .. => style.undefined
  | .infinite negative => if negative then style.negativeInfinity else style.infinity
  | .finite negative significand power =>
    let magnitude :=
      if significand = 0 then ['0', '.', '0']
      else style.magnitudeText (shortest f significand power)
    String.ofList (if negative then '-' :: magnitude else magnitude)

end Notation

/-- Numbers between `0.0001` and `1e16` are written positionally. -/
def plainNotation : Notation where
  positionalFrom := -4
  positionalBelow := 16
  undefined := "nan"
  infinity := "inf"
  negativeInfinity := "-inf"

def Binary.text {f : Format} (x : Binary f) : String := plainNotation.text x

/-! ## Reading decimals -/

/-- An unsigned decimal with an optional fraction and exponent, already divided into its parts. -/
def doubleOfParts (negative : Bool) (whole fraction : List Char) (exponent : Int) : Double :=
  Binary.ofDecimal .double negative (natOfChars (whole ++ fraction))
    (exponent - fraction.length)

/-- The number written as an optional sign, digits with at most one point, and an optional power
of ten; `none` for any other text. -/
def doubleOfText? (cs : List Char) : Option Double :=
  let (negative, body) := match cs with
    | '-' :: rest => (true, rest)
    | '+' :: rest => (false, rest)
    | _ => (false, cs)
  let (whole, afterWhole) := takeDigits body
  let (fraction, afterFraction) := match afterWhole with
    | '.' :: rest => takeDigits rest
    | _ => ([], afterWhole)
  if whole.isEmpty && fraction.isEmpty then none
  else match afterFraction with
    | [] => some (doubleOfParts negative whole fraction 0)
    | e :: power =>
      if e != 'e' && e != 'E' then none
      else
        let (negativePower, powerDigits) := match power with
          | '-' :: rest => (true, rest)
          | '+' :: rest => (false, rest)
          | _ => (false, power)
        if powerDigits.isEmpty || !powerDigits.all Char.isDigit then none
        else
          let size : Int := natOfChars powerDigits
          some (doubleOfParts negative whole fraction (if negativePower then -size else size))

end ControlSchema.Number
