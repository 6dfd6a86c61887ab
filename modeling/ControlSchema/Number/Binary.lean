import ControlSchema.Number.Power

/-!
# Binary floating-point numbers

A number is the word that stores it: a sign, a biased exponent and a fraction. Its reading is an
exact significand and power of two, and everything that has to be exact (rounding a quotient,
changing the format, comparing with an integer) is natural number arithmetic on readings.

Words are laid out so that the magnitude of a finite number grows with its word: the significand
plus the number of units above the least one. Rounding relies on it, because a significand that
rounds up to the next power of two carries into the exponent by itself.
-/

namespace ControlSchema.Number

attribute [local instance] corePow

/-! ## Formats -/

/-- The digits of a significand, the leading one included, and the width of the exponent. -/
structure Format where
  precision : Nat
  exponentWidth : Nat
deriving DecidableEq

namespace Format

/-- Binary32. -/
def single : Format := ⟨24, 8⟩

/-- Binary64. -/
def double : Format := ⟨53, 11⟩

/-- The value of a fraction's leading place, and the weight of one step of the exponent. -/
def step (f : Format) : Nat := 2 ^ (f.precision - 1)

/-- The largest biased exponent; it marks the infinities and what is not a number. -/
def topExponent (f : Format) : Nat := 2 ^ f.exponentWidth - 1

/-- The word of the positive infinity; every finite magnitude is below it. -/
def infinity (f : Format) : Nat := f.topExponent * f.step

/-- The number of words with a clear sign, and so the place of the sign. -/
def signWeight (f : Format) : Nat := 2 ^ f.exponentWidth * f.step

/-- The power of two of the least unit. -/
def leastPower (f : Format) : Int :=
  3 - 2 ^ (f.exponentWidth - 1) - f.precision

end Format

/-- A word of the format. -/
structure Binary (f : Format) where
  bits : Nat
  bits_lt : bits < 2 * f.signWeight
deriving DecidableEq

abbrev Single := Binary .single

abbrev Double := Binary .double

/-- What a word stands for: `significand * 2 ^ power`, an infinity, or no number at all. -/
inductive Reading where
  | finite (negative : Bool) (significand : Nat) (power : Int)
  | infinite (negative : Bool)
  | undefined (negative : Bool) (fraction : Nat)
deriving DecidableEq

/-! ## Exact arithmetic on quotients -/

/-- The integer nearest to a quotient, the even one of two equally near. -/
def divideNearest (numerator denominator : Nat) : Nat :=
  let quotient := numerator / denominator
  let twice := 2 * (numerator % denominator)
  if twice < denominator then quotient
  else if denominator < twice then quotient + 1
  else quotient + quotient % 2

/-- A quotient times a power of two, as a quotient. -/
def scaleByPower (numerator denominator : Nat) (power : Int) : Nat × Nat :=
  (numerator * 2 ^ power.toNat, denominator * 2 ^ (-power).toNat)

/-- The greatest power of two that is at most a positive quotient. -/
def floorLog (numerator denominator : Nat) : Int :=
  let guess : Int := numerator.log2 - denominator.log2
  let (n, d) := scaleByPower numerator denominator (-guess)
  if d ≤ n then guess else guess - 1

namespace Binary

variable {f g : Format}

/-! ## Words and readings -/

/-- The word with the given sign and the given magnitude modulo the sign's place. -/
def ofMagnitude (f : Format) (negative : Bool) (magnitude : Nat) : Binary f where
  bits := (if negative then f.signWeight else 0) + magnitude % f.signWeight
  bits_lt := by
    have positive : 0 < f.signWeight :=
      Nat.mul_pos (Nat.two_pow_pos _) (Nat.two_pow_pos _)
    have := Nat.mod_lt magnitude positive
    split <;> omega

/-- Words from outside are taken modulo the width of the format. -/
def ofBits (f : Format) (n : Nat) : Binary f :=
  ofMagnitude f (n / f.signWeight % 2 == 1) n

def negative (x : Binary f) : Bool := f.signWeight ≤ x.bits

def magnitude (x : Binary f) : Nat := x.bits % f.signWeight

def zero (f : Format) (negative : Bool) : Binary f := ofMagnitude f negative 0

def infinite (f : Format) (negative : Bool) : Binary f := ofMagnitude f negative f.infinity

/-- The quiet word that is not a number. -/
def undefined (f : Format) : Binary f := ofMagnitude f false (f.infinity + f.step / 2)

def reading (x : Binary f) : Reading :=
  let fraction := x.magnitude % f.step
  let biased := x.magnitude / f.step
  if biased = f.topExponent then
    if fraction = 0 then .infinite x.negative else .undefined x.negative fraction
  else if biased = 0 then .finite x.negative fraction f.leastPower
  else .finite x.negative (f.step + fraction) (f.leastPower + (biased - 1 : Nat))

def isUndefined (x : Binary f) : Bool := f.infinity < x.magnitude

def isFinite (x : Binary f) : Bool := x.magnitude < f.infinity

/-! ## Rounding -/

/-- The magnitude nearest to a positive quotient, infinity when it is beyond the format. -/
def roundMagnitude (f : Format) (numerator denominator : Nat) : Nat :=
  if numerator = 0 then 0
  else
    let power := max (floorLog numerator denominator - (f.precision - 1)) f.leastPower
    let (n, d) := scaleByPower numerator denominator (-power)
    min (divideNearest n d + (power - f.leastPower).toNat * f.step) f.infinity

/-- The number nearest to a quotient. -/
def ofQuotient (f : Format) (negative : Bool) (numerator denominator : Nat) : Binary f :=
  ofMagnitude f negative (roundMagnitude f numerator denominator)

def ofReading (f : Format) : Reading → Binary f
  | .finite negative significand power =>
    let (n, d) := scaleByPower significand 1 power
    ofQuotient f negative n d
  | .infinite negative => infinite f negative
  | .undefined negative _ => ofMagnitude f negative (f.infinity + f.step / 2)

/-- The nearest number of another format. A word that is not a number keeps its sign and the
leading digits of its fraction, and becomes quiet. -/
def convert (g : Format) (x : Binary f) : Binary g :=
  match x.reading with
  | .undefined negative fraction =>
    let scaled := fraction * g.step / f.step
    let quiet := if scaled < g.step / 2 then scaled + g.step / 2 else scaled
    ofMagnitude g negative (g.infinity + quiet)
  | reading => ofReading g reading

/-- The number nearest to an integer, none when the integer is beyond the format. -/
def ofInt? (f : Format) (i : Int) : Option (Binary f) :=
  let x := ofQuotient f (i < 0) i.natAbs 1
  if x.isFinite then some x else none

/-- The number nearest to `digits * 10 ^ exponent`. Numbers four hundred places away from one are
out of range of both formats, so they are settled without raising ten to a great power. -/
def ofDecimal (f : Format) (negative : Bool) (digits : Nat) (exponent : Int) : Binary f :=
  let places : Int := (Nat.toDigits 10 digits).length + exponent
  if digits = 0 then zero f negative
  else if 400 < places then infinite f negative
  else if places < -400 then zero f negative
  else ofQuotient f negative (digits * 10 ^ exponent.toNat) (10 ^ (-exponent).toNat)

/-! ## Comparison with numbers -/

/-- Numeric equality: zeros of both signs agree, and what is not a number equals nothing. -/
def same (x y : Binary f) : Bool :=
  !x.isUndefined && !y.isUndefined
    && (x.bits == y.bits || (x.magnitude == 0 && y.magnitude == 0))

/-- The integer that the number is, if it is one. -/
def toInt? (x : Binary f) : Option Int :=
  match x.reading with
  | .finite negative significand power =>
    let (n, d) := scaleByPower significand 1 power
    if n % d = 0 then some (if negative then -(n / d : Nat) else (n / d : Nat)) else none
  | _ => none

/-- The integer part, toward zero. -/
def truncate? (x : Binary f) : Option Int :=
  match x.reading with
  | .finite negative significand power =>
    let (n, d) := scaleByPower significand 1 power
    some (if negative then -(n / d : Nat) else (n / d : Nat))
  | _ => none

def isZero (x : Binary f) : Bool := x.magnitude == 0

end Binary

end ControlSchema.Number
