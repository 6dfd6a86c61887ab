import ControlSchema.Number.Binary

/-!
# Shortest decimals

The decimal that stands for a finite number is the one with the fewest digits among those that
round to it, and the nearest of these. A number owns the decimals between the midpoints to its
neighbours, ends included when its significand is even. If any decimal of a given length lies
there, one of the two decimals of that length next to the number does, so only those are tried.
-/

namespace ControlSchema.Number

attribute [local instance] corePow

/-- A decimal `digits * 10 ^ exponent`. -/
structure Decimal where
  digits : Nat
  exponent : Int
deriving DecidableEq

/-- A quotient over a power of ten, as a quotient. -/
def overPowerOfTen (numerator denominator : Nat) (power : Int) : Nat × Nat :=
  (numerator * 10 ^ (-power).toNat, denominator * 10 ^ power.toNat)

/-- The greatest power of ten that is at most a positive quotient. -/
def decimalLog (numerator denominator : Nat) : Int :=
  let atMost (power : Int) : Bool :=
    let (n, d) := overPowerOfTen numerator denominator power
    d ≤ n
  let guess := Int.fdiv (floorLog numerator denominator * 30103) 100000
  if atMost (guess + 1) then guess + 1 else if atMost guess then guess else guess - 1

/-- The decimals that round to a number, as bounds in quarters of its unit. -/
structure Territory where
  low : Nat
  high : Nat
  closed : Bool

/-- Below a power of two the units are half as wide, except at the bottom of the format. -/
def territory (f : Format) (significand : Nat) (power : Int) : Territory where
  low := if significand = f.step ∧ f.leastPower < power then 4 * significand - 1
    else 4 * significand - 2
  high := 4 * significand + 2
  closed := significand % 2 = 0

/-- The decimal of the given exponent nearest to the number, if it lies in the territory. -/
def nearestAt (f : Format) (significand : Nat) (power exponent : Int) : Option Decimal :=
  let (quarter, unit) := scaleByPower 1 1 (power - 2)
  let (n, d) := overPowerOfTen quarter unit exponent
  let bounds := territory f significand power
  let inside (digits : Nat) : Bool :=
    if bounds.closed then bounds.low * n ≤ digits * d && digits * d ≤ bounds.high * n
    else bounds.low * n < digits * d && digits * d < bounds.high * n
  let nearest := divideNearest (4 * significand * n) d
  let below := 4 * significand * n / d
  if inside nearest then some ⟨nearest, exponent⟩
  else if inside below then some ⟨below, exponent⟩
  else if inside (below + 1) then some ⟨below + 1, exponent⟩
  else none

/-- The shortest decimal of a positive number; seventeen digits always suffice. -/
def shortest (f : Format) (significand : Nat) (power : Int) : Decimal :=
  let (n, d) := scaleByPower significand 1 power
  let leading := decimalLog n d
  let found := (List.range 17).findSome? fun extra =>
    nearestAt f significand power (leading - (extra : Nat))
  found.getD ⟨divideNearest n d, 0⟩

end ControlSchema.Number
