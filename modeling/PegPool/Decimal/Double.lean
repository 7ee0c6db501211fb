/-!
# Binary floating-point numbers

A number written with a decimal point is held as the double nearest to it:
a significand of at most 53 bits times a power of two. Nothing is computed
with such a number; it is only read and written again.
-/

namespace PegPool

/-- A double: `significand * 2 ^ exponent` with a sign, or one of the values
outside the number line. -/
inductive Double where
  | finite (negative : Bool) (significand : Nat) (exponent : Int)
  | infinite (negative : Bool)
  | undefined
  deriving DecidableEq, Repr

namespace Double

/-- Bits of a full significand. -/
def precision : Nat := 53

/-- The least full significand. -/
def leastFull : Nat := Nat.pow 2 (precision - 1)

/-- Exponent of the smallest positive double. -/
def leastExponent : Int := -1074

/-- Exponent of the largest doubles. -/
def greatestExponent : Int := 971

/-- The fraction `numerator * base ^ power / denominator`, written without
negative powers. -/
def scale (base : Nat) (power : Int) (numerator denominator : Nat) : Nat × Nat :=
  if 0 ≤ power then (numerator * base.pow power.toNat, denominator)
  else (numerator, denominator * base.pow (-power).toNat)

/-- The quotient rounded to the nearest whole number, a tie to the even one. -/
def roundHalfEven (numerator denominator : Nat) : Nat :=
  let quotient := numerator / denominator
  let twice := 2 * (numerator % denominator)
  if twice < denominator then quotient
  else if denominator < twice then quotient + 1
  else if quotient % 2 = 0 then quotient else quotient + 1

/-- The exponent at which a positive fraction has a full significand, but none
below the least. -/
def exponentOf (numerator denominator : Nat) : Int :=
  let guess : Int := (numerator.log2 : Int) - denominator.log2 - (precision - 1)
  let (n, d) := scale 2 (-guess) numerator denominator
  let exponent := if n < d * leastFull then guess - 1 else guess
  max exponent leastExponent

/-- The double nearest to a positive fraction, a tie to the even significand. -/
def ofFraction (negative : Bool) (numerator denominator : Nat) : Double :=
  let exponent := exponentOf numerator denominator
  let (n, d) := scale 2 (-exponent) numerator denominator
  let rounded := roundHalfEven n d
  let (significand, exponent) :=
    if rounded = 2 * leastFull then (leastFull, exponent + 1)
    else (rounded, exponent)
  if greatestExponent < exponent then .infinite negative
  else .finite negative significand exponent

/-- The double nearest to `digits * 10 ^ power`, where `digits` has
`length` decimal digits. Far outside the range of doubles the answer does not
depend on the digits, and no power is formed. -/
def ofDecimal (negative : Bool) (digits length : Nat) (power : Int) : Double :=
  if digits = 0 then .finite negative 0 leastExponent
  else if 400 < length + power then .infinite negative
  else if length + power < -400 then .finite negative 0 leastExponent
  else
    let (n, d) := scale 10 power digits 1
    ofFraction negative n d

end Double

end PegPool
