import PegPool.Decimal.Double

/-!
# Arithmetic of doubles

A sum, a difference or a product of doubles is the double nearest to the exact
result. A double and an integer are compared exactly, without rounding either.
-/

namespace PegPool.Double

/-- A significand with its sign. -/
def signed (negative : Bool) (significand : Nat) : Int :=
  if negative then -(significand : Int) else significand

/-- The double nearest to `value * 2 ^ exponent`; a zero gets the sign that is
given for it. -/
def ofScaled (zeroNegative : Bool) (value exponent : Int) : Double :=
  if value = 0 then .finite zeroNegative 0 leastExponent
  else
    let (numerator, denominator) := scale 2 exponent value.natAbs 1
    ofFraction (value < 0) numerator denominator

/-- The double nearest to a natural number. -/
def ofNat (n : Nat) : Double := ofScaled false n 0

/-- The double of opposite sign. -/
def negate : Double → Double
  | undefined => undefined
  | infinite negative => infinite (!negative)
  | finite negative significand exponent => finite (!negative) significand exponent

/-- The sum. Infinities of opposite sign have none. -/
def add : Double → Double → Double
  | undefined, _ | _, undefined => undefined
  | infinite s, infinite t => if s = t then infinite s else undefined
  | infinite s, finite .. | finite .., infinite s => infinite s
  | finite s m e, finite t n f =>
    let low := min e f
    let left := signed s m * Nat.pow 2 (e - low).toNat
    let right := signed t n * Nat.pow 2 (f - low).toNat
    ofScaled (s && t) (left + right) low

/-- The difference. -/
def sub (x y : Double) : Double := x.add y.negate

/-- The product. An infinity times zero has none. -/
def mul : Double → Double → Double
  | undefined, _ | _, undefined => undefined
  | infinite s, infinite t => infinite (s != t)
  | infinite s, finite t n _ | finite t n _, infinite s =>
    if n = 0 then undefined else infinite (s != t)
  | finite s m e, finite t n f => ofScaled (s != t) (signed s m * signed t n) (e + f)

/-- The double is zero, of either sign. -/
def isZero : Double → Bool
  | finite _ significand _ => significand == 0
  | _ => false

/-- How a double compares with an integer, unless it lies outside the number
line. -/
def compareInt : Double → Int → Option Ordering
  | undefined, _ => none
  | infinite negative, _ => some (if negative then .lt else .gt)
  | finite negative significand exponent, value =>
    let (numerator, denominator) := scale 2 exponent significand 1
    some (compare (signed negative numerator) (value * denominator))

/-- The double is less than an integer. -/
def ltInt (x : Double) (value : Int) : Bool := x.compareInt value == some .lt

/-- The double is greater than an integer. -/
def gtInt (x : Double) (value : Int) : Bool := x.compareInt value == some .gt

end PegPool.Double
