import PegPool.Decimal.Double

/-!
# Shortest decimals

The decimal form of a double is the shortest one that reads back as the same
double, and among those the nearest to it.
-/

namespace PegPool.Double

/-- A positive fraction. -/
structure Fraction where
  numerator : Nat
  denominator : Nat

namespace Fraction

/-- The first fraction is at most the second. -/
def le (x y : Fraction) : Bool :=
  x.numerator * y.denominator ≤ y.numerator * x.denominator

/-- The first fraction is less than the second. -/
def lt (x y : Fraction) : Bool :=
  x.numerator * y.denominator < y.numerator * x.denominator

/-- The distance of two fractions. -/
def distance (x y : Fraction) : Fraction :=
  let left := x.numerator * y.denominator
  let right := y.numerator * x.denominator
  ⟨if left ≤ right then right - left else left - right, x.denominator * y.denominator⟩

/-- The fraction `units * base ^ power`. -/
def ofPower (base units : Nat) (power : Int) : Fraction :=
  let (n, d) := scale base power units 1
  ⟨n, d⟩

end Fraction

/-- The numbers that read as one double: all between two ends, which belong to
it exactly when its significand is even. -/
structure Interval where
  lower : Fraction
  upper : Fraction
  closed : Bool

/-- The number lies in the interval. -/
def Interval.contains (i : Interval) (x : Fraction) : Bool :=
  if i.closed then i.lower.le x && x.le i.upper else i.lower.lt x && x.lt i.upper

/-- The numbers nearest to `significand * 2 ^ exponent`. Below a power of two
the neighbour is only half as far away. -/
def interval (significand : Nat) (exponent : Int) : Interval where
  lower :=
    if significand = leastFull ∧ leastExponent < exponent then
      .ofPower 2 (4 * significand - 1) (exponent - 2)
    else .ofPower 2 (2 * significand - 1) (exponent - 1)
  upper := .ofPower 2 (2 * significand + 1) (exponent - 1)
  closed := significand % 2 == 0

/-- The power of ten below a positive fraction: `10 ^ e ≤ x < 10 ^ (e + 1)`. -/
def decimalExponent (x : Fraction) : Int :=
  let guess : Int :=
    ((toString x.numerator).length : Int) - (toString x.denominator).length
  if (Fraction.ofPower 10 1 guess).le x then guess else guess - 1

/-- The point of the decimal grid `10 ^ power` that reads as the double and
lies nearest to it. -/
def gridPoint? (x : Fraction) (i : Interval) (power : Int) : Option Nat :=
  let (n, d) := scale 10 (-power) x.numerator x.denominator
  let below := n / d
  let hitBelow := i.contains (.ofPower 10 below power)
  let hitAbove := i.contains (.ofPower 10 (below + 1) power)
  match hitBelow, hitAbove with
  | false, false => none
  | true, false => some below
  | false, true => some (below + 1)
  | true, true =>
    let toBelow := x.distance (.ofPower 10 below power)
    let toAbove := x.distance (.ofPower 10 (below + 1) power)
    some (if toBelow.lt toAbove then below
      else if toAbove.lt toBelow then below + 1
      else if below % 2 = 0 then below else below + 1)

/-- The first grid, from coarse to fine, that has a point which reads as the
double; with 17 digits there always is one. -/
def firstGridPoint (x : Fraction) (i : Interval) (top : Int) : Nat → Nat × Int
  | 0 => (0, top)
  | left + 1 =>
    let power := top - (16 - left)
    match gridPoint? x i power with
    | some digits => (digits, power)
    | none => firstGridPoint x i top left

/-- Digits and power of ten of the shortest decimal for a positive double. -/
def shortest (significand : Nat) (exponent : Int) : Nat × Int :=
  let x := Fraction.ofPower 2 significand exponent
  firstGridPoint x (interval significand exponent) (decimalExponent x) 17

/-! ## Layout

Digits stand around a decimal point when the whole part has at most sixteen
places, or when at most three zeros come between the point and the first
digit; otherwise an exponent of at least two digits follows. A whole number
keeps one zero after its point. -/

/-- The text without the zeros at its end. -/
def dropTrailingZeros (text : List Char) : List Char :=
  (text.reverse.dropWhile (· == '0')).reverse

/-- A row of zeros. -/
def zeros (count : Nat) : List Char := List.replicate count '0'

/-- The decimal `digits * 10 ^ (point - digits.length)`. -/
def layout (digits : List Char) (point : Int) : List Char :=
  if -4 < point ∧ point ≤ 16 then
    if point ≤ 0 then
      ['0', '.'] ++ zeros (-point).toNat ++ digits
    else if point.toNat < digits.length then
      digits.take point.toNat ++ ['.'] ++ digits.drop point.toNat
    else digits ++ zeros (point.toNat - digits.length) ++ ['.', '0']
  else
    let exponent := point - 1
    let size := toString exponent.natAbs
    let shown := if size.length < 2 then "0" ++ size else size
    let mantissa :=
      match digits with
      | first :: rest@(_ :: _) => first :: '.' :: rest
      | short => short
    mantissa ++ ['e', if exponent < 0 then '-' else '+'] ++ shown.toList

/-- The written form of a double. -/
def text : Double → String
  | undefined => "nan"
  | infinite negative => if negative then "-inf" else "inf"
  | finite negative significand exponent =>
    let sign := if negative then "-" else ""
    if significand = 0 then sign ++ "0.0"
    else
      let (digits, power) := shortest significand exponent
      let written := (toString digits).toList
      sign ++ String.ofList (layout (dropTrailingZeros written) (written.length + power))

end PegPool.Double
