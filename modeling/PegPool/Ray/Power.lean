import PegPool.Logged
import PegPool.Text.Written

/-!
# Powers in fixed point

A rate per second compounds over many seconds. Its power is taken by squaring:
the exponent is halved again and again, and each product is rounded to the
nearest ray. One product that is too wide makes the whole power absent.
-/

namespace PegPool.Ray

/-- The product of two rays, rounded to the nearest one, a tie upwards. -/
def times (ray u v : Wide) : Except WideError Wide := do
  let product ← u.mul v
  let shifted ← product.add ((ray.toNat / 2 : Nat) : Int)
  shifted.div ray

/-- Multiplies `product` by `base ^ (2 * n)`, one binary digit of `n` after
the other, the least significant first. -/
def foldSquares (ray base product : Wide) (n : Nat) : Except WideError Wide :=
  if n = 0 then .ok product
  else do
    let square ← times ray base base
    let product ← if n % 2 = 1 then times ray product square else pure product
    foldSquares ray square product (n / 2)
termination_by n

/-- The power of a ray. A power of zero needs no product. -/
def powerWide (ray base : Wide) (n : Nat) : Except WideError Wide :=
  if base.toNat = 0 then .ok (if n = 0 then ray else base)
  else foldSquares ray base (if n % 2 = 0 then ray else base) (n / 2)

/-- The `n`-th power of `base / ray`, in units of `ray`. -/
def power (ray base n : Nat) : Logged (Option Nat) :=
  if h : ray ≤ wideMax ∧ base ≤ wideMax then
    .ofFormula .power do return some (← powerWide ⟨ray, h.1⟩ ⟨base, h.2⟩ n).toNat
  else pure none

/-- Why a power is not defined at all. -/
inductive PowerError where
  | negativeOperand (base exponent : Int)
  | unitNotPositive (ray : Int)
  deriving DecidableEq, Repr

/-- The wording of each cause. -/
def PowerError.message : PowerError → String
  | negativeOperand base exponent =>
    s!"rpow requires non-negative operands, got x={base}, n={exponent}"
  | unitNotPositive ray => s!"rpow requires a positive ray, got {ray}"

/-- The integers that the wording of a cause tells. -/
def PowerError.integers : PowerError → List Int
  | negativeOperand base exponent => [base, exponent]
  | unitNotPositive ray => [ray]

/-- The wording of each cause, or the complaint about an integer in it. -/
def PowerError.told (cause : PowerError) : Except String String :=
  Text.tell cause.integers cause.message

/-- The power of integers, which must not be negative; the unit is positive. -/
def powerOfInts (ray base n : Int) : Except PowerError (Logged (Option Nat)) :=
  if base < 0 ∨ n < 0 then .error (.negativeOperand base n)
  else if ray ≤ 0 then .error (.unitNotPositive ray)
  else .ok (power ray.toNat base.toNat n.toNat)

/-- The index `chi` grown by a factor, both in units of `ray`. -/
def scaleIndex (growth chi ray : Nat) : Logged (Option Nat) :=
  .ofFormula .scaledIndex do
    let growth ← Wide.ofInt growth
    let product ← growth.mul (← Wide.ofInt chi)
    let index ← product.div (← Wide.ofInt ray)
    return some index.toNat

end PegPool.Ray
