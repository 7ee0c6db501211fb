import PegPool.Curve.ConstantPrice
import PegPool.Curve.RedemptionRate
import PegPool.Share

/-!
# Curves

A curve prices token B, and with the price it answers what a pool is asked:
what a swap moves, what pool tokens are worth, what the pool is worth. Where a
price is missing every answer is missing.
-/

namespace PegPool

/-- A curve of either kind. -/
inductive Curve where
  | constantPrice (record : ConstantPrice)
  | redemptionRate (record : RedemptionRate)
  deriving DecidableEq

namespace Curve

/-- The kind of a curve. -/
def kind : Curve → CurveKind
  | constantPrice _ => .constantPrice
  | redemptionRate _ => .redemptionRate

/-- The record of a curve with an index. -/
def rateRecord? : Curve → Option RedemptionRate
  | constantPrice _ => none
  | redemptionRate record => some record

/-- The written form of a curve's record. -/
def describeRecord : Curve → String
  | constantPrice record => record.describe
  | redemptionRate record => record.describe

/-- The written form of a curve. -/
def describe (curve : Curve) : String :=
  s!"SwapCurve(curve_type={curve.kind.describe}, calculator={curve.describeRecord})"

/-- The curve under the tag that is named for it, which must be its own. -/
def withTag (curve : Curve) (tag : NamedTag) : Except CurveError Curve :=
  if tag.kind? = some curve.kind then .ok curve
  else .error (.tagMismatch curve.kind tag)

/-- The price of token B at a time that may be unknown. -/
def priceAt (curve : Curve) (timestamp : Option Int) : Logged (Option Price) :=
  match curve with
  | constantPrice record => pure (some ⟨record.tokenBPrice.toNat, Ray.one⟩)
  | redemptionRate record => do
    return (← record.conversionRate? timestamp).map fun rate => ⟨rate, record.ray.toNat⟩

/-! ## What a pool is asked -/

/-- What a swap of an offered amount takes and pays. -/
def swap (curve : Curve) (source : Int) (direction : Direction) (timestamp : Option Int) :
    Logged (Option SwapAmounts) :=
  (curve.priceAt timestamp).andThen fun price => price.swap source direction

/-- The pool tokens minted for an amount of one token, rounded down. -/
def deposit (curve : Curve) (source reserveA reserveB supply : Int) (direction : Direction)
    (timestamp : Option Int) : Logged (Option Nat) :=
  (curve.priceAt timestamp).andThen fun price =>
    price.poolTokens source reserveA reserveB supply direction .floor

/-- The pool tokens burnt to take out exactly an amount of one token. -/
def withdraw (curve : Curve) (source reserveA reserveB supply : Int)
    (direction : Direction) (rounding : Rounding) (timestamp : Option Int) :
    Logged (Option Nat) :=
  (curve.priceAt timestamp).andThen fun price =>
    price.poolTokens source reserveA reserveB supply direction rounding

/-- The amounts of both tokens that pool tokens stand for. At a fixed price
each reserve is shared out; under an index the pool's value is. -/
def share (curve : Curve) (poolTokens supply reserveA reserveB : Int)
    (rounding : Rounding) (timestamp : Option Int) : Logged (Option TokenAmounts) :=
  match curve with
  | constantPrice _ => reserveShare poolTokens supply reserveA reserveB rounding
  | redemptionRate _ => (curve.priceAt timestamp).andThen fun price =>
    price.valueShare poolTokens supply reserveA reserveB rounding

/-- Half the worth of both reserves, counted in token A. -/
def normalizedValue (curve : Curve) (reserveA reserveB : Int) (timestamp : Option Int) :
    Logged (Option Nat) :=
  (curve.priceAt timestamp).andThen fun price => price.normalizedValue reserveA reserveB

/-! ## Validation -/

/-- Whether the curve can price trades at a time. -/
def validate (curve : Curve) (timestamp : Option Int) : Logged (Except CurveError Unit) :=
  match curve with
  | constantPrice record => pure record.validate
  | redemptionRate record => record.validate timestamp

/-- A new pool starts with some of token A. -/
def validateSupply (tokenA : Int) : Except CurveError Unit :=
  if tokenA = 0 then .error .noTokenA else .ok ()

end Curve

end PegPool
