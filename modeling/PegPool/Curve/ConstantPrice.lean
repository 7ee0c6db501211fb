import PegPool.Curve.Field
import PegPool.Limits

/-!
# Constant price

Token B trades at a price that was fixed when the pool was created.
-/

namespace PegPool

/-- A curve with a fixed price of token B in token A, in units of `Ray.one`. -/
structure ConstantPrice where
  tokenBPrice : Narrow
  deriving DecidableEq

namespace ConstantPrice

/-- The record of an offered price. -/
def ofFields (tokenBPrice : Offered) : Except CurveError ConstantPrice := do
  return ⟨← Narrow.ofOffered "token_b_price" tokenBPrice⟩

/-- A price of zero is no price. -/
def validate (curve : ConstantPrice) : Except CurveError Unit :=
  if curve.tokenBPrice.toNat = 0 then .error .zeroPrice else .ok ()

/-- The written form of a record. -/
def describe (curve : ConstantPrice) : String :=
  s!"ConstantPriceCurve(token_b_price={curve.tokenBPrice.toNat})"

end ConstantPrice

end PegPool
