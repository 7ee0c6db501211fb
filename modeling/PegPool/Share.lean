import PegPool.Price

/-!
# Shares of a pool

Pool tokens stand for a share of the pool, which is paid in both tokens. The
share is either taken of each reserve, or of the pool's value, which is then
told in each token.
-/

namespace PegPool

/-- The same part of each reserve, in wide arithmetic. -/
def reserveShareWide (poolTokens supply reserveA reserveB : Int) (rounding : Rounding) :
    Except WideError TokenAmounts := do
  let poolTokens ← Wide.ofInt poolTokens
  let supply ← Wide.ofInt supply
  let productA ← poolTokens.mul (← Wide.ofInt reserveA)
  let productB ← poolTokens.mul (← Wide.ofInt reserveB)
  let tokenA ← rounding.divide productA supply
  let tokenB ← rounding.divide productB supply
  return ⟨← tokenA.narrow, ← tokenB.narrow⟩

/-- The same part of each reserve. -/
def reserveShare (poolTokens supply reserveA reserveB : Int) (rounding : Rounding) :
    Logged (Option TokenAmounts) :=
  .ofFormula .reserveShare
    (some <$> reserveShareWide poolTokens supply reserveA reserveB rounding)

namespace Price

/-- A part of the pool's value, told in each token, in wide arithmetic. What is
paid out is held to the reserves; what is taken in is not. -/
def valueShareWide (price : Price) (poolTokens supply : Int) (total : Nat)
    (reserveA reserveB : Int) (rounding : Rounding) : Except WideError TokenAmounts := do
  let value ← (← Wide.ofInt poolTokens).mul (← Wide.ofInt total)
  let supply ← Wide.ofInt supply
  let tokenB ← Wide.ofInt price.tokenB
  let scaled ← value.mul (← Wide.ofInt price.scale)
  match rounding with
  | .floor =>
    let amountA ← (← value.div supply).min reserveA
    let amountB ← (← (← scaled.div tokenB).div supply).min reserveB
    return ⟨← amountA.narrow, ← amountB.narrow⟩
  | .ceiling =>
    let amountA ← value.ceilDiv supply
    let amountB ← (← scaled.ceilDiv tokenB).ceilDiv supply
    return ⟨← amountA.narrow, ← amountB.narrow⟩

/-- A part of the pool's value, told in each token. -/
def valueShare (price : Price) (poolTokens supply reserveA reserveB : Int)
    (rounding : Rounding) : Logged (Option TokenAmounts) :=
  (price.normalizedValue reserveA reserveB).andThen fun total =>
    .ofFormula .valueShare
      (some <$> price.valueShareWide poolTokens supply total reserveA reserveB rounding)

end Price

end PegPool
