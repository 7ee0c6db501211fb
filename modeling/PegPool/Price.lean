import PegPool.Logged

/-!
# Trading at a price

Once the price of token B is known, every amount follows from exact products
and rounded quotients. The price is told in token A, in units of `scale`.

Rounding always favours the pool. Selling B pays the floor of its worth. To
buy B, the whole units of B that the offer can pay for are found first; then
only what they cost is taken, so a rest that buys nothing stays with the buyer.
-/

namespace PegPool

/-- The quotient rounded as asked. -/
def Rounding.divide (rounding : Rounding) (u : Wide) (x : Int) : Except WideError Wide :=
  match rounding with
  | .floor => u.div x
  | .ceiling => u.ceilDiv x

/-- The price of one token B in token A, in units of `scale`. -/
structure Price where
  tokenB : Int
  scale : Int
  deriving DecidableEq, Repr

namespace Price

/-! ## Swaps -/

/-- The amounts of a swap as answers: both are narrow, and neither is zero. -/
def settle (taken paid : Wide) : Except WideError (Option SwapAmounts) := do
  let taken ← taken.narrow
  let paid ← paid.narrow
  return do some ⟨← nonzero? taken, ← nonzero? paid⟩

/-- What a swap of an offered amount takes and pays, in wide arithmetic. -/
def swapWide (price : Price) (source : Int) (direction : Direction) :
    Except WideError (Option SwapAmounts) := do
  let tokenB ← Wide.ofInt price.tokenB
  let source ← Wide.ofInt source
  let scale ← Wide.ofInt price.scale
  match direction with
  | .bToA =>
    let worth ← source.mul tokenB
    let paid ← worth.div scale
    settle source paid
  | .aToB =>
    let worth ← source.mul scale
    let paid ← worth.div tokenB
    let cost ← paid.mul tokenB
    let taken ← cost.ceilDiv scale
    if source.toNat < taken.toNat then return none else settle taken paid

/-- What a swap of an offered amount takes and pays. -/
def swap (price : Price) (source : Int) (direction : Direction) :
    Logged (Option SwapAmounts) :=
  .ofFormula .swap (price.swapWide source direction)

/-! ## Liquidity in a single token -/

/-- The pool tokens that an amount of one token stands for, in wide arithmetic:
its share in the worth of both reserves, counted in token A. -/
def poolTokensWide (price : Price) (source reserveA reserveB supply : Int)
    (direction : Direction) (rounding : Rounding) : Except WideError Nat := do
  let tokenB ← Wide.ofInt price.tokenB
  let scale ← Wide.ofInt price.scale
  let source ← Wide.ofInt source
  let given ←
    match direction with
    | .aToB => pure source
    | .bToA => do (← source.mul tokenB).div scale
  let worthB ← (← (← Wide.ofInt reserveB).mul tokenB).div scale
  let total ← worthB.add (← Wide.ofInt reserveA)
  let numerator ← (← Wide.ofInt supply).mul given
  (← rounding.divide numerator total).narrow

/-- The pool tokens that an amount of one token stands for. The direction
tells which one: token A if it is the one handed in. -/
def poolTokens (price : Price) (source reserveA reserveB supply : Int)
    (direction : Direction) (rounding : Rounding) : Logged (Option Nat) :=
  .ofFormula .poolTokens
    (some <$> price.poolTokensWide source reserveA reserveB supply direction rounding)

/-! ## Value of a pool -/

/-- Half the worth of both reserves, in wide arithmetic. Close to the limit
each part is halved before the sum, which then fits; such a sum is far from
narrow, so the answer does not depend on the order. -/
def normalizedValueWide (price : Price) (reserveA reserveB : Int) :
    Except WideError Nat := do
  let worthA ← Wide.ofInt reserveA
  let reserveB ← Wide.ofInt reserveB
  let tokenB ← Wide.ofInt price.tokenB
  let product ← reserveB.mul tokenB
  let scale ← Wide.ofInt price.scale
  let worthB ← product.div scale
  let value ←
    if wideMax - narrowMax < worthB.toNat then do
      let halfB ← worthB.div 2
      let halfA ← worthA.div 2
      halfB.add halfA
    else do
      let sum ← worthA.add worthB
      sum.div 2
  value.narrow

/-- Half the worth of both reserves, counted in token A. -/
def normalizedValue (price : Price) (reserveA reserveB : Int) : Logged (Option Nat) :=
  .ofFormula .normalizedValue (some <$> price.normalizedValueWide reserveA reserveB)

end Price

end PegPool
