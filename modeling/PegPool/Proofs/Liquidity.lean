import PegPool.Proofs.PoolTokens

/-!
# Liquidity in one token

Pool tokens are minted for an amount of one token, and burnt for an exact amount of
token A. The pool counts its worth in whole tokens A, and anew after each operation. What a
deposit adds to the sum is no less than what it is credited, since fractions of B only
add up, and what a withdrawal takes of A is told without a fraction. So no mix of
deposits, withdrawals and swaps lowers the whole worth per pool token.
-/

namespace PegPool.Pool

/-! ## Operations -/

/-- The pool after an amount of one token came in for new pool tokens. -/
def putIn (pool : Pool) (source minted : Nat) : Direction → Pool
  | .aToB => ⟨pool.tokenA + source, pool.tokenB, pool.supply + minted⟩
  | .bToA => ⟨pool.tokenA, pool.tokenB + source, pool.supply + minted⟩

/-- Mints pool tokens for an amount of one token, rounded down. -/
def deposit? (curve : Curve) (source : Nat) (direction : Direction) (timestamp : Option Int)
    (pool : Pool) : Option Pool := do
  let minted ← (curve.deposit source pool.tokenA pool.tokenB pool.supply direction
    timestamp).value
  some (pool.putIn source minted direction)

/-- Burns pool tokens for an amount of token A that the pool holds, rounded up. -/
def withdrawA? (curve : Curve) (source : Nat) (timestamp : Option Int) (pool : Pool) :
    Option Pool :=
  if source ≤ pool.tokenA then do
    let burnt ← (curve.withdraw source pool.tokenA pool.tokenB pool.supply .aToB .ceiling
      timestamp).value
    some ⟨pool.tokenA - source, pool.tokenB, pool.supply - burnt⟩
  else none

/-- What is done to a pool with one token at a time. -/
inductive SingleOperation where
  | swap (source : Int) (direction : Direction)
  | deposit (source : Nat) (direction : Direction)
  | withdrawA (source : Nat)

/-- The pool after an operation at a time, if nothing fails. -/
def SingleOperation.step (curve : Curve) (timestamp : Option Int) :
    SingleOperation → Pool → Option Pool
  | swap source direction, pool => pool.swap? curve source direction timestamp
  | deposit source direction, pool => pool.deposit? curve source direction timestamp
  | withdrawA source, pool => pool.withdrawA? curve source timestamp

variable {curve : Curve} {timestamp : Option Int} {p r source minted burnt : Nat}
  {direction : Direction} {old new pool : Pool}

/-! ## What is credited and charged -/

/-- The whole worth grows by what a deposit is credited, or by one more where two fractions
of B make up one token A. -/
theorem wholeWorth_add_le_putIn (pool : Pool) (p r source minted : Nat) (direction : Direction) :
    pool.wholeWorth p r + direction.wholeWorth p r source
      ≤ (pool.putIn source minted direction).wholeWorth p r := by
  cases direction with
  | aToB => exact (Nat.add_right_comm _ _ _).le
  | bToA =>
    rw [wholeWorth, wholeWorth, Direction.wholeWorth, putIn, Nat.add_assoc, Nat.add_mul]
    exact Nat.add_le_add_left Nat.div_add_div_le_add_div _

theorem supply_putIn (pool : Pool) (source minted : Nat) (direction : Direction) :
    (pool.putIn source minted direction).supply = pool.supply + minted := by
  cases direction <;> rfl

/-- What is minted is no more than the part of the reserves that is credited. -/
theorem minted_mul_wholeWorth_le
    (h : ((⟨p, r⟩ : Price).poolTokens source pool.tokenA pool.tokenB pool.supply direction
      .floor).value = some minted) :
    0 < pool.wholeWorth p r ∧
      minted * pool.wholeWorth p r ≤ pool.supply * direction.wholeWorth p r source := by
  obtain ⟨-, ⟨-, -, -, hne⟩, -, rfl, -⟩ := Price.value_poolTokens_eq_some_iff.1 h
  exact ⟨Nat.pos_of_ne_zero hne, Nat.div_mul_le_self _ _⟩

/-- A withdrawal of token A that the pool holds burns no more pool tokens than there are. -/
theorem burnt_le_supply (hsource : source ≤ pool.tokenA)
    (h : ((⟨p, r⟩ : Price).poolTokens source pool.tokenA pool.tokenB pool.supply .aToB
      .ceiling).value = some burnt) : burnt ≤ pool.supply := by
  obtain ⟨-, ⟨-, -, -, hne⟩, -, rfl, -⟩ := Price.value_poolTokens_eq_some_iff.1 h
  apply (ceilDiv_le_iff_le_mul (Nat.pos_of_ne_zero hne)).2
  rw [Nat.mul_comm]
  exact Nat.mul_le_mul_right _ (hsource.trans (Nat.le_add_right _ _))

/-- Where there are no pool tokens none are minted, for their part of a value is nothing. -/
theorem Undiluted.of_minted {value : Pool → Nat} {credited : Nat} (hpos : 0 < value old)
    (hpart : minted * value old ≤ old.supply * credited)
    (hgrown : value old + credited ≤ value new) (hsupply : new.supply = old.supply + minted) :
    Undiluted value old new where
  value_mul_le := hsupply ▸ mul_supply_add_le hpart hgrown
  supply_eq_zero hzero := by
    rw [hzero, Nat.zero_mul, Nat.le_zero, Nat.mul_eq_zero] at hpart
    omega

/-! ## One operation -/

section PriceAt

variable (hprice : (curve.priceAt timestamp).value = some ⟨p, r⟩)

include hprice

theorem undiluted_wholeWorth_of_swap? {source : Int}
    (h : old.swap? curve source direction timestamp = some new) :
    Undiluted (wholeWorth p r) old new := by
  obtain ⟨hworth, hsupply⟩ := worth_le_of_swap? hprice h
  have hr : 0 < r := by
    have := worth_lt_of_swap? hprice h
    omega
  apply Undiluted.of_supply_eq _ hsupply
  rw [wholeWorth_eq_worth_div hr, wholeWorth_eq_worth_div hr]
  exact Nat.div_le_div_right hworth

theorem undiluted_of_deposit? (h : old.deposit? curve source direction timestamp = some new) :
    Undiluted (wholeWorth p r) old new := by
  rw [deposit?, Option.bind_eq_bind, Option.bind_eq_some_iff] at h
  obtain ⟨minted, hminted, h⟩ := h
  rw [Curve.value_deposit_of_priceAt hprice] at hminted
  obtain rfl := Option.some.inj h
  obtain ⟨hpos, hpart⟩ := minted_mul_wholeWorth_le hminted
  exact .of_minted hpos hpart (wholeWorth_add_le_putIn old p r source minted direction)
    (supply_putIn old source minted direction)

theorem undiluted_of_withdrawA? (h : old.withdrawA? curve source timestamp = some new) :
    Undiluted (wholeWorth p r) old new := by
  unfold withdrawA? at h
  split at h
  case isTrue hsource =>
    rw [Option.bind_eq_bind, Option.bind_eq_some_iff] at h
    obtain ⟨burnt, hburnt, h⟩ := h
    rw [Curve.value_withdraw_of_priceAt hprice] at hburnt
    obtain rfl := Option.some.inj h
    have hpart : old.supply * source ≤ burnt * old.wholeWorth p r :=
      Price.supply_mul_wholeWorth_le_of_poolTokens hburnt
    constructor
    · apply mul_supply_sub_le hpart
      -- a reserve of A is counted without a fraction, so nothing but the source is missing
      simp only [wholeWorth]
      omega
    · intro hzero
      rw [hzero, Nat.zero_sub]
  case isFalse => cases h

theorem SingleOperation.undiluted {operation : SingleOperation}
    (h : operation.step curve timestamp old = some new) :
    Undiluted (wholeWorth p r) old new := by
  cases operation with
  | swap source direction => exact undiluted_wholeWorth_of_swap? hprice h
  | deposit source direction => exact undiluted_of_deposit? hprice h
  | withdrawA source => exact undiluted_of_withdrawA? hprice h

end PriceAt

/-! ## Runs -/

/-- No run of swaps, deposits of either token and withdrawals of token A lowers the whole worth
per pool token. Wherever it ends, the next withdrawal burns no more pool tokens than
there are. -/
theorem single_operations_never_dilute (hprice : (curve.priceAt timestamp).value = some ⟨p, r⟩)
    {operations : List SingleOperation} {start last : Pool}
    (h : start.run? (SingleOperation.step curve timestamp) operations = some last) :
    start.wholeWorth p r * last.supply ≤ last.wholeWorth p r * start.supply ∧
    ∀ source burnt : Nat, source ≤ last.tokenA →
      (curve.withdraw source last.tokenA last.tokenB last.supply .aToB .ceiling
        timestamp).value = some burnt → burnt ≤ last.supply := by
  have hrun := rel_of_run? (R := Undiluted (wholeWorth p r)) .refl .trans
    (SingleOperation.undiluted hprice) h
  refine ⟨hrun.value_mul_le, ?_⟩
  intro source burnt hsource hburnt
  rw [Curve.value_withdraw_of_priceAt hprice] at hburnt
  exact burnt_le_supply hsource hburnt

/-- Three tokens B at a price of a half are credited as one token A; with a half that the
pool held before, they add two to its whole worth. Deposits of both tokens, a swap each way
and a withdrawal take it from 30 for 60 pool tokens to 34 for 65. -/
theorem single_operations_never_dilute_half :
    let curve := Curve.constantPrice Curve.half
    let p := Ray.one / 2
    let start : Pool := ⟨20, 21, 60⟩
    let last : Pool := ⟨23, 23, 65⟩
    (curve.priceAt none).value = some ⟨p, Ray.one⟩ ∧
    start.run? (SingleOperation.step curve none)
      [.deposit 3 .bToA, .swap 3 .aToB, .withdrawA 5, .deposit 7 .aToB, .swap 5 .bToA]
      = some last ∧
    start.wholeWorth p Ray.one * last.supply ≤ last.wholeWorth p Ray.one * start.supply ∧
    (curve.withdraw (23 : Nat) last.tokenA last.tokenB last.supply .aToB .ceiling none).value
      = some 44 ∧ 44 ≤ last.supply := by
  intro curve p start last
  have hprice : (curve.priceAt none).value = some ⟨p, Ray.one⟩ := by decide +kernel
  have hrun : start.run? (SingleOperation.step curve none)
      [.deposit 3 .bToA, .swap 3 .aToB, .withdrawA 5, .deposit 7 .aToB, .swap 5 .bToA]
      = some last := by decide +kernel
  have hburnt : (curve.withdraw (23 : Nat) last.tokenA last.tokenB last.supply .aToB .ceiling
      none).value = some 44 := by decide +kernel
  obtain ⟨hworth, hcovered⟩ := single_operations_never_dilute hprice hrun
  exact ⟨hprice, hrun, hworth, hburnt, hcovered 23 44 (Nat.le_refl _) hburnt⟩

end PegPool.Pool
