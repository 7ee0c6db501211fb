import PegPool.Proofs.Pool

/-!
# Runs at a constant price

At a constant price both reserves are shared out by themselves. A swap adds to
the worth of the pool, minting and burning scale each reserve with the supply,
and what rounding leaves over stays in the pool. So no mix of them, however
long, lowers the worth per pool token.
-/

namespace PegPool.Pool

/-- What is done to a pool whose reserves are shared out. -/
inductive Operation where
  | swap (source : Int) (direction : Direction) (timestamp : Option Int)
  | mint (poolTokens : Nat) (timestamp : Option Int)
  | burn (poolTokens : Nat) (timestamp : Option Int)

/-- The pool after an operation, if nothing fails. -/
def Operation.step (curve : Curve) : Operation → Pool → Option Pool
  | swap source direction timestamp, pool => pool.swap? curve source direction timestamp
  | mint poolTokens timestamp, pool => pool.mint? curve poolTokens timestamp
  | burn poolTokens timestamp, pool => pool.burn? curve poolTokens timestamp

section ConstantPrice

variable {record : ConstantPrice} {timestamp : Option Int} {t : Nat} {old new : Pool}

/-! ## One operation -/

theorem undiluted_of_swap? {source : Int} {direction : Direction}
    (h : old.swap? (.constantPrice record) source direction timestamp = some new) :
    Undiluted (worth record.tokenBPrice.toNat Ray.one) old new := by
  obtain ⟨hworth, hsupply⟩ := worth_le_of_swap? rfl h
  exact .of_supply_eq hworth hsupply

/-- What is taken for pool tokens is no less than their part of each reserve. -/
theorem undiluted_of_mint? (p r : Nat)
    (h : old.mint? (.constantPrice record) t timestamp = some new) :
    Undiluted (worth p r) old new := by
  rw [mint?, Option.bind_eq_bind, Option.bind_eq_some_iff] at h
  obtain ⟨taken, htaken, h⟩ := h
  obtain ⟨⟨-, -, -, -, -, -, hne⟩, rfl, -⟩ := value_reserveShare_eq_some_iff.1 htaken
  obtain rfl := Option.some.inj h
  -- there is an answer only if there are pool tokens already
  have hpos := Nat.pos_of_ne_zero hne
  exact ⟨worth_mul_le_worth_mul (reserve_mul_le_of_taken hpos) (reserve_mul_le_of_taken hpos),
    fun hzero => absurd hzero hne⟩

/-- What is paid for pool tokens is no more than their part of each reserve. -/
theorem undiluted_of_burn? (p r : Nat)
    (h : old.burn? (.constantPrice record) t timestamp = some new) :
    Undiluted (worth p r) old new := by
  unfold burn? at h
  split at h
  · rw [Option.bind_eq_bind, Option.bind_eq_some_iff] at h
    obtain ⟨paid, hpaid, h⟩ := h
    obtain ⟨⟨-, -, -, -, -, -, hne⟩, rfl, -⟩ := value_reserveShare_eq_some_iff.1 hpaid
    obtain rfl := Option.some.inj h
    exact ⟨worth_mul_le_worth_mul reserve_mul_le_of_paid reserve_mul_le_of_paid,
      fun hzero => absurd hzero hne⟩
  · cases h

theorem Operation.undiluted {operation : Operation}
    (h : operation.step (.constantPrice record) old = some new) :
    Undiluted (worth record.tokenBPrice.toNat Ray.one) old new := by
  cases operation with
  | swap source direction timestamp => exact undiluted_of_swap? h
  | mint poolTokens timestamp => exact undiluted_of_mint? _ _ h
  | burn poolTokens timestamp => exact undiluted_of_burn? _ _ h

/-! ## Payouts -/

section Payout

variable {pool : Pool} {paid : TokenAmounts}

/-- A payout for pool tokens that there are is covered by both reserves. -/
theorem paid_le_of_share (ht : t ≤ pool.supply)
    (h : ((Curve.constantPrice record).share t pool.supply pool.tokenA pool.tokenB .floor
      timestamp).value = some paid) :
    paid.tokenA ≤ pool.tokenA ∧ paid.tokenB ≤ pool.tokenB := by
  obtain ⟨-, rfl, -⟩ := value_reserveShare_eq_some_iff.1 h
  exact ⟨div_le_reserve ht, div_le_reserve ht⟩

/-- All pool tokens together are paid both reserves. -/
theorem paid_eq_of_share_supply
    (h : ((Curve.constantPrice record).share pool.supply pool.supply pool.tokenA pool.tokenB
      .floor timestamp).value = some paid) : paid = ⟨pool.tokenA, pool.tokenB⟩ := by
  obtain ⟨⟨-, -, -, -, -, -, hne⟩, rfl, -⟩ := value_reserveShare_eq_some_iff.1 h
  have hpos := Nat.pos_of_ne_zero hne
  exact congrArg₂ _ (Nat.mul_div_cancel_left _ hpos) (Nat.mul_div_cancel_left _ hpos)

/-- In a pool of narrow amounts nothing stands in the way of that payout. -/
theorem share_supply (hne : pool.supply ≠ 0) (hsupply : pool.supply ≤ narrowMax)
    (hA : pool.tokenA ≤ narrowMax) (hB : pool.tokenB ≤ narrowMax) :
    ((Curve.constantPrice record).share pool.supply pool.supply pool.tokenA pool.tokenB .floor
      timestamp).value = some ⟨pool.tokenA, pool.tokenB⟩ := by
  have hpos := Nat.pos_of_ne_zero hne
  have htokenA : Rounding.floor.quotient (pool.supply * pool.tokenA) pool.supply
      = pool.tokenA := Nat.mul_div_cancel_left _ hpos
  have htokenB : Rounding.floor.quotient (pool.supply * pool.tokenB) pool.supply
      = pool.tokenB := Nat.mul_div_cancel_left _ hpos
  have hwide := hsupply.trans narrowMax_le_wideMax
  apply value_reserveShare_eq_some_iff.2
  rw [htokenA, htokenB]
  exact ⟨⟨hwide, hwide, hA.trans narrowMax_le_wideMax, hB.trans narrowMax_le_wideMax,
    mul_le_wideMax hsupply hA, mul_le_wideMax hsupply hB, hne⟩, rfl, hA, hB⟩

end Payout

end ConstantPrice

/-! ## Runs -/

/-- No run of swaps, mints and burns at a constant price lowers what the pool is
worth per pool token. Wherever it ends, what can be burnt is covered, and all of
it is paid both reserves. -/
theorem run_never_dilutes (record : ConstantPrice) {operations : List Operation}
    {start last : Pool}
    (h : start.run? (Operation.step (.constantPrice record)) operations = some last) :
    (start.worth record.tokenBPrice.toNat Ray.one * last.supply
      ≤ last.worth record.tokenBPrice.toNat Ray.one * start.supply) ∧
    (∀ (t : Nat) (timestamp : Option Int) (paid : TokenAmounts), t ≤ last.supply →
      ((Curve.constantPrice record).share t last.supply last.tokenA last.tokenB .floor
        timestamp).value = some paid →
      paid.tokenA ≤ last.tokenA ∧ paid.tokenB ≤ last.tokenB ∧
        (t = last.supply → paid = ⟨last.tokenA, last.tokenB⟩)) ∧
    (last.supply ≠ 0 → last.supply ≤ narrowMax → last.tokenA ≤ narrowMax →
      last.tokenB ≤ narrowMax → ∀ timestamp : Option Int,
      ((Curve.constantPrice record).share last.supply last.supply last.tokenA last.tokenB
        .floor timestamp).value = some ⟨last.tokenA, last.tokenB⟩) := by
  have hrun := rel_of_run? (R := Undiluted (worth record.tokenBPrice.toNat Ray.one))
    .refl .trans Operation.undiluted h
  refine ⟨hrun.value_mul_le, ?_, ?_⟩
  · intro t timestamp paid ht hpaid
    obtain ⟨hA, hB⟩ := paid_le_of_share ht hpaid
    refine ⟨hA, hB, ?_⟩
    rintro rfl
    exact paid_eq_of_share_supply hpaid
  · intro hne hsupply hA hB timestamp
    exact share_supply hne hsupply hA hB

/-- One and a half of token A for one token B. -/
def oneAndAHalf : ConstantPrice := ⟨⟨3 * Ray.one / 2, by decide⟩⟩

/-- Each operation once; every one of them leaves a fraction in the pool. -/
theorem run_never_dilutes_oneAndAHalf :
    let start : Pool := ⟨100, 100, 30⟩
    let last : Pool := ⟨94, 89, 27⟩
    start.run? (Operation.step (.constantPrice oneAndAHalf))
      [.swap 10 .aToB none, .mint 7 none, .swap 5 .bToA none, .burn 10 none] = some last ∧
    (start.worth oneAndAHalf.tokenBPrice.toNat Ray.one * last.supply
      ≤ last.worth oneAndAHalf.tokenBPrice.toNat Ray.one * start.supply) ∧
    ((Curve.constantPrice oneAndAHalf).share 27 27 94 89 .floor none).value = some ⟨94, 89⟩ := by
  intro start last
  have hrun : start.run? (Operation.step (.constantPrice oneAndAHalf))
      [.swap 10 .aToB none, .mint 7 none, .swap 5 .bToA none, .burn 10 none] = some last := by
    decide +kernel
  obtain ⟨hworth, -, hlast⟩ := run_never_dilutes oneAndAHalf hrun
  exact ⟨hrun, hworth, hlast (by decide) (by decide) (by decide) (by decide) none⟩

end PegPool.Pool
