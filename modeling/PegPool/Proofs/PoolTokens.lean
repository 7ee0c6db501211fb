import PegPool.Engine
import PegPool.Proofs.Pool

/-!
# Pool tokens for a single token

An amount of one token stands for pool tokens by its part of the worth of both
reserves. Everything is counted in whole tokens A before the division, so a
fraction is lost of what is handed over and another of the reserves; the last
rounding does not see them.
-/

namespace PegPool

/-- What an amount of the token handed in is worth, in whole tokens A. -/
def Direction.wholeWorth (p r : Nat) : Direction → Nat → Nat
  | aToB, amount => amount
  | bToA, amount => amount * p / r

/-- The same in wide arithmetic. -/
def Direction.wholeWorthWide (tokenB scale : Wide) : Direction → Wide → Except WideError Wide
  | aToB, amount => pure amount
  | bToA, amount => do (← amount.mul tokenB).div scale

theorem Direction.wholeWorthWide_eq_ok_iff {direction : Direction}
    {tokenB scale amount worth : Wide} (hscale : scale.toNat ≠ 0) :
    direction.wholeWorthWide tokenB scale amount = .ok worth ↔
      (direction = .bToA → amount.toNat * tokenB.toNat ≤ wideMax) ∧
        worth.toNat = direction.wholeWorth tokenB.toNat scale.toNat amount.toNat := by
  cases direction with
  | aToB =>
    simp only [wholeWorthWide, wholeWorth, pure_eq_ok_iff, reduceCtorEq, false_implies, true_and]
    exact ⟨fun h => h ▸ rfl, fun h => (Wide.ext h).symm⟩
  | bToA =>
    simp only [wholeWorthWide, wholeWorth, bind_eq_ok_iff, Wide.mul_natCast_eq_ok_iff,
      Wide.div_natCast_eq_ok_iff, forall_const]
    constructor
    · rintro ⟨product, hproduct, -, hworth⟩
      exact ⟨hproduct ▸ product.toNat_le, hproduct ▸ hworth⟩
    · rintro ⟨hproduct, hworth⟩
      exact ⟨⟨_, hproduct⟩, rfl, hscale, hworth⟩

namespace Price

variable {p r source a b s m : Nat} {direction : Direction} {rounding : Rounding}

/-- Only what is handed in depends on the direction. -/
theorem poolTokensWide_eq (price : Price) (source a b s : Int) (direction : Direction)
    (rounding : Rounding) :
    price.poolTokensWide source a b s direction rounding = (do
      let tokenB ← Wide.ofInt price.tokenB
      let scale ← Wide.ofInt price.scale
      let source ← Wide.ofInt source
      let given ← direction.wholeWorthWide tokenB scale source
      let worthB ← (← (← Wide.ofInt b).mul tokenB).div scale
      let total ← worthB.add (← Wide.ofInt a)
      let numerator ← (← Wide.ofInt s).mul given
      (← rounding.divide numerator total).narrow) := by
  cases direction with
  | aToB => rfl
  | bToA => simp only [poolTokensWide, Direction.wholeWorthWide, bind_assoc]

/-- The part of the worth of both reserves, of all pool tokens there are. -/
theorem value_poolTokens_eq_some_iff :
    ((⟨p, r⟩ : Price).poolTokens source a b s direction rounding).value = some m ↔
      (p ≤ wideMax ∧ r ≤ wideMax ∧ r ≠ 0 ∧ source ≤ wideMax ∧
        (direction = .bToA → source * p ≤ wideMax)) ∧
      (b ≤ wideMax ∧ b * p ≤ wideMax ∧ a + b * p / r ≤ wideMax ∧ a + b * p / r ≠ 0) ∧
      (s ≤ wideMax ∧ s * direction.wholeWorth p r source ≤ wideMax) ∧
      m = rounding.quotient (s * direction.wholeWorth p r source) (a + b * p / r) ∧
      m ≤ narrowMax := by
  rw [poolTokens, poolTokensWide_eq]
  simp only [Logged.value_ofFormula_eq_some_iff, map_eq_ok_iff, bind_eq_ok_iff,
    Wide.ofInt_natCast_eq_ok_iff, Wide.mul_natCast_eq_ok_iff, Wide.div_natCast_eq_ok_iff,
    Wide.add_natCast_eq_ok_iff, Rounding.divide_natCast_eq_ok_iff, Wide.narrow_eq_ok_iff,
    Option.some.injEq]
  constructor
  · rintro ⟨_, ⟨p, rfl, r, rfl, source, rfl, given, hgiven, b, rfl, productB, hproductB, worthB,
      ⟨hr, hworthB⟩, a, rfl, total, htotal, s, rfl, numerator, hnumerator, m, ⟨hne, hm⟩, rfl,
      hnarrow⟩, rfl⟩
    obtain ⟨hproduct, hgiven⟩ := (Direction.wholeWorthWide_eq_ok_iff hr).1 hgiven
    rw [hworthB, hproductB, Nat.add_comm] at htotal
    rw [htotal] at hm hne
    rw [hgiven] at hnumerator
    rw [hnumerator] at hm
    exact ⟨⟨p.toNat_le, r.toNat_le, hr, source.toNat_le, hproduct⟩,
      ⟨b.toNat_le, hproductB ▸ productB.toNat_le, htotal ▸ total.toNat_le, hne⟩,
      ⟨s.toNat_le, hnumerator ▸ numerator.toNat_le⟩, hm, hnarrow⟩
  · rintro ⟨⟨hp, hr, hrne, hsource, hproduct⟩, ⟨hb, hproductB, htotal, hne⟩, ⟨hs, hnumerator⟩, hm,
      hnarrow⟩
    have hgiven : direction.wholeWorth p r source ≤ wideMax := by
      cases direction with
      | aToB => exact hsource
      | bToA => exact (Nat.div_le_self _ _).trans (hproduct rfl)
    rw [Nat.add_comm] at htotal hne hm
    exact ⟨m, ⟨⟨p, hp⟩, rfl, ⟨r, hr⟩, rfl, ⟨source, hsource⟩, rfl, ⟨_, hgiven⟩,
      (Direction.wholeWorthWide_eq_ok_iff hrne).2 ⟨hproduct, rfl⟩, ⟨b, hb⟩, rfl,
      ⟨b * p, hproductB⟩, rfl, ⟨b * p / r, (Nat.div_le_self _ _).trans hproductB⟩, ⟨hrne, rfl⟩,
      ⟨a, (Nat.le_add_left _ _).trans htotal⟩, rfl, ⟨b * p / r + a, htotal⟩, rfl, ⟨s, hs⟩, rfl,
      ⟨_, hnumerator⟩, rfl, ⟨m, hnarrow.trans narrowMax_le_wideMax⟩, ⟨hne, hm⟩, rfl, hnarrow⟩,
      rfl⟩

end Price

/-! ## Exact withdrawals -/

section Withdrawal

variable {p r source m : Nat} {direction : Direction} {pool : Pool}

theorem Direction.wholeWorth_mul_add (direction : Direction) (p r amount : Nat) :
    direction.wholeWorth p r amount * r + amount * direction.unitWorth p r % r
      = amount * direction.unitWorth p r := by
  cases direction with
  | aToB => rw [wholeWorth, unitWorth, Nat.mul_mod_left, Nat.add_zero]
  | bToA => exact Nat.div_add_mod' _ _

/-- What is burnt is no less than the part of the reserves that is paid. -/
theorem Price.supply_mul_wholeWorth_le_of_poolTokens
    (h : ((⟨p, r⟩ : Price).poolTokens source pool.tokenA pool.tokenB pool.supply direction
      .ceiling).value = some m) :
    pool.supply * direction.wholeWorth p r source ≤ m * pool.wholeWorth p r := by
  obtain ⟨-, ⟨-, -, -, hne⟩, -, rfl, -⟩ := value_poolTokens_eq_some_iff.1 h
  rw [Nat.mul_comm _ (pool.wholeWorth p r)]
  exact le_smul_ceilDiv (Nat.pos_of_ne_zero hne)

/-- The pool tokens that are burnt make up for all of the amount that is paid but its
fraction. The fraction of the reserves is theirs as well. -/
theorem Price.worth_mul_le_of_poolTokens
    (h : ((⟨p, r⟩ : Price).poolTokens source pool.tokenA pool.tokenB pool.supply direction
      .ceiling).value = some m) :
    pool.supply * (source * direction.unitWorth p r) + m * (pool.tokenB * p % r)
      ≤ m * pool.worth p r + pool.supply * (source * direction.unitWorth p r % r) := by
  have hburnt := supply_mul_wholeWorth_le_of_poolTokens h
  have hsource := direction.wholeWorth_mul_add p r source
  generalize source * direction.unitWorth p r = due at hsource
  calc pool.supply * due + m * (pool.tokenB * p % r)
      = pool.supply * direction.wholeWorth p r source * r + pool.supply * (due % r)
        + m * (pool.tokenB * p % r) := by
        rw [Nat.mul_assoc, ← Nat.mul_add, hsource]
    _ ≤ m * pool.wholeWorth p r * r + pool.supply * (due % r) + m * (pool.tokenB * p % r) :=
        Nat.add_le_add_right (Nat.add_le_add_right (Nat.mul_le_mul_right r hburnt) _) _
    _ = m * pool.worth p r + pool.supply * (due % r) := by
        rw [Nat.add_right_comm, Pool.worth_eq_whole_mul_add, Nat.mul_add m, Nat.mul_assoc]

end Withdrawal

namespace Curve

/-- A withdrawal undercharges the pool by no more than its fraction of one token
A. Token A is never undercharged, nor is an amount of token B that is worth whole
tokens A. -/
theorem withdrawal_charge {curve : Curve} {timestamp : Option Int} {p r source m : Nat}
    {direction : Direction} {pool : Pool}
    (hprice : (curve.priceAt timestamp).value = some ⟨p, r⟩)
    (h : (curve.withdraw source pool.tokenA pool.tokenB pool.supply direction
      Engine.withdrawalRounding timestamp).value = some m) :
    pool.supply * (source * direction.unitWorth p r) + m * (pool.tokenB * p % r)
        ≤ m * pool.worth p r + pool.supply * (source * direction.unitWorth p r % r) ∧
      (direction = .aToB ∨ r ∣ source * p →
        pool.supply * (source * direction.unitWorth p r) ≤ m * pool.worth p r) := by
  rw [value_withdraw_of_priceAt hprice] at h
  have hcharge := Price.worth_mul_le_of_poolTokens h
  refine ⟨hcharge, ?_⟩
  intro hwhole
  have hfraction : source * direction.unitWorth p r % r = 0 := by
    rcases hwhole with rfl | hdvd
    · exact Nat.mul_mod_left _ _
    · cases direction with
      | aToB => exact Nat.mul_mod_left _ _
      | bToA => exact Nat.mod_eq_zero_of_dvd hdvd
  rw [hfraction, Nat.mul_zero, Nat.add_zero] at hcharge
  exact (Nat.le_add_right _ _).trans hcharge

/-- Half of token A for one token B. -/
def half : ConstantPrice := ⟨⟨Ray.one / 2, by decide⟩⟩

/-- A single token B at that price is worth no whole token A, and it is paid for
no pool tokens at all. -/
theorem withdrawal_may_be_free :
    let pool : Pool := ⟨10, 10, 10⟩
    let p := Ray.one / 2
    ((constantPrice half).priceAt none).value = some ⟨p, Ray.one⟩ ∧ 1 ≤ pool.tokenB ∧
    ((⟨constantPrice half, .standard⟩ : Engine).withdraw 1 pool.tokenA pool.tokenB pool.supply
      .bToA Engine.withdrawalRounding none).value = some 0 ∧
    ¬ pool.supply * (1 * Direction.bToA.unitWorth p Ray.one) ≤ 0 * pool.worth p Ray.one := by
  decide +kernel

/-- Three tokens B at that price are charged as one whole token A, two as what they
are worth. -/
theorem withdrawal_charge_half :
    let pool : Pool := ⟨10, 10, 10⟩
    let p := Ray.one / 2
    ((constantPrice half).withdraw (3 : Nat) pool.tokenA pool.tokenB pool.supply .bToA
      Engine.withdrawalRounding none).value = some 1 ∧
    pool.supply * (3 * Direction.bToA.unitWorth p Ray.one) + 1 * (pool.tokenB * p % Ray.one)
      ≤ 1 * pool.worth p Ray.one
        + pool.supply * (3 * Direction.bToA.unitWorth p Ray.one % Ray.one) ∧
    ((constantPrice half).withdraw (2 : Nat) pool.tokenA pool.tokenB pool.supply .bToA
      Engine.withdrawalRounding none).value = some 1 ∧
    pool.supply * (2 * Direction.bToA.unitWorth p Ray.one) ≤ 1 * pool.worth p Ray.one := by
  intro pool p
  have hprice : ((constantPrice half).priceAt none).value = some ⟨p, Ray.one⟩ := by
    decide +kernel
  have hthree : ((constantPrice half).withdraw (3 : Nat) pool.tokenA pool.tokenB pool.supply
      .bToA Engine.withdrawalRounding none).value = some 1 := by decide +kernel
  have htwo : ((constantPrice half).withdraw (2 : Nat) pool.tokenA pool.tokenB pool.supply
      .bToA Engine.withdrawalRounding none).value = some 1 := by decide +kernel
  have hwhole : Ray.one ∣ 2 * p := by decide +kernel
  obtain ⟨hcharge, -⟩ := withdrawal_charge hprice hthree
  obtain ⟨-, hexact⟩ := withdrawal_charge hprice htwo
  exact ⟨hthree, hcharge, htwo, hexact (.inr hwhole)⟩

end Curve

end PegPool
