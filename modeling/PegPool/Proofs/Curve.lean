import PegPool.Curve
import PegPool.Proofs.Price

/-!
# Curves at their price

A curve looks up the price of token B and passes the question on. So once the
price at a time is known, the curve answers what the price answers.
-/

namespace PegPool.Curve

section PriceAt

variable {curve : Curve} {timestamp : Option Int} {price : Price}
  (hprice : (curve.priceAt timestamp).value = some price)

include hprice

theorem value_swap_of_priceAt (source : Int) (direction : Direction) :
    (curve.swap source direction timestamp).value = (price.swap source direction).value := by
  rw [swap, Logged.value_andThen, hprice, Option.bind_some]

theorem value_deposit_of_priceAt (source a b supply : Int) (direction : Direction) :
    (curve.deposit source a b supply direction timestamp).value
      = (price.poolTokens source a b supply direction .floor).value := by
  rw [deposit, Logged.value_andThen, hprice, Option.bind_some]

theorem value_withdraw_of_priceAt (source a b supply : Int) (direction : Direction)
    (rounding : Rounding) :
    (curve.withdraw source a b supply direction rounding timestamp).value
      = (price.poolTokens source a b supply direction rounding).value := by
  rw [withdraw, Logged.value_andThen, hprice, Option.bind_some]

theorem value_normalizedValue_of_priceAt (a b : Int) :
    (curve.normalizedValue a b timestamp).value = (price.normalizedValue a b).value := by
  rw [normalizedValue, Logged.value_andThen, hprice, Option.bind_some]

end PriceAt

/-- The price under an index is the index, in the record's own unit. -/
theorem value_priceAt_conversionRate? (record : RedemptionRate) (timestamp : Option Int) :
    ((redemptionRate record).priceAt timestamp).value
      = (record.conversionRate? timestamp).value.map fun rate => ⟨rate, record.ray.toNat⟩ := by
  simp only [priceAt, Logged.value_bind, Logged.value_pure]
  cases (record.conversionRate? timestamp).value <;> rfl

theorem value_priceAt_redemptionRate (record : RedemptionRate) (t : Int) :
    ((redemptionRate record).priceAt (some t)).value
      = (record.conversionRate t).value.map fun rate => ⟨rate, record.ray.toNat⟩ :=
  value_priceAt_conversionRate? record (some t)

/-- Prices and their units are natural numbers. -/
theorem exists_natCast_of_priceAt {curve : Curve} {timestamp : Option Int} {price : Price}
    (h : (curve.priceAt timestamp).value = some price) : ∃ p r : Nat, price = ⟨p, r⟩ := by
  cases curve with
  | constantPrice record =>
    cases h
    exact ⟨_, _, rfl⟩
  | redemptionRate record =>
    rw [value_priceAt_conversionRate?, Option.map_eq_some_iff] at h
    obtain ⟨rate, -, rfl⟩ := h
    exact ⟨_, _, rfl⟩

theorem value_priceAt_of_conversionRate {record : RedemptionRate} {t : Int} {p : Nat}
    (hrate : (record.conversionRate t).value = some p) :
    ((redemptionRate record).priceAt (some t)).value = some ⟨p, record.ray.toNat⟩ := by
  rw [value_priceAt_redemptionRate, hrate, Option.map_some]

/-- Under an index it is the pool's value that is shared out. -/
theorem value_share_of_conversionRate {record : RedemptionRate} {t : Int} {p : Nat}
    (hrate : (record.conversionRate t).value = some p) (poolTokens supply a b : Int)
    (rounding : Rounding) :
    ((redemptionRate record).share poolTokens supply a b rounding (some t)).value
      = ((⟨p, record.ray.toNat⟩ : Price).valueShare poolTokens supply a b rounding).value := by
  rw [share, Logged.value_andThen, value_priceAt_of_conversionRate hrate, Option.bind_some]

end PegPool.Curve
