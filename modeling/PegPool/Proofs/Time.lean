import PegPool.Proofs.Curve
import PegPool.Proofs.Index

/-!
# Prices over time

With a factor of at least one the index never falls, so token B never gets
cheaper as time goes by. What a pool answers follows the price: its value does
not fall, selling B pays no less, and buying B pays no more.
-/

namespace PegPool

/-! ## A higher price -/

namespace Price

variable {p p' r : Nat} (hp : p ≤ p')

include hp

theorem normalizedValue_le_of_price_le {a b : Int} {v v' : Nat}
    (hv : ((⟨p, r⟩ : Price).normalizedValue a b).value = some v)
    (hv' : ((⟨p', r⟩ : Price).normalizedValue a b).value = some v') : v ≤ v' := by
  obtain ⟨ha, hb⟩ := reserves_nonneg_of_normalizedValue hv
  lift a to Nat using ha
  lift b to Nat using hb
  obtain ⟨-, rfl, -⟩ := value_normalizedValue_eq_some_iff.1 hv
  obtain ⟨-, rfl, -⟩ := value_normalizedValue_eq_some_iff.1 hv'
  have hworthB : b * p / r ≤ b * p' / r := Nat.div_le_div_right (Nat.mul_le_mul_left b hp)
  exact Nat.div_le_div_right (Nat.add_le_add_left hworthB a)

theorem paid_le_of_price_le {source : Int} {m m' : SwapAmounts}
    (hm : ((⟨p, r⟩ : Price).swap source .bToA).value = some m)
    (hm' : ((⟨p', r⟩ : Price).swap source .bToA).value = some m') : m.paid ≤ m'.paid := by
  lift source to Nat using source_nonneg_of_swap hm
  obtain ⟨-, rfl, -⟩ := value_swap_bToA_eq_some_iff.1 hm
  obtain ⟨-, rfl, -⟩ := value_swap_bToA_eq_some_iff.1 hm'
  exact Nat.div_le_div_right (Nat.mul_le_mul_left source hp)

theorem le_paid_of_price_le {source : Int} {m m' : SwapAmounts}
    (hm : ((⟨p, r⟩ : Price).swap source .aToB).value = some m)
    (hm' : ((⟨p', r⟩ : Price).swap source .aToB).value = some m') : m'.paid ≤ m.paid := by
  lift source to Nat using source_nonneg_of_swap hm
  obtain ⟨⟨-, -, -, hne, -⟩, rfl, -⟩ := value_swap_aToB_eq_some_iff.1 hm
  obtain ⟨-, rfl, -⟩ := value_swap_aToB_eq_some_iff.1 hm'
  exact Nat.div_le_div_left hp (Nat.pos_of_ne_zero hne)

end Price

/-! ## The price at a time -/

namespace Curve

/-- A swap under an index is a swap at its price. -/
theorem value_swap_redemptionRate_eq_some_iff {record : RedemptionRate} {source t : Int}
    {direction : Direction} {amounts : SwapAmounts} :
    ((redemptionRate record).swap source direction (some t)).value = some amounts ↔
      ∃ p, (record.conversionRate t).value = some p ∧
        ((⟨p, record.ray.toNat⟩ : Price).swap source direction).value = some amounts := by
  rw [swap, Logged.value_andThen, value_priceAt_redemptionRate, Option.bind_map,
    Option.bind_eq_some_iff]
  rfl

/-- A pool under an index is valued at its price. -/
theorem value_normalizedValue_redemptionRate_eq_some_iff {record : RedemptionRate}
    {a b t : Int} {v : Nat} :
    ((redemptionRate record).normalizedValue a b (some t)).value = some v ↔
      ∃ p, (record.conversionRate t).value = some p ∧
        ((⟨p, record.ray.toNat⟩ : Price).normalizedValue a b).value = some v := by
  rw [normalizedValue, Logged.value_andThen, value_priceAt_redemptionRate, Option.bind_map,
    Option.bind_eq_some_iff]
  rfl

end Curve

namespace RedemptionRate

section Growth

variable {curve : RedemptionRate} (hray : 1 ≤ curve.ray.toNat)
  (hssr : curve.ray.toNat ≤ curve.ssr.toNat) {t₁ t₂ : Int}
  (hrho : (curve.rho.toNat : Int) ≤ t₁) (ht : t₁ ≤ t₂)

include hray hssr hrho ht

/-- A later index is no smaller, and an earlier one exists with it. -/
theorem conversionRate_le_conversionRate {w : Nat}
    (hw : (curve.conversionRate t₂).value = some w) :
    ∃ v, (curve.conversionRate t₁).value = some v ∧ curve.chi.toNat ≤ v ∧ v ≤ w := by
  rw [conversionRate_eq_indexAfter hray (hrho.trans ht)] at hw
  rw [conversionRate_eq_indexAfter hray hrho]
  have hseconds : (t₁ - curve.rho.toNat).toNat ≤ (t₂ - curve.rho.toNat).toNat := by omega
  obtain ⟨v, hv, hvw⟩ := indexAfter_le_indexAfter hray hssr hseconds hw
  exact ⟨v, hv, chi_le_indexAfter hray hssr hv, hvw⟩

/-- Of two indexes the later one is no lower. -/
theorem le_of_conversionRate {p₁ p₂ : Nat} (h₁ : (curve.conversionRate t₁).value = some p₁)
    (h₂ : (curve.conversionRate t₂).value = some p₂) : p₁ ≤ p₂ := by
  obtain ⟨p, hp, -, hle⟩ := conversionRate_le_conversionRate hray hssr hrho ht h₂
  rw [h₁, Option.some.injEq] at hp
  exact hp ▸ hle

end Growth

/-- Time never lowers the price of token B, and every answer follows the price. -/
theorem time_never_lowers_price {curve : RedemptionRate} (hray : 1 ≤ curve.ray.toNat)
    (hssr : curve.ray.toNat ≤ curve.ssr.toNat) {t₁ t₂ : Int}
    (hrho : (curve.rho.toNat : Int) ≤ t₁) (ht : t₁ ≤ t₂) :
    (∀ v₂, (curve.conversionRate t₂).value = some v₂ →
      ∃ v₁, (curve.conversionRate t₁).value = some v₁ ∧ curve.chi.toNat ≤ v₁ ∧ v₁ ≤ v₂) ∧
    (∀ (a b : Int) (w₁ w₂ : Nat),
      ((Curve.redemptionRate curve).normalizedValue a b (some t₁)).value = some w₁ →
      ((Curve.redemptionRate curve).normalizedValue a b (some t₂)).value = some w₂ →
      w₁ ≤ w₂) ∧
    (∀ (source : Int) (m₁ m₂ : SwapAmounts),
      ((Curve.redemptionRate curve).swap source .bToA (some t₁)).value = some m₁ →
      ((Curve.redemptionRate curve).swap source .bToA (some t₂)).value = some m₂ →
      m₁.paid ≤ m₂.paid) ∧
    ∀ (source : Int) (m₁ m₂ : SwapAmounts),
      ((Curve.redemptionRate curve).swap source .aToB (some t₁)).value = some m₁ →
      ((Curve.redemptionRate curve).swap source .aToB (some t₂)).value = some m₂ →
      m₂.paid ≤ m₁.paid := by
  refine ⟨fun v₂ hv₂ => conversionRate_le_conversionRate hray hssr hrho ht hv₂, ?_, ?_, ?_⟩
  · intro a b w₁ w₂ hw₁ hw₂
    obtain ⟨p₁, hp₁, hw₁⟩ := Curve.value_normalizedValue_redemptionRate_eq_some_iff.1 hw₁
    obtain ⟨p₂, hp₂, hw₂⟩ := Curve.value_normalizedValue_redemptionRate_eq_some_iff.1 hw₂
    have hp := le_of_conversionRate hray hssr hrho ht hp₁ hp₂
    exact Price.normalizedValue_le_of_price_le hp hw₁ hw₂
  · intro source m₁ m₂ hm₁ hm₂
    obtain ⟨p₁, hp₁, hm₁⟩ := Curve.value_swap_redemptionRate_eq_some_iff.1 hm₁
    obtain ⟨p₂, hp₂, hm₂⟩ := Curve.value_swap_redemptionRate_eq_some_iff.1 hm₂
    have hp := le_of_conversionRate hray hssr hrho ht hp₁ hp₂
    exact Price.paid_le_of_price_le hp hm₁ hm₂
  · intro source m₁ m₂ hm₁ hm₂
    obtain ⟨p₁, hp₁, hm₁⟩ := Curve.value_swap_redemptionRate_eq_some_iff.1 hm₁
    obtain ⟨p₂, hp₂, hm₂⟩ := Curve.value_swap_redemptionRate_eq_some_iff.1 hm₂
    have hp := le_of_conversionRate hray hssr hrho ht hp₁ hp₂
    exact Price.le_paid_of_price_le hp hm₁ hm₂

/-- A record whose index doubles each second since the tenth. -/
def doublingSince10 : RedemptionRate :=
  { initial with ssr := ⟨2 * Ray.one, by decide⟩, rho := ⟨10, by decide⟩ }

/-- The index doubles from the second 12 to the second 13, so B is worth twice
as much and an offer of A buys half of it. -/
theorem time_never_lowers_price_doubling :
    let curve := Curve.redemptionRate doublingSince10
    (∃ v₁ v₂, (doublingSince10.conversionRate 12).value = some v₁ ∧
      (doublingSince10.conversionRate 13).value = some v₂ ∧ v₁ ≤ v₂) ∧
    (∃ w₁ w₂, (curve.normalizedValue 1 2 (some 12)).value = some w₁ ∧
      (curve.normalizedValue 1 2 (some 13)).value = some w₂ ∧ w₁ ≤ w₂) ∧
    (∃ m₁ m₂, (curve.swap 3 .bToA (some 12)).value = some m₁ ∧
      (curve.swap 3 .bToA (some 13)).value = some m₂ ∧ m₁.paid ≤ m₂.paid) ∧
    ∃ m₁ m₂, (curve.swap 17 .aToB (some 12)).value = some m₁ ∧
      (curve.swap 17 .aToB (some 13)).value = some m₂ ∧ m₂.paid ≤ m₁.paid := by
  intro curve
  have hray : 1 ≤ doublingSince10.ray.toNat := by decide
  have hssr : doublingSince10.ray.toNat ≤ doublingSince10.ssr.toNat := by decide
  have hrho : (doublingSince10.rho.toNat : Int) ≤ 12 := by decide
  have ht : (12 : Int) ≤ 13 := by decide
  obtain ⟨hrate, hvalue, hsell, hbuy⟩ := time_never_lowers_price hray hssr hrho ht
  have hrate₂ : (doublingSince10.conversionRate 13).value = some (8 * Ray.one) := by
    decide +kernel
  obtain ⟨v₁, hv₁, -, hle⟩ := hrate _ hrate₂
  have hw₁ : (curve.normalizedValue 1 2 (some 12)).value = some 4 := by decide +kernel
  have hw₂ : (curve.normalizedValue 1 2 (some 13)).value = some 8 := by decide +kernel
  have hsell₁ : (curve.swap 3 .bToA (some 12)).value = some ⟨3, 12⟩ := by decide +kernel
  have hsell₂ : (curve.swap 3 .bToA (some 13)).value = some ⟨3, 24⟩ := by decide +kernel
  have hbuy₁ : (curve.swap 17 .aToB (some 12)).value = some ⟨16, 4⟩ := by decide +kernel
  have hbuy₂ : (curve.swap 17 .aToB (some 13)).value = some ⟨16, 2⟩ := by decide +kernel
  exact ⟨⟨v₁, _, hv₁, hrate₂, hle⟩, ⟨_, _, hw₁, hw₂, hvalue _ _ _ _ hw₁ hw₂⟩,
    ⟨_, _, hsell₁, hsell₂, hsell _ _ _ hsell₁ hsell₂⟩,
    ⟨_, _, hbuy₁, hbuy₂, hbuy _ _ _ hbuy₁ hbuy₂⟩⟩

end RedemptionRate

end PegPool
