import PegPool.Proofs.Curve
import PegPool.Proofs.Index

/-!
# A flat rate

A factor of one does not compound, so the index stays what it was at the checkpoint.
Counted in rays of the usual size, such an index is a fixed price, and both kinds of
curve answer the same.
-/

namespace PegPool

/-! ## Answers without events -/

namespace Logged

variable {α β : Type} {formula : Formula} {result : Except WideError (Option α)} {x : α}

/-- A formula that has an answer reports nothing. -/
theorem ofFormula_eq_pure (h : (ofFormula formula result).value = some x) :
    ofFormula formula result = pure (some x) := by
  rw [value_ofFormula_eq_some_iff.1 h]
  rfl

@[simp] theorem pure_some_andThen (x : α) (next : α → Logged (Option β)) :
    (pure (some x) : Logged (Option α)).andThen next = next x := rfl

end Logged

theorem Ray.power_eq_pure {ray base n v : Nat} (h : (power ray base n).value = some v) :
    power ray base n = pure (some v) := by
  unfold power at h ⊢
  split
  · rename_i hle
    rw [dif_pos hle] at h
    exact Logged.ofFormula_eq_pure h
  · rename_i hle
    rw [dif_neg hle] at h
    cases h

/-! ## An index that stands still -/

namespace RedemptionRate

variable {curve : RedemptionRate} {t : Int}

theorem indexAfter_eq_pure {factor : Narrow} {seconds v : Nat}
    (h : (curve.indexAfter factor.toNat seconds).value = some v) :
    curve.indexAfter factor.toNat seconds = pure (some v) := by
  obtain ⟨hray, growth, hgrowth, hwide, rfl⟩ := value_indexAfter_eq_some_iff.1 h
  rw [indexAfter, if_neg hray, Ray.power_eq_pure hgrowth, Logged.pure_some_andThen]
  apply Logged.ofFormula_eq_pure
  exact (Ray.value_scaleIndex_eq_some_iff (Ray.power_le_wideMax hgrowth)
    curve.chi.toNat_le_wideMax curve.ray.toNat_le_wideMax).2 ⟨hwide, hray, rfl⟩

/-- No seconds at a factor of one change the index. -/
theorem value_indexAfter_ray (hray : 0 < curve.ray.toNat) (seconds : Nat) :
    (curve.indexAfter curve.ray.toNat seconds).value = some curve.chi.toNat := by
  have hgrowth : (Ray.power curve.ray.toNat curve.ray.toNat seconds).value
      = some curve.ray.toNat :=
    Ray.value_power_ray hray (Ray.square_add_half_le_wideMax curve.ray.toNat_le) seconds
  have hproduct : curve.ray.toNat * curve.chi.toNat ≤ wideMax :=
    mul_le_wideMax curve.ray.toNat_le curve.chi.toNat_le
  exact value_indexAfter_eq_some_iff.2 ⟨Nat.ne_of_gt hray, _, hgrowth, hproduct,
    (Nat.mul_div_cancel_left _ hray).symm⟩

/-- From the checkpoint on, a factor of one leaves the index as it is. -/
theorem conversionRate_of_ssr_eq_ray (hray : 0 < curve.ray.toNat) (hssr : curve.ssr = curve.ray)
    (ht : (curve.rho.toNat : Int) ≤ t) :
    curve.conversionRate t = pure (some curve.chi.toNat) := by
  unfold conversionRate
  split
  · rfl
  · rw [if_neg (by omega), hssr]
    exact indexAfter_eq_pure (value_indexAfter_ray hray _)

/-- A record of the usual ray whose factor is one. -/
def flat (maxSsr rho chi : Narrow) : RedemptionRate where
  ray := .oneRay
  maxSsr := maxSsr
  ssr := .oneRay
  rho := rho
  chi := chi

end RedemptionRate

namespace Curve

open RedemptionRate

/-- An index that stands still is looked up as a fixed price is, at any time. -/
theorem priceAt_flat {maxSsr rho chi : Narrow} {t : Int} (ht : (rho.toNat : Int) ≤ t)
    (timestamp : Option Int) : (redemptionRate (flat maxSsr rho chi)).priceAt (some t)
      = (constantPrice ⟨chi⟩).priceAt timestamp := by
  have hray : 0 < (flat maxSsr rho chi).ray.toNat := Nat.pow_pos (by decide)
  have hrate : (flat maxSsr rho chi).conversionRate t = pure (some chi.toNat) :=
    conversionRate_of_ssr_eq_ray hray rfl ht
  simp only [priceAt, conversionRate?, hrate]
  rfl

/-- A curve whose factor is one answers as a curve with a fixed price, down to
the events that it reports. In any unit, its index never moves. -/
theorem flat_rate_is_constant_price :
    (∀ (maxSsr rho chi : Narrow) (t : Int) (timestamp : Option Int), (rho.toNat : Int) ≤ t →
      let index := redemptionRate (flat maxSsr rho chi)
      let fixed := constantPrice ⟨chi⟩
      (∀ source direction,
        index.swap source direction (some t) = fixed.swap source direction timestamp) ∧
      (∀ source a b supply direction,
        index.deposit source a b supply direction (some t)
          = fixed.deposit source a b supply direction timestamp) ∧
      (∀ source a b supply direction rounding,
        index.withdraw source a b supply direction rounding (some t)
          = fixed.withdraw source a b supply direction rounding timestamp) ∧
      ∀ a b, index.normalizedValue a b (some t) = fixed.normalizedValue a b timestamp) ∧
    ∀ (curve : RedemptionRate) (t : Int), 1 ≤ curve.ray.toNat → curve.ssr = curve.ray →
      (curve.rho.toNat : Int) ≤ t → curve.conversionRate t = pure (some curve.chi.toNat) := by
  refine ⟨?_, fun curve t hray hssr ht => conversionRate_of_ssr_eq_ray hray hssr ht⟩
  intro maxSsr rho chi t timestamp ht index fixed
  have hprice : index.priceAt (some t) = fixed.priceAt timestamp := priceAt_flat ht timestamp
  refine ⟨?_, ?_, ?_, ?_⟩
  · intro source direction
    rw [swap, swap, hprice]
  · intro source a b supply direction
    rw [deposit, deposit, hprice]
  · intro source a b supply direction rounding
    rw [withdraw, withdraw, hprice]
  · intro a b
    rw [normalizedValue, normalizedValue, hprice]

/-- Thirty years after the checkpoint, ten tokens A still buy six tokens B at one
and a half, and nine of them are taken. -/
theorem flat_rate_is_constant_price_oneAndAHalf :
    let chi : Narrow := ⟨3 * Ray.one / 2, by decide⟩
    let rho : Narrow := ⟨1000, by decide⟩
    let t : Int := 946708560
    let index := redemptionRate (flat .zero rho chi)
    (rho.toNat : Int) ≤ t ∧
      index.swap 10 .aToB (some t) = (constantPrice ⟨chi⟩).swap 10 .aToB none ∧
      (index.swap 10 .aToB (some t)).value = some ⟨9, 6⟩ ∧
      1 ≤ (flat .zero rho chi).ray.toNat ∧
      (flat .zero rho chi).conversionRate t = pure (some chi.toNat) := by
  intro chi rho t index
  have ht : (rho.toNat : Int) ≤ t := by decide
  have hray : 1 ≤ (flat .zero rho chi).ray.toNat := by decide
  obtain ⟨hanswers, hrate⟩ := flat_rate_is_constant_price
  obtain ⟨hswap, -, -, -⟩ := hanswers .zero rho chi t none ht
  have hsame := hswap 10 .aToB
  refine ⟨ht, hsame, ?_, hray, hrate _ t hray rfl ht⟩
  rw [hsame]
  decide +kernel

end Curve

end PegPool
