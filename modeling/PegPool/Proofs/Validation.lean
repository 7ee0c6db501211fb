import PegPool.Proofs.Engine
import PegPool.Proofs.ValueShare

/-!
# Validated curves

Validation looks at the fields of a record, and a question runs into them deep
inside a formula. Both come to the same: a curve is valid at a time exactly when
it has a price then, and neither the price nor its unit is zero. A swap divides by
the one and needs the other to pay anything, and a share of the value divides by
both, so where validation fails there is neither.
-/

namespace PegPool

/-! ## Prices that answer -/

namespace Price

variable {p r : Nat}

/-- A swap has an answer only at a price that is not zero, in a unit that is not. -/
theorem ne_zero_of_swap {source : Int} {direction : Direction} {amounts : SwapAmounts}
    (h : ((⟨p, r⟩ : Price).swap source direction).value = some amounts) : p ≠ 0 ∧ r ≠ 0 := by
  obtain ⟨s, rfl⟩ := Int.eq_ofNat_of_zero_le (source_nonneg_of_swap h)
  cases direction with
  | aToB =>
    obtain ⟨⟨-, -, -, hp, hr⟩, -⟩ := value_swap_aToB_eq_some_iff.1 h
    exact ⟨hp, hr⟩
  | bToA =>
    obtain ⟨⟨-, -, -, hr⟩, -, -, hpaid⟩ := value_swap_bToA_eq_some_iff.1 h
    refine ⟨?_, hr⟩
    -- nothing is paid at a price of zero
    rintro rfl
    simp [Movable] at hpaid

/-- What is shared out of a value is not negative. -/
theorem operands_nonneg_of_valueShare {price : Price} {t s a b : Int} {rounding : Rounding}
    {amounts : TokenAmounts} (h : (price.valueShare t s a b rounding).value = some amounts) :
    0 ≤ t ∧ 0 ≤ s ∧ 0 ≤ a ∧ 0 ≤ b := by
  unfold valueShare valueShareWide at h
  simp only [Logged.value_andThen, Option.bind_eq_some_iff, Logged.value_ofFormula_eq_some_iff,
    map_eq_ok_iff, bind_eq_ok_iff, Wide.ofInt_eq_ok_iff] at h
  obtain ⟨_, hv, _, ⟨t', ht, -, -, -, -, s', hs, -⟩, -⟩ := h
  obtain ⟨ha, hb⟩ := reserves_nonneg_of_normalizedValue hv
  exact ⟨by omega, by omega, ha, hb⟩

/-- A share of the value has an answer only at such a price as well. -/
theorem ne_zero_of_valueShare {t s a b : Int} {rounding : Rounding} {amounts : TokenAmounts}
    (h : ((⟨p, r⟩ : Price).valueShare t s a b rounding).value = some amounts) :
    p ≠ 0 ∧ r ≠ 0 := by
  obtain ⟨ht, hs, ha, hb⟩ := operands_nonneg_of_valueShare h
  lift t to Nat using ht
  lift s to Nat using hs
  lift a to Nat using ha
  lift b to Nat using hb
  cases rounding with
  | floor =>
    obtain ⟨v, hv, ⟨-, -, -, -, hp⟩, -⟩ := value_valueShare_floor_eq_some_iff.1 h
    exact ⟨hp, Nat.ne_of_gt (scale_of_normalizedValue hv).2.1⟩
  | ceiling =>
    obtain ⟨v, hv, ⟨-, -, -, -, hp⟩, -⟩ := value_valueShare_ceiling_eq_some_iff.1 h
    exact ⟨hp, Nat.ne_of_gt (scale_of_normalizedValue hv).2.1⟩

end Price

/-! ## What validation asks for -/

theorem ConstantPrice.validate_eq_ok_iff {curve : ConstantPrice} :
    curve.validate = .ok () ↔ curve.tokenBPrice.toNat ≠ 0 := by
  unfold validate
  split <;> simp [*]

theorem RedemptionRate.value_validate_eq_ok_iff {curve : RedemptionRate}
    {timestamp : Option Int} : (curve.validate timestamp).value = .ok () ↔
      ∃ rate, (curve.conversionRate? timestamp).value = some rate ∧
        rate ≠ 0 ∧ curve.ray.toNat ≠ 0 := by
  cases timestamp with
  | none => simp [validate, conversionRate?]
  | some t =>
    simp only [validate, conversionRate?]
    by_cases hray : curve.ray.toNat = 0
    · simp [hray]
    · simp only [hray, if_false, Logged.value_bind]
      rcases (curve.conversionRate t).value with _ | _ | rate <;> simp [hray]

namespace Curve

/-- A curve is valid at a time exactly when it has a price then, and neither the
price nor its unit is zero. -/
theorem value_validate_eq_ok_iff {curve : Curve} {timestamp : Option Int} :
    (curve.validate timestamp).value = .ok () ↔
      ∃ p r : Nat, (curve.priceAt timestamp).value = some ⟨p, r⟩ ∧ p ≠ 0 ∧ r ≠ 0 := by
  cases curve with
  | constantPrice record =>
    have hone : Ray.one ≠ 0 := by decide
    simp only [validate, priceAt, Logged.value_pure, Option.some.injEq, Price.mk.injEq,
      ConstantPrice.validate_eq_ok_iff]
    constructor
    · exact fun h => ⟨_, _, ⟨rfl, rfl⟩, h, hone⟩
    · rintro ⟨p, r, ⟨hp, -⟩, hne, -⟩
      rwa [Int.ofNat_inj.1 hp]
  | redemptionRate record =>
    simp only [validate, value_priceAt_conversionRate?, RedemptionRate.value_validate_eq_ok_iff,
      Option.map_eq_some_iff, Price.mk.injEq]
    constructor
    · rintro ⟨rate, hrate, hne, hray⟩
      exact ⟨_, _, ⟨rate, hrate, rfl, rfl⟩, hne, hray⟩
    · rintro ⟨p, r, ⟨rate, hrate, hp, hr⟩, hne, hray⟩
      rw [Int.ofNat_inj] at hp hr
      exact ⟨rate, hrate, hp ▸ hne, hr ▸ hray⟩

end Curve

namespace Engine

/-- An engine that is not valid at a time makes no swap then, and under an index it
shares nothing out either. -/
theorem validate_of_answer (engine : Engine) (timestamp : Option Int) :
    (∀ source direction amounts,
      (engine.swap source direction timestamp).value = some amounts →
        (engine.validate timestamp).value = .ok ()) ∧
    ∀ record, engine.curve = .redemptionRate record →
      ∀ poolTokens supply reserveA reserveB rounding amounts,
        (engine.share poolTokens supply reserveA reserveB rounding timestamp).value
          = some amounts → (engine.validate timestamp).value = .ok () := by
  constructor
  · intro source direction amounts h
    obtain ⟨hreach, h⟩ := value_ask_eq_some_iff.1 h
    obtain ⟨price, hprice, h⟩ := Logged.value_andThen_eq_some_iff.1 h
    obtain ⟨p, r, rfl⟩ := Curve.exists_natCast_of_priceAt hprice
    rw [validate_of_inReach hreach, Curve.value_validate_eq_ok_iff]
    exact ⟨p, r, hprice, Price.ne_zero_of_swap h⟩
  · intro record hcurve poolTokens supply reserveA reserveB rounding amounts h
    obtain ⟨hreach, h⟩ := value_ask_eq_some_iff.1 h
    rw [validate_of_inReach hreach, Curve.value_validate_eq_ok_iff]
    rw [hcurve] at h ⊢
    obtain ⟨price, hprice, h⟩ := Logged.value_andThen_eq_some_iff.1 h
    obtain ⟨p, r, rfl⟩ := Curve.exists_natCast_of_priceAt hprice
    exact ⟨p, r, hprice, Price.ne_zero_of_valueShare h⟩

/-- A new index under a bound of one minute swaps at the second 60 and shares out at
the second 30, so it is valid at both. -/
theorem validate_of_answer_initial :
    let engine : Engine := ⟨.redemptionRate .initial, ⟨some 60, true⟩⟩
    (engine.swap 10 .aToB (some 60)).value = some ⟨10, 10⟩ ∧
    (engine.validate (some 60)).value = .ok () ∧
    (engine.share 2 10 20 30 .floor (some 30)).value = some ⟨5, 5⟩ ∧
    (engine.validate (some 30)).value = .ok () := by
  intro engine
  have hswap : (engine.swap 10 .aToB (some 60)).value = some ⟨10, 10⟩ := by decide +kernel
  have hshare : (engine.share 2 10 20 30 .floor (some 30)).value = some ⟨5, 5⟩ := by
    decide +kernel
  obtain ⟨hswaps, -⟩ := validate_of_answer engine (some 60)
  obtain ⟨-, hshares⟩ := validate_of_answer engine (some 30)
  exact ⟨hswap, hswaps _ _ _ hswap, hshare, hshares _ rfl _ _ _ _ _ _ hshare⟩

-- at its checkpoint an index has a value in a unit of zero as well
example :
    let record : RedemptionRate := { RedemptionRate.initial with ray := .zero }
    let engine : Engine := ⟨.redemptionRate record, .standard⟩
    (record.conversionRate 0).value = some Ray.one ∧
    (engine.validate (some 0)).value = .error .zeroRay ∧
    (engine.swap 10 .aToB (some 0)).value = none ∧
    (engine.swap 10 .bToA (some 0)).value = none := by
  decide +kernel

end Engine

end PegPool
