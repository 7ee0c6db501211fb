import PegPool.Proofs.History

/-!
# The drift of a checkpoint

An honest checkpoint changes neither the factor nor the index of its time, so a
later index should not notice it. It does by rounding: the span is compounded
in two parts instead of one, and the index is rounded down once more on the
way. The two parts are off by a factor `1 + 1 / (2 * ray)` or
`1 - 1 / (2 * ray)` each second, and the lost fraction of the index is less
than one unit, which then grows with the second part.
-/

namespace PegPool.RedemptionRate

variable {curve new : RedemptionRate}

/-- The index at a time is a growth times the last index, rounded down. -/
theorem exists_growth_of_conversionRate (hray : 0 < curve.ray.toNat) {t : Int}
    (ht : (curve.rho.toNat : Int) ≤ t) {v : Nat} (hv : (curve.conversionRate t).value = some v) :
    ∃ growth, (Ray.power curve.ray.toNat curve.ssr.toNat
        (t - curve.rho.toNat).toNat).value = some growth ∧
      v * curve.ray.toNat ≤ growth * curve.chi.toNat ∧
      growth * curve.chi.toNat ≤ (v + 1) * curve.ray.toNat := by
  rw [conversionRate_eq_indexAfter hray ht] at hv
  obtain ⟨-, growth, hgrowth, -, rfl⟩ := value_indexAfter_eq_some_iff.1 hv
  refine ⟨growth, hgrowth, Nat.div_mul_le_self _ _, ?_⟩
  rw [Nat.succ_mul]
  exact (Nat.lt_div_mul_add hray).le

/-! ## Two roundings instead of one -/

section Split

variable {ray chi first last whole mid twoStep direct slow fast : Nat} (hray : 0 < ray)

include hray

/-- A checkpoint rounds down, so what it adds is the error of the powers. -/
theorem twoStep_mul_le (hmid : mid * ray ≤ first * chi) (htwo : twoStep * ray ≤ last * mid)
    (hdirect : whole * chi ≤ (direct + 1) * ray)
    (hpower : first * last * slow ≤ whole * ray * fast) :
    twoStep * slow ≤ (direct + 1) * fast := by
  apply Nat.le_of_mul_le_mul_right _ (Nat.mul_pos hray hray)
  calc twoStep * slow * (ray * ray)
      = twoStep * ray * (ray * slow) := by ring
    _ ≤ last * mid * (ray * slow) := Nat.mul_le_mul_right _ htwo
    _ = mid * ray * (last * slow) := by ring
    _ ≤ first * chi * (last * slow) := Nat.mul_le_mul_right _ hmid
    _ = first * last * slow * chi := by ring
    _ ≤ whole * ray * fast * chi := Nat.mul_le_mul_right _ hpower
    _ = whole * chi * (ray * fast) := by ring
    _ ≤ (direct + 1) * ray * (ray * fast) := Nat.mul_le_mul_right _ hdirect
    _ = (direct + 1) * fast * (ray * ray) := by ring

/-- The unit that a checkpoint may lose grows with the second part. -/
theorem direct_mul_le (hmid : first * chi ≤ (mid + 1) * ray)
    (htwo : last * mid ≤ (twoStep + 1) * ray) (hdirect : direct * ray ≤ whole * chi)
    (hpower : whole * ray * slow ≤ first * last * fast) :
    direct * ray * slow ≤ ((twoStep + 1) * ray + last) * fast := by
  apply Nat.le_of_mul_le_mul_right _ hray
  calc direct * ray * slow * ray
      = direct * ray * (ray * slow) := by ring
    _ ≤ whole * chi * (ray * slow) := Nat.mul_le_mul_right _ hdirect
    _ = whole * ray * slow * chi := by ring
    _ ≤ first * last * fast * chi := Nat.mul_le_mul_right _ hpower
    _ = first * chi * (last * fast) := by ring
    _ ≤ (mid + 1) * ray * (last * fast) := Nat.mul_le_mul_right _ hmid
    _ = (last * mid + last) * (fast * ray) := by ring
    _ ≤ ((twoStep + 1) * ray + last) * (fast * ray) :=
        Nat.mul_le_mul_right _ (Nat.add_le_add_right htwo _)
    _ = ((twoStep + 1) * ray + last) * fast * ray := by ring

end Split

/-! ## The index after a checkpoint -/

/-- An honest checkpoint that keeps the factor moves a later index by rounding
only. The index without it is `direct`, the one with it `twoStep`. -/
theorem checkpoint_drift (hray : 1 ≤ curve.ray.toNat)
    (hssr : curve.ray.toNat ≤ curve.ssr.toNat) {t₁ t₂ now : Int}
    (hrho : (curve.rho.toNat : Int) ≤ t₁) (ht : t₁ ≤ t₂) {chi : Nat}
    (hchi : (curve.conversionRate t₁).value = some chi)
    (hnew : curve.propose ⟨curve.ssr.toNat, t₁, chi, now⟩ = .ok new)
    {direct twoStep growth : Nat} {power : Logged (Option Nat)}
    (hdirect : (curve.conversionRate t₂).value = some direct)
    (htwoStep : (new.conversionRate t₂).value = some twoStep)
    (hpower : Ray.powerOfInts curve.ray.toNat curve.ssr.toNat (t₂ - t₁) = .ok power)
    (hgrowth : power.value = some growth) :
    let ray := curve.ray.toNat
    let seconds := (t₂ - curve.rho.toNat).toNat
    twoStep * (2 * ray - 1) ^ seconds ≤ (direct + 1) * (2 * ray + 1) ^ seconds ∧
      direct * ray * (2 * ray - 1) ^ seconds
        ≤ ((twoStep + 1) * ray + growth) * (2 * ray + 1) ^ seconds := by
  intro ray seconds
  have hfollows := propose_eq_ok_iff_follows.1 hnew
  have hnew_ray : new.ray.toNat = ray := by rw [hfollows.ray_eq]
  have hnew_ssr : new.ssr.toNat = curve.ssr.toNat := Int.ofNat_inj.1 hfollows.ssr_eq
  have hnew_chi : new.chi.toNat = chi := Int.ofNat_inj.1 hfollows.chi_eq
  have hnew_rho : (new.rho.toNat : Int) = t₁ := hfollows.rho_eq
  obtain ⟨first, hfirst, hmid_le, hle_mid⟩ := exists_growth_of_conversionRate hray hrho hchi
  obtain ⟨whole, hwhole, hdirect_le, hle_direct⟩ :=
    exists_growth_of_conversionRate hray (hrho.trans ht) hdirect
  obtain ⟨last, hlast, htwo_le, hle_two⟩ :=
    exists_growth_of_conversionRate (hnew_ray ▸ hray) (hnew_rho ▸ ht) htwoStep
  rw [hnew_ray, hnew_ssr, hnew_rho] at hlast
  rw [hnew_ray, hnew_chi] at htwo_le hle_two
  -- the power over the second part is the one that the new record takes
  have hgrowth_eq : growth = last := by
    rw [Ray.powerOfInts_eq_ok hray (Int.sub_nonneg.2 ht), Except.ok.injEq] at hpower
    rw [← hpower, hlast] at hgrowth
    exact (Option.some.inj hgrowth).symm
  subst hgrowth_eq
  have hseconds : seconds = (t₁ - curve.rho.toNat).toNat + (t₂ - t₁).toNat := by omega
  have hspan : (t₂ - curve.rho.toNat).toNat = seconds := rfl
  rw [hspan, hseconds] at hwhole
  rw [hseconds]
  constructor
  · exact twoStep_mul_le hray hmid_le htwo_le hle_direct
      (Ray.power_mul_power_le hray hssr hfirst hlast hwhole)
  · exact direct_mul_le hray hle_mid hle_two hdirect_le
      (Ray.power_le_power_mul_power hray hssr hfirst hlast hwhole)

/-- Six seconds at the factor 1.3 lead from the index 0.9 to 4.34 at once, and to
4.35 with a checkpoint after three of them. -/
theorem checkpoint_drift_roomy :
    let new := roomy.after ⟨130, 8, 198, 8⟩
    1 ≤ roomy.ray.toNat ∧ roomy.ray.toNat ≤ roomy.ssr.toNat ∧ (roomy.rho.toNat : Int) ≤ 8 ∧
      (roomy.conversionRate 8).value = some 198 ∧
      roomy.propose ⟨roomy.ssr.toNat, 8, (198 : Nat), 8⟩ = .ok new ∧
      (roomy.conversionRate 11).value = some 434 ∧ (new.conversionRate 11).value = some 435 ∧
      (Ray.power roomy.ray.toNat roomy.ssr.toNat 3).value = some 220 ∧
      435 * (2 * 100 - 1) ^ 6 ≤ (434 + 1) * (2 * 100 + 1) ^ 6 ∧
      434 * 100 * (2 * 100 - 1) ^ 6 ≤ ((435 + 1) * 100 + 220) * (2 * 100 + 1) ^ 6 := by
  intro new
  have hray : 1 ≤ roomy.ray.toNat := by decide
  have hssr : roomy.ray.toNat ≤ roomy.ssr.toNat := by decide
  have hrho : (roomy.rho.toNat : Int) ≤ 8 := by decide
  have hchi : (roomy.conversionRate 8).value = some 198 := by decide +kernel
  have hnew : roomy.propose ⟨roomy.ssr.toNat, 8, (198 : Nat), 8⟩ = .ok new := by decide +kernel
  have hdirect : (roomy.conversionRate 11).value = some 434 := by decide +kernel
  have htwoStep : (new.conversionRate 11).value = some 435 := by decide +kernel
  have hgrowth : (Ray.power roomy.ray.toNat roomy.ssr.toNat 3).value = some 220 := by
    decide +kernel
  have hdrift := checkpoint_drift hray hssr hrho (by decide) hchi hnew hdirect htwoStep rfl hgrowth
  exact ⟨hray, hssr, hrho, hchi, hnew, hdirect, htwoStep, hgrowth, hdrift⟩

end PegPool.RedemptionRate
