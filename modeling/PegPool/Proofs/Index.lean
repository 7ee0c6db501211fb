import PegPool.Curve.RedemptionRate
import PegPool.Proofs.Ray.Accuracy

/-!
# The index between checkpoints

The index at a time is the index at the checkpoint, scaled by a power of the
factor per second and rounded down. At the checkpoint itself nothing is
computed, and this shortcut agrees with the formula. So the order and the
accuracy of powers carry over to the index.
-/

namespace PegPool

namespace Ray

theorem power_le_wideMax {ray base n v : Nat} (h : (power ray base n).value = some v) :
    v ≤ wideMax := by
  obtain ⟨-, -, w, -, rfl⟩ := value_power_eq_some_iff.1 h
  exact w.toNat_le

theorem value_scaleIndex_eq_some_iff {growth chi ray v : Nat} (hgrowth : growth ≤ wideMax)
    (hchi : chi ≤ wideMax) (hray : ray ≤ wideMax) :
    (scaleIndex growth chi ray).value = some v ↔
      growth * chi ≤ wideMax ∧ ray ≠ 0 ∧ v = growth * chi / ray := by
  unfold scaleIndex
  rw [Logged.value_ofFormula_eq_some_iff]
  simp only [bind_eq_ok_iff, pure_eq_ok_iff, Wide.ofInt_natCast_eq_ok_iff, Option.some.injEq]
  constructor
  · rintro ⟨g, hg, c, hc, product, hproduct, r, hr, index, hindex, rfl⟩
    rw [Wide.mul_natCast_eq_ok_iff, hg, hc] at hproduct
    rw [Wide.div_natCast_eq_ok_iff, hr, hproduct] at hindex
    exact ⟨hproduct ▸ product.toNat_le, hindex.1, hindex.2⟩
  · rintro ⟨hle, hne, rfl⟩
    have hindex : growth * chi / ray ≤ wideMax := (Nat.div_le_self _ _).trans hle
    exact ⟨⟨growth, hgrowth⟩, rfl, ⟨chi, hchi⟩, rfl, ⟨growth * chi, hle⟩,
      Wide.mul_natCast_eq_ok_iff.2 rfl, ⟨ray, hray⟩, rfl, ⟨_, hindex⟩,
      Wide.div_natCast_eq_ok_iff.2 ⟨hne, rfl⟩, rfl⟩

end Ray

theorem Narrow.toNat_le_wideMax (n : Narrow) : n.toNat ≤ wideMax :=
  n.toNat_le.trans narrowMax_le_wideMax

namespace RedemptionRate

variable {curve : RedemptionRate} {factor : Narrow}

/-! ## Projection by a factor -/

theorem value_indexAfter_eq_some_iff {seconds v : Nat} :
    (curve.indexAfter factor.toNat seconds).value = some v ↔ curve.ray.toNat ≠ 0 ∧
      ∃ growth, (Ray.power curve.ray.toNat factor.toNat seconds).value = some growth ∧
        growth * curve.chi.toNat ≤ wideMax ∧ v = growth * curve.chi.toNat / curve.ray.toNat := by
  unfold indexAfter
  split
  · rename_i hray
    simp [hray]
  · rename_i hray
    rw [Logged.value_andThen, Option.bind_eq_some_iff]
    simp only [ne_eq, hray, not_false_eq_true, true_and]
    refine exists_congr fun growth => and_congr_right fun hgrowth => ?_
    rw [Ray.value_scaleIndex_eq_some_iff (Ray.power_le_wideMax hgrowth)
      curve.chi.toNat_le_wideMax curve.ray.toNat_le_wideMax]
    simp only [ne_eq, hray, not_false_eq_true, true_and]

theorem indexAfter_zero (hray : 0 < curve.ray.toNat) :
    (curve.indexAfter factor.toNat 0).value = some curve.chi.toNat :=
  value_indexAfter_eq_some_iff.2 ⟨Nat.ne_of_gt hray, curve.ray.toNat,
    Ray.value_power_zero curve.ray.toNat_le_wideMax factor.toNat_le_wideMax,
    mul_le_wideMax curve.ray.toNat_le curve.chi.toNat_le,
    (Nat.mul_div_cancel_left _ hray).symm⟩

/-- A growth that is no larger leads to an index that is no larger, and leads to
one whenever the other does. -/
theorem indexAfter_le_of_power_le {factor' : Narrow} {m n w : Nat}
    (hpower : ∀ growth, (Ray.power curve.ray.toNat factor'.toNat n).value = some growth →
      ∃ less, (Ray.power curve.ray.toNat factor.toNat m).value = some less ∧ less ≤ growth)
    (hw : (curve.indexAfter factor'.toNat n).value = some w) :
    ∃ v, (curve.indexAfter factor.toNat m).value = some v ∧ v ≤ w := by
  obtain ⟨hne, growth, hgrowth, hwide, rfl⟩ := value_indexAfter_eq_some_iff.1 hw
  obtain ⟨less, hless, hle⟩ := hpower growth hgrowth
  have hproduct := Nat.mul_le_mul_right curve.chi.toNat hle
  exact ⟨_, value_indexAfter_eq_some_iff.2 ⟨hne, less, hless, hproduct.trans hwide, rfl⟩,
    Nat.div_le_div_right hproduct⟩

/-- A smaller factor reaches no larger index. -/
theorem indexAfter_le_of_factor_le {factor' : Narrow} {n w : Nat}
    (h : factor.toNat ≤ factor'.toNat)
    (hw : (curve.indexAfter factor'.toNat n).value = some w) :
    ∃ v, (curve.indexAfter factor.toNat n).value = some v ∧ v ≤ w :=
  indexAfter_le_of_power_le (fun _ hgrowth => Ray.power_le_power_of_base_le h hgrowth) hw

section Growth

variable (hray : 0 < curve.ray.toNat) (hfactor : curve.ray.toNat ≤ factor.toNat)

include hray hfactor

/-- A longer projection is no smaller, and a shorter one exists with it. -/
theorem indexAfter_le_indexAfter {m n w : Nat} (h : m ≤ n)
    (hw : (curve.indexAfter factor.toNat n).value = some w) :
    ∃ v, (curve.indexAfter factor.toNat m).value = some v ∧ v ≤ w :=
  indexAfter_le_of_power_le (fun _ hgrowth => Ray.power_le_power hray hfactor h hgrowth) hw

theorem chi_le_indexAfter {n v : Nat}
    (hv : (curve.indexAfter factor.toNat n).value = some v) : curve.chi.toNat ≤ v := by
  obtain ⟨chi, hchi, hle⟩ := indexAfter_le_indexAfter hray hfactor (Nat.zero_le n) hv
  rw [indexAfter_zero hray, Option.some.injEq] at hchi
  exact hchi ▸ hle

/-- The index grows by the factor and by a factor `1 + 1 / (2 * ray)` each
second at most. -/
theorem indexAfter_mul_le {n v : Nat}
    (hv : (curve.indexAfter factor.toNat n).value = some v) :
    v * (2 * curve.ray.toNat ^ 2) ^ n
      ≤ curve.chi.toNat * (factor.toNat * (2 * curve.ray.toNat + 1)) ^ n := by
  obtain ⟨-, growth, hgrowth, -, rfl⟩ := value_indexAfter_eq_some_iff.1 hv
  generalize curve.ray.toNat = ray at *
  generalize curve.chi.toNat = chi
  apply Nat.le_of_mul_le_mul_left _ hray
  calc ray * (growth * chi / ray * (2 * ray ^ 2) ^ n)
      = growth * chi / ray * ray * (2 * ray ^ 2) ^ n := by ring
    _ ≤ growth * chi * (2 * ray ^ 2) ^ n :=
        Nat.mul_le_mul_right _ (Nat.div_mul_le_self _ _)
    _ = growth * (2 * ray ^ 2) ^ n * chi := by ring
    _ ≤ ray * (factor.toNat * (2 * ray + 1)) ^ n * chi :=
        Nat.mul_le_mul_right _ (Ray.power_mul_le hray hfactor hgrowth)
    _ = ray * (chi * (factor.toNat * (2 * ray + 1)) ^ n) := by ring

end Growth

/-! ## Powers of integers -/

/-- The index that a factor per second reaches in some seconds, by a power of the
integers as they are. -/
def indexOfInts (curve : RedemptionRate) (factor seconds : Int) :
    Except Ray.PowerError (Logged (Option Nat)) := do
  let growth ← curve.power factor seconds
  return growth.andThen fun growth =>
    Ray.scaleIndex growth curve.chi.toNat curve.ray.toNat

/-- Over no negative number of seconds the power is defined: the factor is natural,
and a unit of zero is looked for first. -/
theorem indexOfInts_eq_ok (factor : Narrow) {seconds : Int} (h : 0 ≤ seconds) :
    curve.indexOfInts factor.toNat seconds
      = .ok (curve.indexAfter factor.toNat seconds.toNat) := by
  unfold indexOfInts power indexAfter
  split
  · rfl
  · rename_i hray
    rw [Ray.powerOfInts_eq_ok (Nat.pos_of_ne_zero hray) h]
    rfl

/-- From the checkpoint on, the greatest index is a projection by the bound. -/
theorem maxChi_eq_ok {t : Int} (ht : (curve.rho.toNat : Int) ≤ t) : curve.maxChi t
    = .ok (curve.indexAfter curve.maxSsr.toNat (t - curve.rho.toNat).toNat) :=
  indexOfInts_eq_ok curve.maxSsr (Int.sub_nonneg.2 ht)

/-! ## The index at a time -/

/-- The shortcut at the checkpoint agrees with the projection over no seconds. -/
theorem conversionRate_eq_indexAfter (hray : 0 < curve.ray.toNat) {t : Int}
    (ht : (curve.rho.toNat : Int) ≤ t) : (curve.conversionRate t).value =
      (curve.indexAfter curve.ssr.toNat (t - curve.rho.toNat).toNat).value := by
  unfold conversionRate
  split
  · rename_i h
    rw [h, Int.sub_self, Int.toNat_zero, indexAfter_zero hray]
    rfl
  · rw [if_neg (by omega)]

/-- An index is wide at most, however it comes about. -/
theorem conversionRate_le_wideMax {t : Int} {v : Nat}
    (hv : (curve.conversionRate t).value = some v) : v ≤ wideMax := by
  unfold conversionRate at hv
  split at hv
  · cases hv
    exact curve.chi.toNat_le_wideMax
  · split at hv
    · cases hv
    · obtain ⟨-, growth, -, hwide, rfl⟩ := value_indexAfter_eq_some_iff.1 hv
      exact (Nat.div_le_self _ _).trans hwide

end RedemptionRate

end PegPool
