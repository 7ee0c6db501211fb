import PegPool.Proofs.FlatRate
import PegPool.Proofs.History

/-!
# Honest checkpoints

A checkpoint is honest if its index is the one that the record itself projects
to that time. Such a checkpoint is never taken for a dishonest one: the
projection neither runs backwards nor outgrows the bound, because the bound is
the same projection by a factor that is no smaller. What can still stand in the
way is width alone, of the bound or of one of the three numbers. A number that is
too wide to be stored is told in the refusal, unless it has too many digits for that.
-/

namespace PegPool.RedemptionRate

variable {curve old new : RedemptionRate} {p : Proposal} {t : Int} {v : Nat}

theorem exists_maxChi (ht : (curve.rho.toNat : Int) ≤ t) :
    ∃ greatest, curve.maxChi t = .ok greatest ∧ greatest.value =
      (curve.indexAfter curve.maxSsr.toNat (t - curve.rho.toNat).toNat).value :=
  ⟨_, maxChi_eq_ok ht, rfl⟩

/-! ## The index is in its bounds -/

/-- The index at a time is no smaller than the last one. A unit of zero leaves
only the checkpoint itself with an index. -/
theorem chi_le_conversionRate (hssr : curve.ray.toNat ≤ curve.ssr.toNat)
    (ht : (curve.rho.toNat : Int) ≤ t) (hv : (curve.conversionRate t).value = some v) :
    curve.chi.toNat ≤ v := by
  rcases Nat.eq_zero_or_pos curve.ray.toNat with hray | hray
  · unfold conversionRate at hv
    split at hv
    · cases hv
      exact Nat.le_refl _
    · rw [if_neg (by omega), indexAfter, if_pos hray] at hv
      cases hv
  · rw [conversionRate_eq_indexAfter hray ht] at hv
    exact chi_le_indexAfter hray hssr hv

/-- The index at a time is no larger than the greatest one. -/
theorem conversionRate_le_greatest {greatest : Nat}
    (hssr : curve.ssr.toNat ≤ curve.maxSsr.toNat) (ht : (curve.rho.toNat : Int) ≤ t)
    (hv : (curve.conversionRate t).value = some v)
    (hgreatest : (curve.indexAfter curve.maxSsr.toNat
      (t - curve.rho.toNat).toNat).value = some greatest) : v ≤ greatest := by
  have hray : 0 < curve.ray.toNat :=
    Nat.pos_of_ne_zero (value_indexAfter_eq_some_iff.1 hgreatest).1
  rw [conversionRate_eq_indexAfter hray ht] at hv
  obtain ⟨less, hless, hle⟩ := indexAfter_le_of_factor_le hssr hgreatest
  rw [hv, Option.some.injEq] at hless
  exact hless ▸ hle

/-! ## The outcome of an honest proposal -/

section Honest

variable (hrho : curve.rho.toNat ≠ 0) (hrange : InRange curve)
  (ht : (curve.rho.toNat : Int) ≤ t) (hv : (curve.conversionRate t).value = some v)
  {greatest : Option Nat} (hgreatest : (curve.indexAfter curve.maxSsr.toNat
    (t - curve.rho.toNat).toNat).value = greatest)

include hrho hrange ht hv hgreatest

/-- Of the rules of progress an honest index can break one only: it cannot be
compared with a greatest index that is too wide. -/
theorem checkProgress_of_conversionRate : (curve.checkProgress t v).value =
    if curve.maxSsr.toNat ≠ 0 ∧ greatest = none
      then .error (.growthTooWide (t - curve.rho.toNat)) else .ok () := by
  have hchi := chi_le_conversionRate hrange.ray_le_ssr ht hv
  unfold checkProgress
  rw [if_neg hrho, if_neg (by omega), if_neg (by omega)]
  split
  · rename_i hmax
    rw [if_neg fun h => h.1 hmax]
    rfl
  · rename_i hmax
    simp only [Logged.value_bind, hgreatest]
    cases greatest with
    | none =>
      rw [if_pos ⟨hmax, rfl⟩]
      rfl
    | some index =>
      have hle := conversionRate_le_greatest (hrange.ssr_le_maxSsr hmax) ht hv hgreatest
      rw [if_neg fun h => Option.some_ne_none _ h.2]
      simp only [Logged.value_pure]
      rw [if_neg (by omega)]

theorem propose_of_conversionRate {ssr now : Int}
    (hlimits : curve.checkLimits ssr t now = .ok ()) :
    curve.propose ⟨ssr, t, v, now⟩ = if curve.maxSsr.toNat ≠ 0 ∧ greatest = none
      then .error (.growthTooWide (t - curve.rho.toNat)) else curve.withRates ssr t v := by
  rw [propose_eq, hlimits, checkProgress_of_conversionRate hrho hrange ht hv hgreatest]
  split <;> rfl

end Honest

/-- A record quotes the index of its checkpoint as it was proposed. -/
theorem Follows.conversionRate_rho (h : Follows old p new) {chi : Nat} (hchi : p.chi = chi) :
    (new.conversionRate p.rho).value = some chi := by
  have heq := h.chi_eq
  rw [hchi, Int.ofNat_inj] at heq
  rw [conversionRate, if_pos h.rho_eq.symm, heq]
  rfl

/-- An honest proposal is accepted exactly when its numbers are narrow and the
bound, if there is one, can be told. Otherwise the width is what is named, in
words that can be written whenever the time and the factor can. -/
theorem honest_proposal_outcome (hrho : curve.rho.toNat ≠ 0) (hrange : InRange curve)
    (ht : (curve.rho.toNat : Int) ≤ t) (hv : (curve.conversionRate t).value = some v)
    {ssr now : Int} (hnow : t ≤ now) (hray : (curve.ray.toNat : Int) ≤ ssr)
    (hmax : curve.maxSsr.toNat ≠ 0 → ssr ≤ curve.maxSsr.toNat) :
    ∃ greatest, curve.maxChi t = .ok greatest ∧
      (∀ cause, curve.propose ⟨ssr, t, v, now⟩ = .error cause →
        cause.failure ∉ [.rhoDecreased, .chiDecreased, .chiGrowthExceeded] ∧
        cause.failure = (if curve.maxSsr.toNat ≠ 0 ∧ greatest.value = none
          then .calculationFailure else .invalidCurveData) ∧
        (t.natAbs < Text.writeBound → ssr.natAbs < Text.writeBound →
          cause.told = .ok cause.message)) ∧
      ((∃ new, curve.propose ⟨ssr, t, v, now⟩ = .ok new) ↔
        (t < 2 ^ 128 ∧ v < 2 ^ 128 ∧ ssr < 2 ^ 128) ∧
          (curve.maxSsr.toNat = 0 ∨ ∃ index, greatest.value = some index)) ∧
      ∀ new, curve.propose ⟨ssr, t, v, now⟩ = .ok new →
        (new.conversionRate t).value = some v := by
  obtain ⟨greatest, hgreatest, hindex⟩ := exists_maxChi ht
  have hlimits : curve.checkLimits ssr t now = .ok () :=
    checkLimits_eq_ok_iff.2 ⟨hnow, hray, hmax⟩
  have houtcome := propose_of_conversionRate hrho hrange ht hv hindex.symm hlimits
  have hwide : v < Text.writeBound :=
    (conversionRate_le_wideMax hv).trans_lt wideMax_lt_writeBound
  refine ⟨greatest, hgreatest, ?_, ?_, ?_⟩
  · intro cause hcause
    rw [houtcome] at hcause
    split at hcause
    · rename_i hmissing
      cases hcause
      rw [if_pos hmissing]
      refine ⟨by simp [CurveError.failure], rfl, fun hwrite _ => Text.tell_eq_ok_iff.2 ⟨?_, rfl⟩⟩
      simp only [CurveError.integers, List.mem_singleton, forall_eq]
      omega
    · rename_i hbound
      obtain ⟨field, value, hvalue, rfl⟩ := eq_fieldRange_of_withRates hcause
      rw [if_neg hbound]
      refine ⟨by simp [CurveError.failure], rfl,
        fun hwrite hwrite' => Text.tell_eq_ok_iff.2 ⟨?_, rfl⟩⟩
      simp only [List.mem_cons, List.not_mem_nil, or_false] at hvalue
      simp only [CurveError.integers, List.mem_singleton, forall_eq]
      omega
  · rw [houtcome, ← Option.ne_none_iff_exists']
    split
    · rename_i hmissing
      simp only [reduceCtorEq, exists_false, false_iff]
      exact fun h => h.2.elim hmissing.1 (absurd hmissing.2)
    · rename_i hbound
      have hcompared : curve.maxSsr.toNat = 0 ∨ greatest.value ≠ none :=
        or_iff_not_imp_left.2 fun hbounded hnone => hbound ⟨hbounded, hnone⟩
      rw [exists_withRates_iff, and_iff_left hcompared]
      omega
  · intro new hnew
    exact (propose_eq_ok_iff_follows.1 hnew).conversionRate_rho rfl

/-- Three seconds at the factor 1.3 lead from the index 0.9 to 1.98, where the
bound would allow 4.41. -/
theorem honest_proposal_outcome_roomy :
    roomy.rho.toNat ≠ 0 ∧ InRange roomy ∧ (roomy.rho.toNat : Int) ≤ 8 ∧
      (roomy.conversionRate 8).value = some 198 ∧ (8 : Int) ≤ 9 ∧
      (roomy.ray.toNat : Int) ≤ 120 ∧ (roomy.maxSsr.toNat ≠ 0 → (120 : Int) ≤ roomy.maxSsr.toNat) ∧
      ∃ greatest new, roomy.maxChi 8 = .ok greatest ∧ greatest.value = some 441 ∧
        roomy.propose ⟨120, 8, 198, 9⟩ = .ok new ∧ (new.conversionRate 8).value = some 198 := by
  have hrho : roomy.rho.toNat ≠ 0 := by decide
  have hrange : InRange roomy := ⟨by decide, by decide⟩
  have ht : (roomy.rho.toNat : Int) ≤ 8 := by decide
  have hv : (roomy.conversionRate 8).value = some 198 := by decide +kernel
  have hnow : (8 : Int) ≤ 9 := by decide
  have hray : (roomy.ray.toNat : Int) ≤ 120 := by decide
  have hmax : roomy.maxSsr.toNat ≠ 0 → (120 : Int) ≤ roomy.maxSsr.toNat := by decide
  obtain ⟨greatest, hgreatest, -, haccepted, hquoted⟩ :=
    honest_proposal_outcome hrho hrange ht hv hnow hray hmax
  have hindex : greatest.value = some 441 := by
    obtain ⟨_, hmaxChi, hvalue⟩ := exists_maxChi ht
    rw [hgreatest, Except.ok.injEq] at hmaxChi
    rw [hmaxChi, hvalue]
    decide +kernel
  obtain ⟨new, hnew⟩ := haccepted.2 ⟨by decide, .inr ⟨441, hindex⟩⟩
  exact ⟨hrho, hrange, ht, hv, hnow, hray, hmax, greatest, new, hgreatest, hindex, hnew,
    hquoted new hnew⟩

/-- An index that stands still is quoted at a time of 4301 digits as well. The checkpoint is
honest and its time too wide to be stored, but the refusal cannot tell the time. -/
theorem honest_time_may_have_too_many_digits :
    let curve := flat .zero ⟨1, by decide⟩ .oneRay
    let t : Int := 10 ^ 4300
    curve.rho.toNat ≠ 0 ∧ InRange curve ∧ (curve.rho.toNat : Int) ≤ t ∧
      (curve.conversionRate t).value = some Ray.one ∧
      curve.ray.toNat = Ray.one ∧ curve.maxSsr.toNat = 0 ∧
      ∃ cause, curve.propose ⟨Ray.one, t, Ray.one, t⟩ = .error cause ∧
        cause.failure = .invalidCurveData ∧ cause.told = .error Text.tooManyDigits := by
  intro curve t
  have hray : 0 < curve.ray.toNat := Nat.pow_pos (by decide)
  have ht : (curve.rho.toNat : Int) ≤ t := by decide +kernel
  have hv : (curve.conversionRate t).value = some Ray.one := by
    rw [conversionRate_of_ssr_eq_ray hray rfl ht]
    rfl
  have hrefused : curve.propose ⟨Ray.one, t, Ray.one, t⟩ = .error (.fieldRange "rho" t) := by
    decide +kernel
  exact ⟨by decide, ⟨by decide, by decide⟩, ht, hv, rfl, rfl, _, hrefused, rfl,
    by decide +kernel⟩

end PegPool.RedemptionRate
