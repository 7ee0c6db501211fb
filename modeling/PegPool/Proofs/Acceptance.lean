import PegPool.Proofs.Failures
import PegPool.Proofs.History

/-!
# Accepted and refused proposals

Eight rules decide about a proposal. Each is told here as a condition on the record and
the proposal alone, and the refusal of a proposal is the first of them that is broken.
The rules come in three groups, and the groups are compared one by one.

The index that the bound allows never falls with time. So what is accepted once is
accepted at any later time too, as long as that index can be told.
-/

namespace PegPool

/-- The failure for which something is refused, if it is. -/
def refusal? {α : Type} : Except CurveError α → Option Failure
  | .ok _ => none
  | .error cause => some cause.failure

/-- Of two checks the first that refuses decides. -/
theorem refusal?_bind {α β : Type} (first : Except CurveError α) (next : Except CurveError β) :
    refusal? (first >>= fun _ => next) = (refusal? first).or (refusal? next) := by
  cases first <;> rfl

namespace RedemptionRate

/-! ## The rules -/

/-- The greatest index that the bound allows at a time, as it is told. -/
def greatestChi (curve : RedemptionRate) (rho : Int) : Except Ray.PowerError (Option Nat) :=
  Logged.value <$> curve.maxChi rho

/-- The rule that a failure stands for is broken. -/
def breaks (curve : RedemptionRate) (p : Proposal) : Failure → Bool
  | .rhoInFuture => p.now < p.rho
  | .ssrBelowRay => p.ssr < curve.ray.toNat
  | .ssrAboveMax => curve.maxSsr.toNat ≠ 0 ∧ curve.maxSsr.toNat < p.ssr
  | .rhoDecreased => curve.rho.toNat ≠ 0 ∧ p.rho < curve.rho.toNat
  | .chiDecreased => curve.rho.toNat ≠ 0 ∧ p.chi < curve.chi.toNat
  | .calculationFailure =>
    (curve.rho.toNat ≠ 0 ∧ curve.maxSsr.toNat ≠ 0) ∧ curve.greatestChi p.rho = .ok none
  | .chiGrowthExceeded =>
    (curve.rho.toNat ≠ 0 ∧ curve.maxSsr.toNat ≠ 0) ∧
      (curve.greatestChi p.rho).toOption.join.any fun greatest => greatest < p.chi
  | .invalidCurveData => ∃ value ∈ [p.ssr, p.rho, p.chi], value < 0 ∨ 2 ^ 128 ≤ value
  | _ => false

/-- The rules in the order in which they are asked. -/
def rules : List Failure :=
  [.rhoInFuture, .ssrBelowRay, .ssrAboveMax, .rhoDecreased, .chiDecreased,
    .calculationFailure, .chiGrowthExceeded, .invalidCurveData]

variable {curve : RedemptionRate} {p : Proposal}

theorem refusal?_checkLimits : refusal? (curve.checkLimits p.ssr p.rho p.now)
    = [.rhoInFuture, .ssrBelowRay, .ssrAboveMax].find? (curve.breaks p) := by
  unfold checkLimits
  by_cases hrho : p.now < p.rho
  · simp [hrho, breaks, refusal?, CurveError.failure]
  by_cases hray : p.ssr < curve.ray.toNat
  · simp [hrho, hray, breaks, refusal?, CurveError.failure]
  by_cases hmax : curve.maxSsr.toNat ≠ 0 ∧ curve.maxSsr.toNat < p.ssr
  · simp [hrho, hray, hmax, breaks, refusal?, CurveError.failure]
  · simp [hrho, hray, hmax, breaks, refusal?]

theorem greatestChi_eq_ok (h : (curve.rho.toNat : Int) ≤ p.rho) : curve.greatestChi p.rho =
    .ok (curve.indexAfter curve.maxSsr.toNat (p.rho - curve.rho.toNat).toNat).value := by
  rw [greatestChi, maxChi_eq_ok h]
  rfl

theorem refusal?_checkProgress : refusal? (curve.checkProgress p.rho p.chi).value
    = [.rhoDecreased, .chiDecreased, .calculationFailure, .chiGrowthExceeded].find?
        (curve.breaks p) := by
  unfold checkProgress
  by_cases hfirst : curve.rho.toNat = 0
  · simp [hfirst, breaks, refusal?]
  by_cases hrho : p.rho < curve.rho.toNat
  · simp [hfirst, hrho, breaks, refusal?, CurveError.failure]
  by_cases hchi : p.chi < curve.chi.toNat
  · simp [hfirst, hrho, hchi, breaks, refusal?, CurveError.failure]
  by_cases hmax : curve.maxSsr.toNat = 0
  · simp [hfirst, hrho, hchi, hmax, breaks, refusal?]
  -- only from here on is the greatest index asked for
  have hgreatest := greatestChi_eq_ok (Int.not_lt.1 hrho)
  simp only [hfirst, hrho, hchi, hmax, if_false, Logged.value_bind]
  cases hindex : (curve.indexAfter curve.maxSsr.toNat (p.rho - curve.rho.toNat).toNat).value with
  | none =>
    rw [hindex] at hgreatest
    simp [hfirst, hrho, hchi, hmax, hgreatest, breaks, refusal?, CurveError.failure]
  | some greatest =>
    rw [hindex] at hgreatest
    by_cases hgrowth : (greatest : Int) < p.chi
    · simp [hfirst, hrho, hchi, hmax, hgreatest, hgrowth, breaks, refusal?,
        CurveError.failure, Except.toOption]
    · simp [hfirst, hrho, hchi, hmax, hgreatest, hgrowth, breaks, refusal?, Except.toOption]

theorem exists_withRates_iff_forall {ssr rho chi : Int} :
    (∃ new, curve.withRates ssr rho chi = .ok new) ↔
      ∀ value ∈ [ssr, rho, chi], 0 ≤ value ∧ value < 2 ^ 128 := by
  simp [exists_withRates_iff]

theorem refusal?_withRates : refusal? (curve.withRates p.ssr p.rho p.chi)
    = [Failure.invalidCurveData].find? (curve.breaks p) := by
  have hnarrow : (∃ new, curve.withRates p.ssr p.rho p.chi = .ok new) ↔
      curve.breaks p .invalidCurveData = false := by
    rw [exists_withRates_iff_forall]
    simp [breaks]
  cases h : curve.withRates p.ssr p.rho p.chi with
  | ok new =>
    rw [List.find?_singleton, hnarrow.1 ⟨new, h⟩]
    rfl
  | error cause =>
    have hbroken : curve.breaks p .invalidCurveData = true := by
      rw [← Bool.not_eq_false, ← hnarrow, h]
      simp
    obtain ⟨field, value, -, rfl⟩ := eq_fieldRange_of_withRates h
    rw [List.find?_singleton, hbroken]
    rfl

/-- A proposal is refused for the first rule that it breaks. -/
theorem refusal?_propose : refusal? (curve.propose p) = rules.find? (curve.breaks p) := by
  have hrules : rules = [.rhoInFuture, .ssrBelowRay, .ssrAboveMax] ++
      ([.rhoDecreased, .chiDecreased, .calculationFailure, .chiGrowthExceeded] ++
        [.invalidCurveData]) := rfl
  rw [propose_eq, hrules, List.find?_append, List.find?_append, ← refusal?_checkLimits,
    ← refusal?_checkProgress, ← refusal?_withRates]
  exact (refusal?_bind _ _).trans (congrArg _ (refusal?_bind _ _))

/-! ## Acceptance -/

/-- A proposal that keeps every rule. The rules of progress bind once there has been a
checkpoint, and the bound of growth only where there is one. -/
structure Acceptable (curve : RedemptionRate) (p : Proposal) : Prop where
  rho_le_now : p.rho ≤ p.now
  ray_le_ssr : (curve.ray.toNat : Int) ≤ p.ssr
  ssr_le_maxSsr : curve.maxSsr.toNat = 0 ∨ p.ssr ≤ curve.maxSsr.toNat
  narrow : ∀ value ∈ [p.ssr, p.rho, p.chi], 0 ≤ value ∧ value < 2 ^ 128
  progress : curve.rho.toNat = 0 ∨
    (curve.rho.toNat : Int) ≤ p.rho ∧ (curve.chi.toNat : Int) ≤ p.chi ∧
      (curve.maxSsr.toNat = 0 ∨ ∃ greatest : Nat,
        curve.greatestChi p.rho = .ok (some greatest) ∧ p.chi ≤ greatest)

/-- The rules of progress, with the greatest index as it is told. -/
theorem checkProgress_iff_greatestChi : (curve.checkProgress p.rho p.chi).value = .ok () ↔
    curve.rho.toNat = 0 ∨
      (curve.rho.toNat : Int) ≤ p.rho ∧ (curve.chi.toNat : Int) ≤ p.chi ∧
        (curve.maxSsr.toNat = 0 ∨ ∃ greatest : Nat,
          curve.greatestChi p.rho = .ok (some greatest) ∧ p.chi ≤ greatest) := by
  rw [checkProgress_eq_ok_iff, or_iff_not_imp_left]
  refine imp_congr_right fun _ => and_congr_right fun hrho => and_congr_right fun _ => ?_
  simp only [greatestChi_eq_ok hrho, Except.ok.injEq, or_iff_not_imp_left, ne_eq]

theorem exists_propose_iff : (∃ new, curve.propose p = .ok new) ↔ curve.Acceptable p := by
  constructor
  · rintro ⟨new, h⟩
    obtain ⟨hlimits, hprogress, hrates⟩ := propose_eq_ok_iff.1 h
    obtain ⟨hnow, hray, hmax⟩ := checkLimits_eq_ok_iff.1 hlimits
    exact ⟨hnow, hray, or_iff_not_imp_left.2 hmax, exists_withRates_iff_forall.1 ⟨new, hrates⟩,
      checkProgress_iff_greatestChi.1 hprogress⟩
  · intro h
    have hlimits : curve.checkLimits p.ssr p.rho p.now = .ok () :=
      checkLimits_eq_ok_iff.2 ⟨h.rho_le_now, h.ray_le_ssr, or_iff_not_imp_left.1 h.ssr_le_maxSsr⟩
    have hprogress := checkProgress_iff_greatestChi.2 h.progress
    obtain ⟨new, hrates⟩ := exists_withRates_iff_forall.2 h.narrow
    exact ⟨new, propose_eq_ok_iff.2 ⟨hlimits, hprogress, hrates⟩⟩

/-! ## Later times -/

variable {later now : Int}

/-- An index that keeps the rules of progress keeps them later on, unless the greatest
index can no longer be told. -/
theorem checkProgress_of_le (hmaxSsr : curve.maxSsr.toNat ≠ 0 →
      curve.ray.toNat ≤ curve.maxSsr.toNat)
    (h : (curve.checkProgress p.rho p.chi).value = .ok ()) (hlater : p.rho ≤ later) :
    (curve.checkProgress later p.chi).value = .ok () ∨
      (curve.checkProgress later p.chi).value
        = .error (.growthTooWide (later - curve.rho.toNat)) := by
  rw [checkProgress_eq_ok_iff] at h
  unfold checkProgress
  by_cases hfirst : curve.rho.toNat = 0
  · simp [hfirst]
  obtain ⟨hrho, hchi, hbound⟩ := h hfirst
  rw [if_neg hfirst, if_neg (by omega), if_neg (by omega)]
  by_cases hmax : curve.maxSsr.toNat = 0
  · simp [hmax]
  obtain ⟨greatest, hgreatest, hle⟩ := hbound hmax
  have hray : 0 < curve.ray.toNat :=
    Nat.pos_of_ne_zero (value_indexAfter_eq_some_iff.1 hgreatest).1
  simp only [hmax, if_false, Logged.value_bind]
  cases hvalue : (curve.indexAfter curve.maxSsr.toNat (later - curve.rho.toNat).toNat).value with
  | none => exact .inr rfl
  | some index =>
    have hseconds : (p.rho - curve.rho.toNat).toNat ≤ (later - curve.rho.toNat).toNat := by omega
    -- the greatest index of the time before was no larger
    obtain ⟨_, hbefore, hindex⟩ := indexAfter_le_indexAfter hray (hmaxSsr hmax) hseconds hvalue
    rw [hgreatest, Option.some.injEq] at hbefore
    subst hbefore
    simp only [Logged.value_pure]
    rw [if_neg (by omega)]
    exact .inl rfl

/-- What is accepted once is accepted at any later time, unless the greatest index can
no longer be told. -/
theorem propose_of_le {new : RedemptionRate} (h : curve.propose p = .ok new)
    (hlater : p.rho ≤ later) (hnow : later ≤ now) (hnarrow : later < 2 ^ 128) :
    (∃ next, curve.propose ⟨p.ssr, later, p.chi, now⟩ = .ok next) ∨
      curve.propose ⟨p.ssr, later, p.chi, now⟩
        = .error (.growthTooWide (later - curve.rho.toNat)) := by
  obtain ⟨hlimits, hprogress, hrates⟩ := propose_eq_ok_iff.1 h
  obtain ⟨-, hray, hmax⟩ := checkLimits_eq_ok_iff.1 hlimits
  obtain ⟨hssr, hrho, hchi⟩ := exists_withRates_iff.1 ⟨new, hrates⟩
  have hlimits' : curve.checkLimits p.ssr later now = .ok () :=
    checkLimits_eq_ok_iff.2 ⟨hnow, hray, hmax⟩
  rcases checkProgress_of_le (by omega) hprogress hlater with hprogress' | hprogress'
  · obtain ⟨next, hnext⟩ : ∃ next, curve.withRates p.ssr later p.chi = .ok next :=
      exists_withRates_iff.2 ⟨hssr, ⟨by omega, hnarrow⟩, hchi⟩
    exact .inl ⟨next, propose_eq_ok_iff.2 ⟨hlimits', hprogress', hnext⟩⟩
  · right
    rw [propose_eq, hlimits', hprogress']
    rfl

/-- A proposal is accepted exactly when it keeps all rules, and refused for the first
that it breaks, in words that can be written if its numbers can. What is accepted
once is accepted at any later time, unless the greatest index can no longer be told. -/
theorem proposal_outcome (curve : RedemptionRate) (p : Proposal) :
    ((∃ new, curve.propose p = .ok new) ↔ curve.Acceptable p) ∧
    (∀ cause, curve.propose p = .error cause →
      rules.find? (curve.breaks p) = some cause.failure ∧
        ((∀ value ∈ [p.ssr, p.rho, p.chi, p.now], Text.isWritable value) →
          cause.told = .ok cause.message)) ∧
    ∀ later now, (∃ new, curve.propose p = .ok new) →
      p.rho ≤ later → later ≤ now → later < 2 ^ 128 →
        (∃ next, curve.propose ⟨p.ssr, later, p.chi, now⟩ = .ok next) ∨
          ∃ cause, curve.propose ⟨p.ssr, later, p.chi, now⟩ = .error cause ∧
            cause.failure = .calculationFailure := by
  refine ⟨exists_propose_iff, ?_, ?_⟩
  · intro cause h
    refine ⟨?_, ?_⟩
    · rw [← refusal?_propose, h]
      rfl
    · intro hgiven
      simp only [List.forall_mem_cons] at hgiven
      obtain ⟨hssr, hrho, hchi, hnow, -⟩ := hgiven
      exact CurveError.told_eq_ok_iff.2 (isWritable_of_setRates hssr hrho hchi hnow h)
  · rintro later now ⟨new, h⟩ hlater hnow hnarrow
    refine (propose_of_le h hlater hnow hnarrow).imp_right fun hwide => ?_
    exact ⟨_, hwide, rfl⟩

/-- The index 1.98 is accepted after three seconds and after fifteen, and long after
that its bound is too wide. A proposal that breaks three rules is refused for the
first of them. -/
theorem proposal_outcome_roomy :
    (∃ new, roomy.propose ⟨120, 8, 198, 9⟩ = .ok new) ∧ (8 : Int) ≤ 20 ∧ (20 : Int) ≤ 30 ∧
      (20 : Int) < 2 ^ 128 ∧ (∃ next, roomy.propose ⟨120, 20, 198, 30⟩ = .ok next) ∧
      roomy.propose ⟨120, 400, 198, 400⟩ = .error (.growthTooWide 395) ∧
      roomy.propose ⟨90, 4, 80, 4⟩ = .error (.ssrBelowRay 90 100) ∧
      (∀ value ∈ [90, 4, 80, 4], Text.isWritable value) ∧
      rules.find? (roomy.breaks ⟨90, 4, 80, 4⟩) = some .ssrBelowRay ∧
      (CurveError.ssrBelowRay 90 100).told = .ok "ssr 90 is below ray 100" := by
  have hgreatest : roomy.greatestChi 8 = .ok (some 441) := by decide +kernel
  have hrefused : roomy.propose ⟨90, 4, 80, 4⟩ = .error (.ssrBelowRay 90 100) := by
    decide +kernel
  have hgiven : ∀ value ∈ [90, 4, 80, 4], Text.isWritable value := by decide +kernel
  obtain ⟨haccepted, -, hlater⟩ := proposal_outcome roomy ⟨120, 8, 198, 9⟩
  obtain ⟨-, hfirst, -⟩ := proposal_outcome roomy ⟨90, 4, 80, 4⟩
  have hnew := haccepted.2 ⟨by decide, by decide, .inr (by decide), by decide +kernel,
    .inr ⟨by decide, by decide, .inr ⟨441, hgreatest, by decide⟩⟩⟩
  have hnext : ∃ next, roomy.propose ⟨120, 20, 198, 30⟩ = .ok next := by
    have hkept : rules.find? (roomy.breaks ⟨120, 20, 198, 30⟩) = none := by decide +kernel
    rcases hlater 20 30 hnew (by decide) (by decide) (by decide) with hnext | ⟨cause, hcause, -⟩
    · exact hnext
    · obtain ⟨hbroken, -⟩ := (proposal_outcome roomy ⟨120, 20, 198, 30⟩).2.1 cause hcause
      rw [hkept] at hbroken
      cases hbroken
  obtain ⟨hrule, htold⟩ := hfirst _ hrefused
  exact ⟨hnew, by decide, by decide, by decide, hnext, by decide +kernel, hrefused, hgiven, hrule,
    htold hgiven⟩

end RedemptionRate

end PegPool
