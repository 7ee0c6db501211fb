import PegPool.Proofs.Checkpoint
import PegPool.Proofs.Record
import PegPool.Proofs.Wording

/-!
# Where failures end

Every failure ends as a missing answer or as a named cause. A power of integers
is not defined for each of them, but none is ever taken where it is not; a failed
formula is reported and its answer is missing; and a cause is always one of the
failures of curve operations. What the words of a failure tell can be written if
the given integers can.
-/

namespace PegPool

/-! ## Powers of integers -/

namespace RedemptionRate

/-- The index at a time, by a power of the integers as they are. -/
def conversionRateOfInts (curve : RedemptionRate) (t : Int) :
    Except Ray.PowerError (Logged (Option Nat)) :=
  if t = curve.rho.toNat then .ok (pure (some curve.chi.toNat))
  else if t < curve.rho.toNat then .ok (pure none)
  else curve.indexOfInts curve.ssr.toNat (t - curve.rho.toNat)

/-- The rules that compare a checkpoint with the last one, by a power of the
integers as they are. -/
def checkProgressOfInts (curve : RedemptionRate) (rho chi : Int) :
    Except Ray.PowerError (Logged (Except CurveError Unit)) :=
  if curve.rho.toNat = 0 then .ok (pure (.ok ()))
  else if rho < curve.rho.toNat then .ok (pure (.error (.rhoDecreased rho curve.rho.toNat)))
  else if chi < curve.chi.toNat then .ok (pure (.error (.chiDecreased chi curve.chi.toNat)))
  else if curve.maxSsr.toNat = 0 then .ok (pure (.ok ()))
  else do
    let greatest ← curve.maxChi rho
    return do
      match ← greatest with
      | none => return .error (.growthTooWide (rho - curve.rho.toNat))
      | some greatest =>
        return if greatest < chi then .error (.chiGrowthExceeded chi greatest) else .ok ()

variable {curve : RedemptionRate}

theorem conversionRateOfInts_eq_ok (t : Int) :
    curve.conversionRateOfInts t = .ok (curve.conversionRate t) := by
  unfold conversionRateOfInts conversionRate
  split
  · rfl
  · split
    · rfl
    · exact indexOfInts_eq_ok _ (by omega)

theorem checkProgressOfInts_eq_ok (rho chi : Int) :
    curve.checkProgressOfInts rho chi = .ok (curve.checkProgress rho chi) := by
  unfold checkProgressOfInts checkProgress
  split
  · rfl
  · split
    · rfl
    · rename_i hrho
      rw [maxChi_eq_ok (by omega)]
      split
      · rfl
      · split <;> rfl

end RedemptionRate

/-! ## Causes -/

namespace CurveError

/-- Every cause is a failure of a curve operation. -/
theorem swapError_mem_lineage (cause : CurveError) : .swapError ∈ cause.failure.lineage := by
  cases cause <;> simp [failure, Failure.lineage, Failure.group?]

theorem told_eq_ok_iff {cause : CurveError} :
    cause.told = .ok cause.message ↔ ∀ value ∈ cause.integers, Text.isWritable value := by
  simp [told, Text.tell_eq_ok_iff, Text.isWritable_iff]

end CurveError

namespace RedemptionRate

variable {curve : RedemptionRate} {ssr rho chi now : Int} {cause : CurveError}

theorem isWritable_of_validate {timestamp : Option Int}
    (ht : ∀ t ∈ timestamp, Text.isWritable t)
    (h : (curve.validate timestamp).value = .error cause) :
    ∀ value ∈ cause.integers, Text.isWritable value := by
  cases timestamp with
  | none =>
    cases h
    simp [CurveError.integers]
  | some t =>
    simp only [validate] at h
    split at h
    · cases h
      simp [CurveError.integers]
    · simp only [Logged.value_bind] at h
      split at h
      · cases h
        simpa [CurveError.integers] using ht t rfl
      · cases h
        simp [CurveError.integers]
      · cases h

section Given

variable (hssr : Text.isWritable ssr) (hrho : Text.isWritable rho) (hchi : Text.isWritable chi)
  (hnow : Text.isWritable now)

include hssr hrho hnow in
theorem isWritable_of_checkLimits (h : curve.checkLimits ssr rho now = .error cause) :
    ∀ value ∈ cause.integers, Text.isWritable value := by
  unfold checkLimits at h
  split at h
  · cases h
    simp [CurveError.integers, hrho, hnow]
  · split at h
    · cases h
      simp [CurveError.integers, hssr]
    · split at h
      · cases h
        simp [CurveError.integers, hssr]
      · cases h

include hrho hchi in
theorem isWritable_of_checkProgress (h : (curve.checkProgress rho chi).value = .error cause) :
    ∀ value ∈ cause.integers, Text.isWritable value := by
  unfold checkProgress at h
  split at h
  · cases h
  · split at h
    · cases h
      simp [CurveError.integers, hrho]
    · rename_i hle
      split at h
      · cases h
        simp [CurveError.integers, hchi]
      · split at h
        · cases h
        · simp only [Logged.value_bind] at h
          split at h
          · cases h
            -- the seconds since the last checkpoint have no more digits than the time
            have hseconds : Text.isWritable (rho - curve.rho.toNat) := by
              rw [Text.isWritable_iff] at hrho ⊢
              omega
            simpa [CurveError.integers] using hseconds
          · simp only [Logged.value_pure] at h
            split at h
            · cases h
              simp [CurveError.integers, hchi]
            · cases h

include hssr hrho hchi hnow in
theorem isWritable_of_setRates (h : (curve.setRates ssr rho chi now).value = .error cause) :
    ∀ value ∈ cause.integers, Text.isWritable value := by
  have hpropose : curve.propose ⟨ssr, rho, chi, now⟩ = .error cause := h
  rw [propose_eq] at hpropose
  obtain hlimits | ⟨_, -, hrest⟩ := bind_eq_error_iff.1 hpropose
  · exact isWritable_of_checkLimits hssr hrho hnow hlimits
  obtain hprogress | ⟨_, -, hrates⟩ := bind_eq_error_iff.1 hrest
  · exact isWritable_of_checkProgress hrho hchi hprogress
  · obtain ⟨field, value, hvalue, rfl⟩ := eq_fieldRange_of_withRates hrates
    simp only [List.mem_cons, List.not_mem_nil, or_false] at hvalue
    rcases hvalue with rfl | rfl | rfl <;> simp [CurveError.integers, *]

end Given

end RedemptionRate

namespace Curve

theorem isWritable_of_validate {curve : Curve} {timestamp : Option Int} {cause : CurveError}
    (ht : ∀ t ∈ timestamp, Text.isWritable t)
    (h : (curve.validate timestamp).value = .error cause) :
    ∀ value ∈ cause.integers, Text.isWritable value := by
  cases curve with
  | constantPrice record =>
    simp only [validate, ConstantPrice.validate, Logged.value_pure] at h
    split at h
    · cases h
      simp [CurveError.integers]
    · cases h
  | redemptionRate record => exact RedemptionRate.isWritable_of_validate ht h

theorem isWritable_of_unpack {bytes : List UInt8} {cause : CurveError}
    (h : unpack bytes = .error cause) : ∀ value ∈ cause.integers, Text.isWritable value := by
  have hreading := reading bytes
  rw [h] at hreading
  cases hreading with
  | tooShort short =>
    have hsize : Text.isWritable size := Text.isWritable_of_le_wideMax (n := size) (by decide)
    simpa [CurveError.integers] using hsize
  | unknownTag enough first zero one => simp [CurveError.integers]

end Curve

/-! ## Refusals -/

/-- What is refused is refused for a failure of a curve operation, which can be told
if the given integers can; and so can whatever failed on the way. -/
def Logged.RefusesInWords {α : Type} (answer : Logged (Except CurveError α))
    (given : List Int) : Prop :=
  answer.Told ∧ ∀ cause, answer.value = .error cause →
    .swapError ∈ cause.failure.lineage ∧
      ((∀ value ∈ given, Text.isWritable value) → cause.told = .ok cause.message)

/-- It is enough to look at the integers of a cause. -/
theorem Logged.refusesInWords_of_integers {α : Type} {answer : Logged (Except CurveError α)}
    {given : List Int} (htold : answer.Told)
    (h : (∀ value ∈ given, Text.isWritable value) → ∀ cause, answer.value = .error cause →
      ∀ value ∈ cause.integers, Text.isWritable value) : answer.RefusesInWords given :=
  ⟨htold, fun cause hcause => ⟨cause.swapError_mem_lineage,
    fun hgiven => CurveError.told_eq_ok_iff.2 (h hgiven cause hcause)⟩⟩

namespace Engine

variable (engine : Engine)

theorem conversionRate_refusesInWords (t : Int) :
    (engine.conversionRate t).RefusesInWords [] := by
  obtain ⟨curve, config⟩ := engine
  cases curve with
  | constantPrice record =>
    refine Logged.refusesInWords_of_integers (Logged.told_pure _) fun _ cause h => ?_
    cases h
    simp [CurveError.integers]
  | redemptionRate record =>
    refine Logged.refusesInWords_of_integers ?_ fun _ cause h => ?_
    · exact Logged.told_map.2 (told_ask (record.told_conversionRate t) (by simp))
    · cases h

theorem validate_refusesInWords (timestamp : Option Int) :
    (engine.validate timestamp).RefusesInWords
      (timestamp.toList ++ engine.config.maxRateDuration.toList) := by
  refine Logged.refusesInWords_of_integers ?_ fun hgiven cause h => ?_
  · unfold Engine.validate
    refine Logged.told_bind.2 ⟨told_checkDuration engine timestamp, ?_⟩
    split
    · simp
    · exact engine.curve.told_validate timestamp
  · simp only [List.mem_append, Option.mem_toList, or_imp, forall_and] at hgiven
    by_cases hreach : engine.InReach timestamp
    · rw [validate_of_inReach hreach] at h
      exact Curve.isWritable_of_validate hgiven.1 h
    · obtain ⟨bound, hbound, hout⟩ := exists_bound_of_not_inReach hreach
      rw [value_validate_of_not_inReach hbound hout] at h
      cases h
      simpa [CurveError.integers] using hgiven.2 bound hbound

theorem updateRates_refusesInWords (ssr rho chi now : Int) :
    (engine.updateRates ssr rho chi now).RefusesInWords [ssr, rho, chi, now] := by
  obtain ⟨curve, config⟩ := engine
  cases curve with
  | constantPrice record =>
    refine Logged.refusesInWords_of_integers (Logged.told_pure _) fun _ cause h => ?_
    cases h
    simp [CurveError.integers]
  | redemptionRate record =>
    simp only [updateRates, rateRecord, Curve.rateRecord?]
    refine Logged.refusesInWords_of_integers ?_ fun hgiven cause h => ?_
    · refine Logged.told_bind.2 ⟨record.told_setRates _ _ _ _, ?_⟩
      split <;> simp [Event.told]
    · simp only [Logged.value_bind] at h
      simp only [List.forall_mem_cons] at hgiven
      obtain ⟨hssr, hrho, hchi, hnow, -⟩ := hgiven
      split at h
      · rename_i hcause
        cases h
        exact RedemptionRate.isWritable_of_setRates hssr hrho hchi hnow hcause
      · cases h

theorem updateStored_refusesInWords (bytes : List UInt8) (ssr rho chi now : Int) :
    (updateStored bytes ssr rho chi now).RefusesInWords [ssr, rho, chi, now] := by
  unfold updateStored
  split
  · rename_i cause hcause
    refine Logged.refusesInWords_of_integers (Logged.told_pure _) fun _ _ h => ?_
    cases h
    obtain hcause | ⟨_, -, hcurve⟩ := bind_eq_error_iff.1 hcause
    · exact Curve.isWritable_of_unpack hcause
    · cases hcurve
  · rename_i engine _
    obtain ⟨htold, hrefuses⟩ := engine.updateRates_refusesInWords ssr rho chi now
    refine ⟨by simp [htold], fun cause h => hrefuses cause ?_⟩
    simp only [Logged.value_bind, Logged.value_pure] at h
    cases hvalue : (engine.updateRates ssr rho chi now).value with
    | error cause' =>
      rw [hvalue] at h
      cases h
      rfl
    | ok next =>
      rw [hvalue] at h
      cases h

/-- Whatever integers an engine is given that can be written, each of its failures
ends as a missing answer or as a cause, and can be told. -/
structure FailuresTold (engine : Engine) : Prop where
  swap : ∀ source direction timestamp, Text.isWritable source →
    (engine.swap source direction timestamp).Told
  deposit : ∀ source reserveA reserveB supply direction timestamp, Text.isWritable source →
    Text.isWritable reserveA → Text.isWritable reserveB → Text.isWritable supply →
      (engine.deposit source reserveA reserveB supply direction timestamp).Told
  withdraw : ∀ source reserveA reserveB supply direction rounding timestamp,
    Text.isWritable source → Text.isWritable reserveA → Text.isWritable reserveB →
      Text.isWritable supply →
        (engine.withdraw source reserveA reserveB supply direction rounding timestamp).Told
  share : ∀ poolTokens supply reserveA reserveB rounding timestamp,
    Text.isWritable poolTokens → Text.isWritable supply → Text.isWritable reserveA →
      Text.isWritable reserveB →
        (engine.share poolTokens supply reserveA reserveB rounding timestamp).Told
  normalizedValue : ∀ reserveA reserveB timestamp, Text.isWritable reserveA →
    Text.isWritable reserveB → (engine.normalizedValue reserveA reserveB timestamp).Told
  conversionRate : ∀ timestamp, (engine.conversionRate timestamp).RefusesInWords []
  validate : ∀ timestamp, (engine.validate timestamp).RefusesInWords
    (timestamp.toList ++ engine.config.maxRateDuration.toList)
  updateRates : ∀ ssr rho chi now,
    (engine.updateRates ssr rho chi now).RefusesInWords [ssr, rho, chi, now]

theorem failuresTold : engine.FailuresTold where
  swap source direction timestamp hsource :=
    told_ask (Curve.told_of_priceAt fun _ hprice hscale =>
      Price.told_swap hprice hscale hsource direction) (by simp [Event.told])
  deposit source reserveA reserveB supply direction timestamp hsource hA hB hsupply :=
    told_ask (Curve.told_of_priceAt fun _ hprice hscale =>
      Price.told_poolTokens hprice hscale hsource hA hB hsupply direction .floor)
      (by simp [Event.told])
  withdraw source reserveA reserveB supply direction rounding timestamp hsource hA hB hsupply :=
    told_ask (Curve.told_of_priceAt fun _ hprice hscale =>
      Price.told_poolTokens hprice hscale hsource hA hB hsupply direction rounding)
      (by simp [Event.told])
  share poolTokens supply reserveA reserveB rounding timestamp htokens hsupply hA hB :=
    told_ask (Curve.told_share htokens hsupply hA hB rounding) (by simp [Event.told])
  normalizedValue reserveA reserveB timestamp hA hB :=
    told_ask (Curve.told_of_priceAt fun _ hprice hscale =>
      Price.told_normalizedValue hprice hscale hA hB) (by simp)
  conversionRate := engine.conversionRate_refusesInWords
  validate := engine.validate_refusesInWords
  updateRates := engine.updateRates_refusesInWords

/-- A failure ends as a missing answer or as the failure of a curve operation, and
each is told whenever the given integers can be written. No power is taken of
integers for which it is not defined, and every answer fits the width that is
stored. -/
theorem failures_end_inside :
    (∀ engine : Engine, engine.AnswersFit ∧ engine.FailuresTold) ∧
    (∀ bytes ssr rho chi now,
      (updateStored bytes ssr rho chi now).RefusesInWords [ssr, rho, chi, now]) ∧
    ∀ record : RedemptionRate,
      (∀ t, record.conversionRateOfInts t = .ok (record.conversionRate t)) ∧
      ∀ rho chi, record.checkProgressOfInts rho chi = .ok (record.checkProgress rho chi) :=
  ⟨fun engine => ⟨engine.answersFit, engine.failuresTold⟩, updateStored_refusesInWords,
    fun _ => ⟨RedemptionRate.conversionRateOfInts_eq_ok,
      RedemptionRate.checkProgressOfInts_eq_ok⟩⟩

/-- Of more tokens than there are nothing is swapped, and the failure is told with
all its digits. A time out of reach is refused with the bound. -/
theorem failures_end_inside_initial :
    let engine : Engine := ⟨.redemptionRate .initial, ⟨some 60, true⟩⟩
    let source : Int := 10 ^ 4000
    (engine.swap 10 .aToB (some 60)).value = some ⟨10, 10⟩ ∧ (10 : Int) ≤ 10 ∧
    Text.isWritable source ∧ (engine.swap source .aToB (some 60)).value = none ∧
    (engine.swap source .aToB (some 60)).Told ∧
    (engine.validate (some 61)).value = .error (.durationExceeded 60) ∧
    Failure.swapError ∈ (CurveError.durationExceeded 60).failure.lineage ∧
    (CurveError.durationExceeded 60).told = .ok "More than 60s since the last checkpoint" := by
  intro engine source
  have hswap : (engine.swap 10 .aToB (some 60)).value = some ⟨10, 10⟩ := by decide +kernel
  have hsource : Text.isWritable source := by decide +kernel
  have hnone : (engine.swap source .aToB (some 60)).value = none := by decide +kernel
  have hrefused : (engine.validate (some 61)).value = .error (.durationExceeded 60) := by
    decide +kernel
  obtain ⟨hengines, -, -⟩ := failures_end_inside
  obtain ⟨hfit, htold⟩ := hengines engine
  obtain ⟨⟨-, hle, -⟩, -⟩ := hfit.swap 10 .aToB (some 60) _ hswap
  obtain ⟨hlineage, hwords⟩ := (htold.validate (some 61)).2 _ hrefused
  exact ⟨hswap, hle, hsource, hnone, htold.swap source .aToB (some 60) hsource, hrefused,
    hlineage, hwords (by decide +kernel)⟩

end Engine

end PegPool
