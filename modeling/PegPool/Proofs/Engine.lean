import PegPool.Engine

/-!
# Engines and their bound

An engine asks its curve, unless the index would have to be projected further
than the bound allows. So each answer is the curve's own answer or none, and
which of the two it is depends on the curve, the bound and the time alone.
-/

namespace PegPool

/-! ## Times in reach -/

namespace Curve

/-- A time is in reach if the index is projected to it by no more seconds than
`bound`. A fixed price is in reach of every time, and where no time is told
nothing is projected. -/
def InReach (curve : Curve) (bound : Int) (timestamp : Option Int) : Prop :=
  ∀ record ∈ curve.rateRecord?, ∀ t ∈ timestamp, t - record.rho.toNat ≤ bound

instance (curve : Curve) (bound : Int) (timestamp : Option Int) :
    Decidable (curve.InReach bound timestamp) :=
  inferInstanceAs (Decidable (∀ record ∈ curve.rateRecord?, ∀ t ∈ timestamp,
    t - record.rho.toNat ≤ bound))

@[simp] theorem inReach_none (curve : Curve) (bound : Int) : curve.InReach bound none := by
  simp [InReach]

@[simp] theorem inReach_constantPrice (record : ConstantPrice) (bound : Int)
    (timestamp : Option Int) : (constantPrice record).InReach bound timestamp := by
  simp [InReach, rateRecord?]

@[simp] theorem inReach_redemptionRate_some {record : RedemptionRate} {bound t : Int} :
    (redemptionRate record).InReach bound (some t) ↔ t - record.rho.toNat ≤ bound := by
  simp [InReach, rateRecord?]

end Curve

namespace Engine

/-- A time is in reach of an engine if its bound, where it has one, allows it. -/
def InReach (engine : Engine) (timestamp : Option Int) : Prop :=
  ∀ bound ∈ engine.config.maxRateDuration, engine.curve.InReach bound timestamp

@[simp] theorem inReach_none (engine : Engine) : engine.InReach none := by
  simp [InReach]

theorem inReach_of_maxRateDuration_eq_none {engine : Engine}
    (h : engine.config.maxRateDuration = none) (timestamp : Option Int) :
    engine.InReach timestamp := by
  simp [InReach, h]

/-- What is out of reach is out of reach of a bound. -/
theorem exists_bound_of_not_inReach {engine : Engine} {timestamp : Option Int}
    (h : ¬ engine.InReach timestamp) : ∃ bound, engine.config.maxRateDuration = some bound ∧
      ¬ engine.curve.InReach bound timestamp := by
  simpa [InReach] using h

/-! ## The condition -/

variable {engine : Engine} {timestamp : Option Int}

theorem checkDuration_of_inReach (h : engine.InReach timestamp) :
    engine.checkDuration timestamp = pure (.ok ()) := by
  unfold checkDuration
  split
  · rename_i hcurve hbound
    have hreach := h _ hbound
    rw [hcurve, Curve.inReach_redemptionRate_some] at hreach
    rw [if_pos hreach]
  · rfl

theorem value_checkDuration_of_not_inReach {bound : Int}
    (hbound : engine.config.maxRateDuration = some bound)
    (h : ¬ engine.curve.InReach bound timestamp) :
    (engine.checkDuration timestamp).value = .error (.durationExceeded bound) := by
  obtain ⟨curve, duration, log⟩ := engine
  simp only at hbound h
  subst hbound
  cases curve with
  | constantPrice record => simp at h
  | redemptionRate record =>
    cases timestamp with
    | none => simp at h
    | some t =>
      rw [Curve.inReach_redemptionRate_some] at h
      simp [checkDuration, h]

/-! ## Questions under the condition -/

section Ask

variable {α : Type} {answer : Logged (Option α)} {refusal : Option Event}

theorem value_ask_of_inReach (h : engine.InReach timestamp) :
    (engine.ask timestamp answer refusal).value = answer.value := by
  unfold ask
  simp only [Logged.value_bind, checkDuration_of_inReach h, Logged.value_pure]
  -- a missing answer is reported, and reporting changes no answer
  split <;> rfl

theorem value_ask_of_not_inReach (h : ¬ engine.InReach timestamp) :
    (engine.ask timestamp answer refusal).value = none := by
  obtain ⟨bound, hbound, hreach⟩ := exists_bound_of_not_inReach h
  unfold ask
  simp [value_checkDuration_of_not_inReach hbound hreach]

/-- There is an answer exactly when the time is in reach and the curve has one. -/
theorem value_ask_eq_some_iff {x : α} : (engine.ask timestamp answer refusal).value = some x ↔
    engine.InReach timestamp ∧ answer.value = some x := by
  by_cases h : engine.InReach timestamp
  · simp [value_ask_of_inReach h, h]
  · simp [value_ask_of_not_inReach h, h]

end Ask

theorem validate_of_inReach (h : engine.InReach timestamp) :
    engine.validate timestamp = engine.curve.validate timestamp := by
  unfold validate
  rw [checkDuration_of_inReach h]
  rfl

theorem value_validate_of_not_inReach {bound : Int}
    (hbound : engine.config.maxRateDuration = some bound)
    (h : ¬ engine.curve.InReach bound timestamp) :
    (engine.validate timestamp).value = .error (.durationExceeded bound) := by
  unfold validate
  simp [value_checkDuration_of_not_inReach hbound h]

end Engine

end PegPool
