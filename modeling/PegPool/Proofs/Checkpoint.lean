import PegPool.Proofs.Index

/-!
# Accepted checkpoints

A checkpoint is proposed with the time at which it is, and the rules either
accept it or name the first that is broken. Here everything that acceptance
says is collected in one relation between the record before and the one after,
so that no later argument has to look at the rules again.
-/

namespace PegPool

theorem Narrow.ofInt?_eq_some_iff {value : Int} {n : Narrow} :
    ofInt? value = some n ↔ (n.toNat : Int) = value := by
  constructor
  · exact toNat_of_ofInt?
  · rintro rfl
    exact ofInt?_toNat n

theorem Narrow.ofOffered_integer_eq_ok_iff {field : String} {value : Int} {n : Narrow} :
    ofOffered field (.integer value) = .ok n ↔ (n.toNat : Int) = value := by
  rw [← ofInt?_eq_some_iff]
  cases h : ofInt? value <;> simp [ofOffered, h]

theorem Narrow.ofOffered_integer_eq_error_iff {field : String} {value : Int}
    {cause : CurveError} : ofOffered field (.integer value) = .error cause ↔
      (value < 0 ∨ (narrowMax : Int) < value) ∧ cause = .fieldRange field value := by
  rw [← ofInt?_eq_none_iff]
  cases h : ofInt? value <;> simp [ofOffered, h, eq_comm]

/-- A narrow number is a natural number below `2 ^ 128`. -/
theorem Narrow.exists_toNat_eq_iff {value : Int} :
    (∃ n : Narrow, (n.toNat : Int) = value) ↔ 0 ≤ value ∧ value < 2 ^ 128 := by
  have hmax : (narrowMax : Int) + 1 = 2 ^ 128 := by exact_mod_cast narrowMax_add_one
  constructor
  · rintro ⟨n, rfl⟩
    have hn := n.toNat_le
    omega
  · rintro ⟨hnonneg, hlt⟩
    exact ⟨⟨value.toNat, by omega⟩, Int.toNat_of_nonneg hnonneg⟩

namespace RedemptionRate

/-- A checkpoint that is proposed, and the time at which it is. -/
structure Proposal where
  ssr : Int
  rho : Int
  chi : Int
  now : Int
  deriving DecidableEq, Repr

/-- The record after a proposal, or the rule that it breaks. -/
def propose (curve : RedemptionRate) (p : Proposal) : Except CurveError RedemptionRate :=
  (curve.setRates p.ssr p.rho p.chi p.now).value

/-- An accepted proposal: what holds between the record before and the record
after it. The rules of progress bind once there has been a checkpoint. -/
structure Follows (old : RedemptionRate) (p : Proposal) (new : RedemptionRate) : Prop where
  ray_eq : new.ray = old.ray
  maxSsr_eq : new.maxSsr = old.maxSsr
  ssr_eq : (new.ssr.toNat : Int) = p.ssr
  rho_eq : (new.rho.toNat : Int) = p.rho
  chi_eq : (new.chi.toNat : Int) = p.chi
  rho_le_now : (new.rho.toNat : Int) ≤ p.now
  ray_le_ssr : old.ray.toNat ≤ new.ssr.toNat
  ssr_le_maxSsr : old.maxSsr.toNat ≠ 0 → new.ssr.toNat ≤ old.maxSsr.toNat
  rho_le_rho : old.rho.toNat ≠ 0 → old.rho.toNat ≤ new.rho.toNat
  chi_le_chi : old.rho.toNat ≠ 0 → old.chi.toNat ≤ new.chi.toNat
  chi_le_index : old.rho.toNat ≠ 0 → old.maxSsr.toNat ≠ 0 → ∃ greatest,
    (old.indexAfter old.maxSsr.toNat (new.rho.toNat - old.rho.toNat)).value = some greatest ∧
      new.chi.toNat ≤ greatest

/-! ## The rules, one group after the other -/

variable {old new : RedemptionRate}

theorem checkLimits_eq_ok_iff {ssr rho now : Int} :
    old.checkLimits ssr rho now = .ok () ↔ rho ≤ now ∧ (old.ray.toNat : Int) ≤ ssr ∧
      (old.maxSsr.toNat ≠ 0 → ssr ≤ old.maxSsr.toNat) := by
  unfold checkLimits
  split
  · simp only [reduceCtorEq, false_iff]
    omega
  · split
    · simp only [reduceCtorEq, false_iff]
      omega
    · split
      · simp only [reduceCtorEq, false_iff]
        omega
      · simp only [true_iff]
        omega

theorem checkProgress_eq_ok_iff {rho chi : Int} :
    (old.checkProgress rho chi).value = .ok () ↔ (old.rho.toNat ≠ 0 →
      (old.rho.toNat : Int) ≤ rho ∧ (old.chi.toNat : Int) ≤ chi ∧
        (old.maxSsr.toNat ≠ 0 → ∃ greatest : Nat,
          (old.indexAfter old.maxSsr.toNat (rho - old.rho.toNat).toNat).value = some greatest ∧
            chi ≤ greatest)) := by
  unfold checkProgress
  split
  · simp [*]
  · split
    · simp only [Logged.value_pure, reduceCtorEq, false_iff]
      omega
    · split
      · simp only [Logged.value_pure, reduceCtorEq, false_iff]
        omega
      · split
        · simp only [Logged.value_pure, true_iff]
          omega
        -- only here is an index computed, and it may be missing
        · rename_i hrho hle hchi hmax
          simp only [Logged.value_bind]
          cases (old.indexAfter old.maxSsr.toNat (rho - old.rho.toNat).toNat).value with
          | none => simp [hrho, hmax]
          | some greatest =>
            simp only [Logged.value_pure, Option.some.injEq, exists_eq_left']
            split
            · simp only [reduceCtorEq, false_iff]
              omega
            · simp only [true_iff]
              omega

theorem withRates_eq_ok_iff {ssr rho chi : Int} :
    old.withRates ssr rho chi = .ok new ↔ new.ray = old.ray ∧ new.maxSsr = old.maxSsr ∧
      (new.ssr.toNat : Int) = ssr ∧ (new.rho.toNat : Int) = rho ∧
      (new.chi.toNat : Int) = chi := by
  unfold withRates
  simp only [bind_eq_ok_iff, pure_eq_ok_iff, Narrow.ofOffered_integer_eq_ok_iff]
  constructor
  · rintro ⟨s, hs, r, hr, c, hc, rfl⟩
    exact ⟨rfl, rfl, hs, hr, hc⟩
  · rintro ⟨hray, hmax, hs, hr, hc⟩
    refine ⟨new.ssr, hs, new.rho, hr, new.chi, hc, ?_⟩
    rw [← hray, ← hmax]

/-- What a record refuses for its width is one of the three numbers. -/
theorem eq_fieldRange_of_withRates {ssr rho chi : Int} {cause : CurveError}
    (h : old.withRates ssr rho chi = .error cause) :
    ∃ field, ∃ value ∈ [ssr, rho, chi], cause = .fieldRange field value := by
  unfold withRates at h
  obtain h | ⟨_, -, h⟩ := bind_eq_error_iff.1 h
  · exact ⟨"ssr", ssr, by simp, (Narrow.ofOffered_integer_eq_error_iff.1 h).2⟩
  obtain h | ⟨_, -, h⟩ := bind_eq_error_iff.1 h
  · exact ⟨"rho", rho, by simp, (Narrow.ofOffered_integer_eq_error_iff.1 h).2⟩
  obtain h | ⟨_, -, h⟩ := bind_eq_error_iff.1 h
  · exact ⟨"chi", chi, by simp, (Narrow.ofOffered_integer_eq_error_iff.1 h).2⟩
  · cases h

/-- The width alone decides whether the numbers make a record. -/
theorem exists_withRates_iff {ssr rho chi : Int} :
    (∃ new, old.withRates ssr rho chi = .ok new) ↔
      (0 ≤ ssr ∧ ssr < 2 ^ 128) ∧ (0 ≤ rho ∧ rho < 2 ^ 128) ∧ 0 ≤ chi ∧ chi < 2 ^ 128 := by
  simp only [withRates_eq_ok_iff, ← Narrow.exists_toNat_eq_iff]
  constructor
  · rintro ⟨new, -, -, hssr, hrho, hchi⟩
    exact ⟨⟨_, hssr⟩, ⟨_, hrho⟩, ⟨_, hchi⟩⟩
  · rintro ⟨⟨ssr, hssr⟩, ⟨rho, hrho⟩, ⟨chi, hchi⟩⟩
    exact ⟨{ old with ssr, rho, chi }, rfl, rfl, hssr, hrho, hchi⟩

/-- The rules are asked in this order, and the first that is broken answers. -/
theorem propose_eq (curve : RedemptionRate) (p : Proposal) : curve.propose p = (do
    curve.checkLimits p.ssr p.rho p.now
    (curve.checkProgress p.rho p.chi).value
    curve.withRates p.ssr p.rho p.chi) := by
  unfold propose setRates
  cases curve.checkLimits p.ssr p.rho p.now with
  | error cause => rfl
  | ok _ =>
    simp only [Logged.value_bind]
    cases (curve.checkProgress p.rho p.chi).value <;> rfl

theorem propose_eq_ok_iff {p : Proposal} : old.propose p = .ok new ↔
    old.checkLimits p.ssr p.rho p.now = .ok () ∧
      (old.checkProgress p.rho p.chi).value = .ok () ∧
        old.withRates p.ssr p.rho p.chi = .ok new := by
  rw [propose_eq]
  simp only [bind_eq_ok_iff]
  constructor
  · rintro ⟨_, hlimits, _, hprogress, hrates⟩
    exact ⟨hlimits, hprogress, hrates⟩
  · rintro ⟨hlimits, hprogress, hrates⟩
    exact ⟨(), hlimits, (), hprogress, hrates⟩

/-- The rules together: a proposal leads to a record exactly when the record
follows. -/
theorem propose_eq_ok_iff_follows {p : Proposal} :
    old.propose p = .ok new ↔ old.Follows p new := by
  rw [propose_eq_ok_iff, checkLimits_eq_ok_iff, checkProgress_eq_ok_iff, withRates_eq_ok_iff]
  constructor
  · rintro ⟨⟨hnow, hray, hmax⟩, hprogress, hrayeq, hmaxeq, hssr, hrho, hchi⟩
    -- from here on the integers of the proposal are those of the new record
    rw [← hrho, ← hchi] at hprogress
    refine ⟨hrayeq, hmaxeq, hssr, hrho, hchi, by omega, by omega, by omega, ?_, ?_, ?_⟩
    · intro hne
      have := (hprogress hne).1
      omega
    · intro hne
      have := (hprogress hne).2.1
      omega
    · intro hne hmaxne
      obtain ⟨hle, -, hindex⟩ := hprogress hne
      obtain ⟨greatest, hvalue, hgreatest⟩ := hindex hmaxne
      rw [show ((new.rho.toNat : Int) - old.rho.toNat).toNat
        = new.rho.toNat - old.rho.toNat by omega] at hvalue
      exact ⟨greatest, hvalue, by omega⟩
  · intro h
    have hssr := h.ssr_eq
    have hrho := h.rho_eq
    have hchi := h.chi_eq
    have hnow := h.rho_le_now
    have hray := h.ray_le_ssr
    have hmax := h.ssr_le_maxSsr
    refine ⟨⟨by omega, by omega, by omega⟩, ?_, h.ray_eq, h.maxSsr_eq, hssr, hrho, hchi⟩
    intro hne
    have hrhole := h.rho_le_rho hne
    have hchile := h.chi_le_chi hne
    refine ⟨by omega, by omega, fun hmaxne => ?_⟩
    obtain ⟨greatest, hvalue, hgreatest⟩ := h.chi_le_index hne hmaxne
    rw [show (p.rho - old.rho.toNat).toNat = new.rho.toNat - old.rho.toNat by omega]
    exact ⟨greatest, hvalue, by omega⟩

end RedemptionRate

end PegPool
