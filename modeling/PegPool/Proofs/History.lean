import PegPool.Proofs.Checkpoint
import PegPool.Session

/-!
# Records over time

A record lives through proposals, of which some are accepted and the others
leave it as it was. What holds of it after any number of proposals is proved
from one accepted proposal. Two facts carry everything: the last checkpoint
never moves backwards once there is one, and the index keeps the pace of the
greatest factor, measured with the rounding of each second.
-/

namespace PegPool

namespace RedemptionRate

/-- A refused proposal leaves the record as it was. -/
def after (curve : RedemptionRate) (p : Proposal) : RedemptionRate :=
  match curve.propose p with
  | .ok updated => updated
  | .error _ => curve

/-- The record after proposals, one after the other. -/
def afterAll (curve : RedemptionRate) (ps : List Proposal) : RedemptionRate :=
  ps.foldl after curve

variable {curve old mid new : RedemptionRate} {p : Proposal}

theorem after_of_propose (h : old.propose p = .ok new) : old.after p = new := by
  rw [after, h]

theorem after_eq_or_follows (curve : RedemptionRate) (p : Proposal) :
    curve.after p = curve ∨ curve.Follows p (curve.after p) := by
  cases h : curve.propose p with
  | error cause => exact .inl (by rw [after, h])
  | ok updated => exact .inr (after_of_propose h ▸ propose_eq_ok_iff_follows.1 h)

theorem afterAll_append (curve : RedemptionRate) (ps qs : List Proposal) :
    curve.afterAll (ps ++ qs) = (curve.afterAll ps).afterAll qs :=
  List.foldl_append

/-- What each accepted proposal keeps is kept by any number of proposals. -/
theorem afterAll_induction {motive : RedemptionRate → Prop} (ps : List Proposal)
    (start : motive curve)
    (step : ∀ old p new, motive old → Follows old p new → motive new) :
    motive (curve.afterAll ps) := by
  induction ps generalizing curve with
  | nil => exact start
  | cons p ps ih =>
    apply ih
    rcases after_eq_or_follows curve p with h | h
    · exact h.symm ▸ start
    · exact step curve p _ start h

/-! ## No way back -/

/-- One record comes after another: the unit and the bound are the same, and
once there has been a checkpoint, time and index do not run backwards. -/
structure Later (old new : RedemptionRate) : Prop where
  ray_eq : new.ray = old.ray
  maxSsr_eq : new.maxSsr = old.maxSsr
  rho_le : old.rho.toNat ≠ 0 → old.rho.toNat ≤ new.rho.toNat
  chi_le : old.rho.toNat ≠ 0 → old.chi.toNat ≤ new.chi.toNat

theorem Later.refl (curve : RedemptionRate) : Later curve curve :=
  ⟨rfl, rfl, fun _ => Nat.le_refl _, fun _ => Nat.le_refl _⟩

theorem Later.rho_ne_zero (h : Later old new) (hrho : old.rho.toNat ≠ 0) :
    new.rho.toNat ≠ 0 := by
  have := h.rho_le hrho
  omega

theorem Later.trans (h : Later old mid) (h' : Later mid new) : Later old new where
  ray_eq := h'.ray_eq.trans h.ray_eq
  maxSsr_eq := h'.maxSsr_eq.trans h.maxSsr_eq
  rho_le hrho := (h.rho_le hrho).trans (h'.rho_le (h.rho_ne_zero hrho))
  chi_le hrho := (h.chi_le hrho).trans (h'.chi_le (h.rho_ne_zero hrho))

theorem Follows.later (h : Follows old p new) : Later old new :=
  ⟨h.ray_eq, h.maxSsr_eq, h.rho_le_rho, h.chi_le_chi⟩

theorem later_afterAll (curve : RedemptionRate) (ps : List Proposal) :
    Later curve (curve.afterAll ps) :=
  afterAll_induction ps (.refl curve) fun _ _ _ hold h => hold.trans h.later

/-! ## The range of the factor -/

/-- The factor is at least one, and within the bound if there is one. -/
structure InRange (curve : RedemptionRate) : Prop where
  ray_le_ssr : curve.ray.toNat ≤ curve.ssr.toNat
  ssr_le_maxSsr : curve.maxSsr.toNat ≠ 0 → curve.ssr.toNat ≤ curve.maxSsr.toNat

theorem Follows.inRange (h : Follows old p new) : InRange new where
  ray_le_ssr := h.ray_eq ▸ h.ray_le_ssr
  ssr_le_maxSsr := h.maxSsr_eq ▸ h.ssr_le_maxSsr

theorem InRange.afterAll (h : InRange curve) (ps : List Proposal) :
    InRange (curve.afterAll ps) :=
  afterAll_induction ps h fun _ _ _ _ h => h.inRange

/-- The bound of growth, with the power that it takes. -/
theorem Follows.chi_le_power (h : Follows old p new) (hrho : old.rho.toNat ≠ 0)
    (hmax : old.maxSsr.toNat ≠ 0) : ∃ growth,
      (Ray.power old.ray.toNat old.maxSsr.toNat
        (new.rho.toNat - old.rho.toNat)).value = some growth ∧
      new.chi.toNat ≤ growth * old.chi.toNat / old.ray.toNat := by
  obtain ⟨greatest, hvalue, hle⟩ := h.chi_le_index hrho hmax
  obtain ⟨-, growth, hgrowth, -, rfl⟩ := value_indexAfter_eq_some_iff.1 hvalue
  exact ⟨growth, hgrowth, hle⟩

end RedemptionRate

/-! ## Proposals to an engine -/

namespace Engine

open RedemptionRate

/-- A proposal as a request to an engine. -/
def ofProposal (p : Proposal) : Request := .updateRates p.ssr p.rho p.chi p.now

theorem step_ofProposal (curve : RedemptionRate) (config : Config) (p : Proposal) :
    ((⟨.redemptionRate curve, config⟩ : Engine).step (ofProposal p)).2
      = ⟨.redemptionRate (curve.after p), config⟩ := by
  unfold after propose
  simp only [ofProposal, step, reply, updateRates, rateRecord, Curve.rateRecord?,
    Logged.value_bind]
  cases (curve.setRates p.ssr p.rho p.chi p.now).value <;> rfl

/-- An engine goes through the records that its record goes through. -/
theorem run_ofProposal (curve : RedemptionRate) (config : Config) (ps : List Proposal) :
    ((⟨.redemptionRate curve, config⟩ : Engine).run (ps.map ofProposal)).2
      = ⟨.redemptionRate (curve.afterAll ps), config⟩ := by
  induction ps generalizing curve with
  | nil => rfl
  | cons p ps ih =>
    rw [List.map_cons, run]
    simp only [step_ofProposal]
    exact ih (curve.after p)

end Engine

namespace RedemptionRate

/-! ## Records to start from -/

theorem two_mul_one_le_narrowMax : 2 * Ray.one ≤ narrowMax := by decide

/-- A record whose greatest factor doubles the index each second. -/
def doubling : RedemptionRate :=
  { initial with maxSsr := ⟨2 * Ray.one, two_mul_one_le_narrowMax⟩ }

/-- A record with room between its factor and its bound. -/
def roomy : RedemptionRate where
  ray := ⟨100, by decide⟩
  maxSsr := ⟨170, by decide⟩
  ssr := ⟨130, by decide⟩
  rho := ⟨5, by decide⟩
  chi := ⟨90, by decide⟩

/-! ## The rules over time -/

/-- Whatever is proposed, the record keeps its rules. `earlier` leads to any
record of a history, and `later` from there to any other. -/
theorem afterAll_keeps_rules (start : RedemptionRate) (earlier later : List Proposal) :
    let middle := start.afterAll earlier
    let last := middle.afterAll later
    (last.ray = start.ray ∧ last.maxSsr = start.maxSsr) ∧
    (∀ field ∈ [last.ray, last.maxSsr, last.ssr, last.rho, last.chi],
      field.toNat < 2 ^ 128) ∧
    (middle.rho.toNat ≠ 0 → last.rho.toNat ≠ 0 ∧
      middle.rho.toNat ≤ last.rho.toNat ∧ middle.chi.toNat ≤ last.chi.toNat) ∧
    (∀ p new, middle.propose p = .ok new →
      new = start.afterAll (earlier ++ [p]) ∧
      ((new.ssr.toNat : Int) = p.ssr ∧ (new.rho.toNat : Int) = p.rho ∧
        (new.chi.toNat : Int) = p.chi) ∧
      (new.rho.toNat : Int) ≤ p.now ∧
      InRange (start.afterAll (earlier ++ p :: later)) ∧
      (middle.rho.toNat ≠ 0 → middle.maxSsr.toNat ≠ 0 → ∃ growth,
        (Ray.power middle.ray.toNat middle.maxSsr.toNat
          (new.rho.toNat - middle.rho.toNat)).value = some growth ∧
        new.chi.toNat ≤ growth * middle.chi.toNat / middle.ray.toNat)) ∧
    ∀ config, ((⟨.redemptionRate start, config⟩ : Engine).run
      ((earlier ++ later).map Engine.ofProposal)).2 = ⟨.redemptionRate last, config⟩ := by
  intro middle last
  have hmiddle : Later start middle := later_afterAll start earlier
  have hlast : Later middle last := later_afterAll middle later
  refine ⟨⟨?_, ?_⟩, ?_, ?_, ?_, ?_⟩
  · exact (hmiddle.trans hlast).ray_eq
  · exact (hmiddle.trans hlast).maxSsr_eq
  · intro field _
    have hle := field.toNat_le
    exact Nat.lt_of_le_of_lt hle (by decide)
  · intro hrho
    exact ⟨hlast.rho_ne_zero hrho, hlast.rho_le hrho, hlast.chi_le hrho⟩
  · intro p new hnew
    have hfollows := propose_eq_ok_iff_follows.1 hnew
    -- the range of the factor holds from this record on, whatever `later` is
    have hafter : middle.after p = new := after_of_propose hnew
    have hrange : InRange (start.afterAll (earlier ++ p :: later)) := by
      rw [afterAll_append]
      exact (hafter ▸ hfollows.inRange : InRange (middle.after p)).afterAll later
    refine ⟨?_, ⟨hfollows.ssr_eq, hfollows.rho_eq, hfollows.chi_eq⟩, hfollows.rho_le_now,
      hrange, fun hrho hmax => hfollows.chi_le_power hrho hmax⟩
    rw [afterAll_append]
    exact hafter.symm
  · intro config
    rw [Engine.run_ofProposal, afterAll_append]

/-- The first checkpoint, one that goes back in time and is refused, and one
that uses the whole bound. -/
theorem afterAll_keeps_rules_doubling :
    let middle := doubling.afterAll
      [⟨2 * Ray.one, 10, Ray.one, 10⟩, ⟨2 * Ray.one, 9, Ray.one, 20⟩]
    middle.rho.toNat ≠ 0 ∧ middle.maxSsr.toNat ≠ 0 ∧
      ∃ new, middle.propose ⟨2 * Ray.one, 13, 8 * Ray.one, 20⟩ = .ok new ∧
        InRange new ∧ ∃ growth,
          (Ray.power middle.ray.toNat middle.maxSsr.toNat
            (new.rho.toNat - middle.rho.toNat)).value = some growth ∧
          new.chi.toNat ≤ growth * middle.chi.toNat / middle.ray.toNat := by
  intro middle
  have hrho : middle.rho.toNat ≠ 0 := by decide +kernel
  have hmax : middle.maxSsr.toNat ≠ 0 := by decide +kernel
  have hnew : middle.propose ⟨2 * Ray.one, 13, 8 * Ray.one, 20⟩
      = .ok (middle.after ⟨2 * Ray.one, 13, 8 * Ray.one, 20⟩) := by decide +kernel
  have hrules := afterAll_keeps_rules doubling
    [⟨2 * Ray.one, 10, Ray.one, 10⟩, ⟨2 * Ray.one, 9, Ray.one, 20⟩] []
  obtain ⟨hafter, -, -, hrange, hgrowth⟩ := hrules.2.2.2.1 _ _ hnew
  exact ⟨hrho, hmax, _, hnew, hafter ▸ hrange, hgrowth hrho hmax⟩

end RedemptionRate

end PegPool
