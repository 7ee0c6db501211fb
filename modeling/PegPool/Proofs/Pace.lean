import PegPool.Proofs.History

/-!
# The pace of the index

Each checkpoint is compared with the one before, by a rounded power and a
product rounded down. Many small steps can gain a rounding each, so the bound
over a whole history is not the bound of one step. It is an invariant in exact
numbers: after `n` seconds the index is at most the first one times
`(maxSsr * (2 * ray + 1)) ^ n / (2 * ray ^ 2) ^ n`, however the seconds were
split.
-/

namespace PegPool.RedemptionRate

/-- Two spans of bounded growth make one. -/
theorem mul_pow_le_trans {x y z slow fast m n : Nat} (h : y * slow ^ m ≤ x * fast ^ m)
    (h' : z * slow ^ n ≤ y * fast ^ n) : z * slow ^ (m + n) ≤ x * fast ^ (m + n) :=
  calc z * slow ^ (m + n)
      = z * slow ^ n * slow ^ m := by ring
    _ ≤ y * fast ^ n * slow ^ m := Nat.mul_le_mul_right _ h'
    _ = y * slow ^ m * fast ^ n := by ring
    _ ≤ x * fast ^ m * fast ^ n := Nat.mul_le_mul_right _ h
    _ = x * fast ^ (m + n) := by ring

/-- The index reached some seconds after the checkpoint of a record is at most
what the greatest factor compounds to, with the rounding of each second. -/
def Paced (start : RedemptionRate) (seconds index : Nat) : Prop :=
  index * (2 * start.ray.toNat ^ 2) ^ seconds
    ≤ start.chi.toNat * (start.maxSsr.toNat * (2 * start.ray.toNat + 1)) ^ seconds

variable {start old new : RedemptionRate} {p : Proposal}

theorem Paced.trans (h : Later start old) {m n v : Nat} (hold : Paced start m old.chi.toNat)
    (hnew : Paced old n v) : Paced start (m + n) v := by
  unfold Paced at hnew
  rw [h.ray_eq, h.maxSsr_eq] at hnew
  exact mul_pow_le_trans hold hnew

/-- A projection by a factor in the range keeps the pace. -/
theorem paced_of_indexAfter {curve : RedemptionRate} {factor : Narrow}
    (hray : 0 < curve.ray.toNat) (hfactor : curve.ray.toNat ≤ factor.toNat)
    (hmax : factor.toNat ≤ curve.maxSsr.toNat) {n v : Nat}
    (hv : (curve.indexAfter factor.toNat n).value = some v) : Paced curve n v := by
  apply (indexAfter_mul_le hray hfactor hv).trans
  have hbase := Nat.mul_le_mul_right (2 * curve.ray.toNat + 1) hmax
  exact Nat.mul_le_mul_left _ (Nat.pow_le_pow_left hbase n)

theorem Follows.paced (h : Follows old p new) (hray : 0 < old.ray.toNat)
    (hrho : old.rho.toNat ≠ 0) (hmax : old.maxSsr.toNat ≠ 0) :
    Paced old (new.rho.toNat - old.rho.toNat) new.chi.toNat := by
  obtain ⟨greatest, hvalue, hle⟩ := h.chi_le_index hrho hmax
  have hbound := h.ray_le_ssr.trans (h.ssr_le_maxSsr hmax)
  have hpaced := paced_of_indexAfter hray hbound (Nat.le_refl _) hvalue
  exact (Nat.mul_le_mul_right _ hle).trans hpaced

/-- What a history keeps from a record with a checkpoint and a bound on. -/
structure KeepsPace (start curve : RedemptionRate) : Prop where
  later : Later start curve
  inRange : InRange curve
  paced : Paced start (curve.rho.toNat - start.rho.toNat) curve.chi.toNat

theorem KeepsPace.follows (hray : 0 < start.ray.toNat) (hrho : start.rho.toNat ≠ 0)
    (hmax : start.maxSsr.toNat ≠ 0) (hold : KeepsPace start old) (h : Follows old p new) :
    KeepsPace start new where
  later := hold.later.trans h.later
  inRange := h.inRange
  paced := by
    have hold_rho := hold.later.rho_le hrho
    have hne := hold.later.rho_ne_zero hrho
    have hnew_rho := h.rho_le_rho hne
    have hpaced := h.paced (hold.later.ray_eq ▸ hray) hne (hold.later.maxSsr_eq ▸ hmax)
    have hboth := hold.paced.trans hold.later hpaced
    -- the two spans meet at the old checkpoint
    rwa [show old.rho.toNat - start.rho.toNat + (new.rho.toNat - old.rho.toNat)
      = new.rho.toNat - start.rho.toNat by omega] at hboth

theorem keepsPace_afterAll (hrange : InRange start) (hray : 0 < start.ray.toNat)
    (hrho : start.rho.toNat ≠ 0) (hmax : start.maxSsr.toNat ≠ 0) (ps : List Proposal) :
    KeepsPace start (start.afterAll ps) := by
  have hstart : KeepsPace start start := ⟨.refl start, hrange, by simp [Paced]⟩
  exact afterAll_induction ps hstart fun _ _ _ hold h => hold.follows hray hrho hmax h

/-- However updates split the time since a checkpoint, the index quoted at the
end lies between the one at the checkpoint and what the bound compounds to. -/
theorem conversionRate_le_compounded {origin : RedemptionRate} {first : Proposal}
    (hstart : origin.propose first = .ok start) (hray : 1 ≤ start.ray.toNat)
    (hmax : start.maxSsr.toNat ≠ 0) (hrho : start.rho.toNat ≠ 0) (ps : List Proposal)
    {t : Int} (ht : ((start.afterAll ps).rho.toNat : Int) ≤ t) {v : Nat}
    (hv : ((start.afterAll ps).conversionRate t).value = some v) :
    let seconds := (t - start.rho.toNat).toNat
    start.chi.toNat ≤ v ∧ v * (2 * start.ray.toNat ^ 2) ^ seconds
      ≤ start.chi.toNat * (start.maxSsr.toNat * (2 * start.ray.toNat + 1)) ^ seconds := by
  intro seconds
  have hrange := (propose_eq_ok_iff_follows.1 hstart).inRange
  obtain ⟨hlater, hlast, hpaced⟩ := keepsPace_afterAll hrange hray hrho hmax ps
  generalize start.afterAll ps = last at *
  have hlast_ray : 0 < last.ray.toNat := hlater.ray_eq ▸ hray
  rw [conversionRate_eq_indexAfter hlast_ray ht] at hv
  constructor
  · exact (hlater.chi_le hrho).trans (chi_le_indexAfter hlast_ray hlast.ray_le_ssr hv)
  · -- the span after the last checkpoint is checked by nobody: its factor is in the range
    have hlast_max := hlast.ssr_le_maxSsr (hlater.maxSsr_eq ▸ hmax)
    have hquoted := paced_of_indexAfter hlast_ray hlast.ray_le_ssr hlast_max hv
    have hboth := hpaced.trans hlater hquoted
    have hlast_rho := hlater.rho_le hrho
    rwa [show last.rho.toNat - start.rho.toNat + (t - last.rho.toNat).toNat = seconds by
      omega] at hboth

/-- Ten seconds at the greatest factor, after a refused and an accepted update. -/
theorem conversionRate_le_compounded_doubling :
    let start := doubling.after ⟨2 * Ray.one, 10, Ray.one, 10⟩
    let updates : List Proposal :=
      [⟨2 * Ray.one, 9, Ray.one, 20⟩, ⟨2 * Ray.one, 13, 8 * Ray.one, 20⟩]
    doubling.propose ⟨2 * Ray.one, 10, Ray.one, 10⟩ = .ok start ∧ 1 ≤ start.ray.toNat ∧
      start.maxSsr.toNat ≠ 0 ∧ start.rho.toNat ≠ 0 ∧
      ((start.afterAll updates).rho.toNat : Int) ≤ 20 ∧
      ((start.afterAll updates).conversionRate 20).value = some (1024 * Ray.one) ∧
      start.chi.toNat ≤ 1024 * Ray.one ∧
      1024 * Ray.one * (2 * start.ray.toNat ^ 2) ^ 10
        ≤ start.chi.toNat * (start.maxSsr.toNat * (2 * start.ray.toNat + 1)) ^ 10 := by
  intro start updates
  have hstart : doubling.propose ⟨2 * Ray.one, 10, Ray.one, 10⟩ = .ok start := by
    decide +kernel
  have hray : 1 ≤ start.ray.toNat := by decide +kernel
  have hmax : start.maxSsr.toNat ≠ 0 := by decide +kernel
  have hrho : start.rho.toNat ≠ 0 := by decide +kernel
  have ht : ((start.afterAll updates).rho.toNat : Int) ≤ 20 := by decide +kernel
  have hv : ((start.afterAll updates).conversionRate 20).value = some (1024 * Ray.one) := by
    decide +kernel
  have hpace := conversionRate_le_compounded hstart hray hmax hrho updates ht hv
  have hseconds : ((20 : Int) - start.rho.toNat).toNat = 10 := by decide +kernel
  rw [hseconds] at hpace
  exact ⟨hstart, hray, hmax, hrho, ht, hv, hpace⟩

end PegPool.RedemptionRate
