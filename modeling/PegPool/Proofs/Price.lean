import PegPool.Proofs.Wide
import PegPool.Share

/-!
# Formulas at a price

Each formula answers an exact number as soon as its products are wide and its
answer is narrow. No other step can fail: what a quotient or a difference is
taken of has already been found to be wide.
-/

namespace PegPool

theorem nonzero?_eq_some_iff {amount n : Nat} :
    nonzero? amount = some n ↔ amount = n ∧ 0 < n := by
  unfold nonzero?
  split
  · simp only [reduceCtorEq, false_iff]
    omega
  · simp only [Option.some.injEq]
    omega

/-- An amount of a swap: something moves, and it is narrow. -/
def Movable (amount : Nat) : Prop := 0 < amount ∧ amount ≤ narrowMax

theorem Movable.le_wideMax {amount : Nat} (h : Movable amount) : amount ≤ wideMax :=
  h.2.trans narrowMax_le_wideMax

namespace Price

/-! ## Swaps -/

theorem settle_eq_some_iff {taken paid : Wide} {amounts : SwapAmounts} :
    settle taken paid = .ok (some amounts) ↔
      amounts = ⟨taken.toNat, paid.toNat⟩ ∧ Movable taken.toNat ∧ Movable paid.toNat := by
  unfold settle
  simp only [bind_eq_ok_iff, pure_eq_ok_iff, Wide.narrow_eq_ok_iff, Option.bind_eq_bind,
    Option.bind_eq_some_iff, nonzero?_eq_some_iff]
  constructor
  · rintro ⟨_, ⟨rfl, htaken⟩, _, ⟨rfl, hpaid⟩, _, ⟨rfl, htaken'⟩, _, ⟨rfl, hpaid'⟩, h⟩
    rw [Option.some.injEq] at h
    exact ⟨h.symm, ⟨htaken', htaken⟩, hpaid', hpaid⟩
  · rintro ⟨rfl, ⟨htaken', htaken⟩, hpaid', hpaid⟩
    exact ⟨_, ⟨rfl, htaken⟩, _, ⟨rfl, hpaid⟩, _, ⟨rfl, htaken'⟩, _, ⟨rfl, hpaid'⟩, rfl⟩

/-- Amounts that are swapped are not negative. -/
theorem source_nonneg_of_swap {price : Price} {source : Int} {direction : Direction}
    {amounts : SwapAmounts} (h : (price.swap source direction).value = some amounts) :
    0 ≤ source := by
  unfold swap swapWide at h
  simp only [Logged.value_ofFormula_eq_some_iff, bind_eq_ok_iff, Wide.ofInt_eq_ok_iff] at h
  obtain ⟨-, -, s, hs, -⟩ := h
  omega

variable {p r s : Nat} {amounts : SwapAmounts}

/-- Selling B pays the floor of its worth. -/
theorem value_swap_bToA_eq_some_iff :
    ((⟨p, r⟩ : Price).swap s .bToA).value = some amounts ↔
      (p ≤ wideMax ∧ r ≤ wideMax ∧ s * p ≤ wideMax ∧ r ≠ 0) ∧
        amounts = ⟨s, s * p / r⟩ ∧ Movable s ∧ Movable (s * p / r) := by
  unfold swap swapWide
  simp only [Logged.value_ofFormula_eq_some_iff, bind_eq_ok_iff, Wide.ofInt_natCast_eq_ok_iff,
    Wide.mul_natCast_eq_ok_iff, Wide.div_natCast_eq_ok_iff, settle_eq_some_iff]
  constructor
  · rintro ⟨p, rfl, s, rfl, r, rfl, worth, hworth, paid, ⟨hr, hpaid⟩, h⟩
    rw [hpaid, hworth] at h
    exact ⟨⟨p.toNat_le, r.toNat_le, hworth ▸ worth.toNat_le, hr⟩, h⟩
  · rintro ⟨⟨hp, hr, hworth, hne⟩, h⟩
    exact ⟨⟨p, hp⟩, rfl, ⟨s, h.2.1.le_wideMax⟩, rfl, ⟨r, hr⟩, rfl, ⟨s * p, hworth⟩, rfl,
      ⟨s * p / r, h.2.2.le_wideMax⟩, ⟨hne, rfl⟩, h⟩

/-- What whole units of B cost, rounded up, is covered by the offer. -/
theorem cost_le_source (hr : r ≠ 0) : (s * r / p * p) ⌈/⌉ r ≤ s := by
  rw [ceilDiv_le_iff_le_mul (Nat.pos_of_ne_zero hr), Nat.mul_comm r]
  exact Nat.div_mul_le_self _ _

/-- Buying B pays the whole units that the offer covers, and takes their cost. -/
theorem value_swap_aToB_eq_some_iff :
    ((⟨p, r⟩ : Price).swap s .aToB).value = some amounts ↔
      (p ≤ wideMax ∧ r ≤ wideMax ∧ s * r ≤ wideMax ∧ p ≠ 0 ∧ r ≠ 0) ∧
        amounts = ⟨(s * r / p * p) ⌈/⌉ r, s * r / p⟩ ∧
        Movable ((s * r / p * p) ⌈/⌉ r) ∧ Movable (s * r / p) := by
  unfold swap swapWide
  simp only [Logged.value_ofFormula_eq_some_iff, bind_eq_ok_iff, Wide.ofInt_natCast_eq_ok_iff,
    Wide.mul_natCast_eq_ok_iff, Wide.div_natCast_eq_ok_iff, Wide.ceilDiv_natCast_eq_ok_iff]
  constructor
  · rintro ⟨p, rfl, s, rfl, r, rfl, worth, hworth, paid, ⟨hp, hpaid⟩, cost, hcost, taken,
      ⟨hr, htaken⟩, h⟩
    rw [hworth] at hpaid
    rw [hcost, hpaid] at htaken
    -- the cost never exceeds the offer, so that branch is not taken
    rw [if_neg (by rw [htaken]; exact Nat.not_lt.2 (cost_le_source hr)), settle_eq_some_iff,
      htaken, hpaid] at h
    exact ⟨⟨p.toNat_le, r.toNat_le, hworth ▸ worth.toNat_le, hp, hr⟩, h⟩
  · rintro ⟨⟨hp, hr, hworth, hpne, hrne⟩, h⟩
    have hcost : s * r / p * p ≤ wideMax := (Nat.div_mul_le_self _ _).trans hworth
    have hs : s ≤ wideMax :=
      (Nat.le_mul_of_pos_right s (Nat.pos_of_ne_zero hrne)).trans hworth
    refine ⟨⟨p, hp⟩, rfl, ⟨s, hs⟩, rfl, ⟨r, hr⟩, rfl, ⟨s * r, hworth⟩, rfl,
      ⟨s * r / p, h.2.2.le_wideMax⟩, ⟨hpne, rfl⟩, ⟨s * r / p * p, hcost⟩, rfl,
      ⟨_, h.2.1.le_wideMax⟩, ⟨hrne, rfl⟩, ?_⟩
    rw [if_neg (Nat.not_lt.2 (cost_le_source hrne)), settle_eq_some_iff]
    exact h

/-! ## Value of a pool -/

theorem value_normalizedValue_eq_some_iff_wide {price : Price} {a b : Int} {v : Nat} :
    (price.normalizedValue a b).value = some v ↔ price.normalizedValueWide a b = .ok v := by
  unfold normalizedValue
  simp only [Logged.value_ofFormula_eq_some_iff, map_eq_ok_iff, Option.some.injEq,
    exists_eq_right]

/-- Reserves that are valued are not negative. -/
theorem reserves_nonneg_of_normalizedValue {price : Price} {a b : Int} {v : Nat}
    (h : (price.normalizedValue a b).value = some v) : 0 ≤ a ∧ 0 ≤ b := by
  rw [value_normalizedValue_eq_some_iff_wide] at h
  unfold normalizedValueWide at h
  simp only [bind_eq_ok_iff, Wide.ofInt_eq_ok_iff] at h
  obtain ⟨a', ha, b', hb, -⟩ := h
  omega

/-- A value is half of the exact worth, rounded down twice. The parts that are
halved before the sum are never narrow, so that branch has no answer. -/
theorem value_normalizedValue_eq_some_iff {a b v : Nat} :
    ((⟨p, r⟩ : Price).normalizedValue a b).value = some v ↔
      (b ≤ wideMax ∧ p ≤ wideMax ∧ r ≤ wideMax ∧ b * p ≤ wideMax ∧ r ≠ 0) ∧
        v = (a + b * p / r) / 2 ∧ v ≤ narrowMax := by
  have hmax : 3 * narrowMax + 4 < wideMax := by decide
  rw [value_normalizedValue_eq_some_iff_wide]
  unfold normalizedValueWide
  simp only [bind_eq_ok_iff, Wide.ofInt_natCast_eq_ok_iff, Wide.mul_natCast_eq_ok_iff,
    Wide.div_natCast_eq_ok_iff]
  constructor
  · rintro ⟨a, rfl, b, rfl, p, rfl, product, hproduct, r, rfl, worthB, ⟨hr, hworthB⟩, hvalue⟩
    refine ⟨⟨b.toNat_le, p.toNat_le, r.toNat_le, hproduct ▸ product.toNat_le, hr⟩, ?_⟩
    rw [← hproduct, ← hworthB]
    split at hvalue
    · -- half of `worthB` alone is too wide to be narrow, so there is no answer
      simp only [bind_eq_ok_iff, Wide.add_natCast_eq_ok_iff, Wide.narrow_eq_ok_iff] at hvalue
      obtain ⟨halfB, hhalfB, halfA, hhalfA, sum, hsum, rfl, hnarrow⟩ := hvalue
      have hhalfB := (Wide.div_natCast_eq_ok_iff (n := 2)).1 hhalfB
      omega
    · simp only [bind_eq_ok_iff, Wide.add_natCast_eq_ok_iff, Wide.narrow_eq_ok_iff] at hvalue
      obtain ⟨sum, hsum, value, hhalf, rfl, hnarrow⟩ := hvalue
      have hhalf := (Wide.div_natCast_eq_ok_iff (n := 2)).1 hhalf
      exact ⟨hsum ▸ hhalf.2, hnarrow⟩
  · rintro ⟨⟨hb, hp, hr, hproduct, hne⟩, hv, hnarrow⟩
    have hworthB : b * p / r ≤ wideMax := (Nat.div_le_self _ _).trans hproduct
    -- a narrow value leaves `worthB` far below the limit of the other branch
    generalize hquotient : b * p / r = worthB at hv hworthB
    have hsum : a + worthB ≤ wideMax := by omega
    refine ⟨⟨a, by omega⟩, rfl, ⟨b, hb⟩, rfl, ⟨p, hp⟩, rfl, ⟨b * p, hproduct⟩, rfl, ⟨r, hr⟩, rfl,
      ⟨worthB, hworthB⟩, ⟨hne, hquotient.symm⟩, ?_⟩
    rw [if_neg (by simp only; omega)]
    simp only [bind_eq_ok_iff, Wide.add_natCast_eq_ok_iff, Wide.narrow_eq_ok_iff]
    exact ⟨⟨a + worthB, hsum⟩, rfl, ⟨v, by omega⟩,
      (Wide.div_natCast_eq_ok_iff (n := 2)).2 ⟨by decide, hv⟩, rfl, hnarrow⟩

/-- Reserves that hold no more of either token have a value as well, and no greater one. -/
theorem exists_normalizedValue_of_le {a a' b b' v : Nat} (ha : a' ≤ a) (hb : b' ≤ b)
    (hv : ((⟨p, r⟩ : Price).normalizedValue a b).value = some v) :
    ∃ v', ((⟨p, r⟩ : Price).normalizedValue a' b').value = some v' ∧ v' ≤ v := by
  obtain ⟨⟨hbwide, hp, hr, hproduct, hne⟩, rfl, hnarrow⟩ :=
    value_normalizedValue_eq_some_iff.1 hv
  have hworthB : b' * p ≤ b * p := Nat.mul_le_mul_right p hb
  have hle : (a' + b' * p / r) / 2 ≤ (a + b * p / r) / 2 :=
    Nat.div_le_div_right (Nat.add_le_add ha (Nat.div_le_div_right hworthB))
  exact ⟨_, value_normalizedValue_eq_some_iff.2 ⟨⟨hb.trans hbwide, hp, hr,
    hworthB.trans hproduct, hne⟩, rfl, hle.trans hnarrow⟩, hle⟩

end Price

end PegPool
