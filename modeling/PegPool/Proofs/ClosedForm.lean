import PegPool.Proofs.ValueShare

/-!
# Shares of the value in closed form

A share of the value is told in token B by two divisions in a row, each of them rounded. That
loses nothing: what is answered is one rounded quotient a token. An answer is missing
only where the value, the supply or the price is, or where a number gets too wide.
What is paid out is held to the reserves, so its width is never what fails.
-/

namespace PegPool

namespace Price

variable {p r t s a b v : Nat} {paid taken : TokenAmounts}

/-! ## What is answered -/

section Answer

variable (hv : ((⟨p, r⟩ : Price).normalizedValue a b).value = some v)

include hv

theorem paid_eq_of_valueShare
    (h : ((⟨p, r⟩ : Price).valueShare t s a b .floor).value = some paid) :
    paid = ⟨min (t * v / s) a, min (t * v * r / (p * s)) b⟩ := by
  obtain ⟨w, hw, -, hpaid, -⟩ := value_valueShare_floor_eq_some_iff.1 h
  obtain rfl : v = w := Option.some.inj (hv.symm.trans hw)
  exact hpaid

theorem taken_eq_of_valueShare
    (h : ((⟨p, r⟩ : Price).valueShare t s a b .ceiling).value = some taken) :
    taken = ⟨(t * v) ⌈/⌉ s, (t * v * r) ⌈/⌉ (p * s)⟩ := by
  obtain ⟨w, hw, -, htaken, -⟩ := value_valueShare_ceiling_eq_some_iff.1 h
  obtain rfl : v = w := Option.some.inj (hv.symm.trans hw)
  exact htaken

end Answer

/-! ## When there is an answer -/

section Narrow

variable (ht : t ≤ narrowMax) (hs : s ≤ narrowMax)

include ht hs

theorem exists_valueShare_floor_iff (ha : a ≤ narrowMax) (hb : b ≤ narrowMax) :
    (∃ paid, ((⟨p, r⟩ : Price).valueShare t s a b .floor).value = some paid) ↔
      ∃ v, ((⟨p, r⟩ : Price).normalizedValue a b).value = some v ∧
        s ≠ 0 ∧ p ≠ 0 ∧ t * v * r ≤ wideMax := by
  constructor
  · rintro ⟨paid, h⟩
    obtain ⟨v, hv, ⟨-, -, hscaled, hsne, hpne⟩, -⟩ := value_valueShare_floor_eq_some_iff.1 h
    exact ⟨v, hv, hsne, hpne, hscaled⟩
  · rintro ⟨v, hv, hsne, hpne, hscaled⟩
    have hnarrowA : min (t * v / s) a ≤ narrowMax := (Nat.min_le_right _ _).trans ha
    have hnarrowB : min (t * v * r / (p * s)) b ≤ narrowMax := (Nat.min_le_right _ _).trans hb
    exact ⟨_, value_valueShare_floor_eq_some_iff.2 ⟨v, hv, ⟨ht.trans narrowMax_le_wideMax,
      hs.trans narrowMax_le_wideMax, hscaled, hsne, hpne⟩, rfl, hnarrowA, hnarrowB⟩⟩

theorem exists_valueShare_ceiling_iff :
    (∃ taken, ((⟨p, r⟩ : Price).valueShare t s a b .ceiling).value = some taken) ↔
      ∃ v, ((⟨p, r⟩ : Price).normalizedValue a b).value = some v ∧
        s ≠ 0 ∧ p ≠ 0 ∧ t * v * r ≤ wideMax ∧
        (t * v) ⌈/⌉ s ≤ narrowMax ∧ (t * v * r) ⌈/⌉ (p * s) ≤ narrowMax := by
  constructor
  · rintro ⟨taken, h⟩
    obtain ⟨v, hv, ⟨-, -, hscaled, hsne, hpne⟩, -, hnarrowA, hnarrowB⟩ :=
      value_valueShare_ceiling_eq_some_iff.1 h
    exact ⟨v, hv, hsne, hpne, hscaled, hnarrowA, hnarrowB⟩
  · rintro ⟨v, hv, hsne, hpne, hscaled, hnarrowA, hnarrowB⟩
    exact ⟨_, value_valueShare_ceiling_eq_some_iff.2 ⟨v, hv, ⟨ht.trans narrowMax_le_wideMax,
      hs.trans narrowMax_le_wideMax, hscaled, hsne, hpne⟩, rfl, hnarrowA, hnarrowB⟩⟩

theorem valueShare_floor_eq_none_iff (ha : a ≤ narrowMax) (hb : b ≤ narrowMax) :
    ((⟨p, r⟩ : Price).valueShare t s a b .floor).value = none ↔
      ((⟨p, r⟩ : Price).normalizedValue a b).value = none ∨ s = 0 ∨ p = 0 ∨
        ∃ v, ((⟨p, r⟩ : Price).normalizedValue a b).value = some v ∧ wideMax < t * v * r := by
  rw [← not_iff_not, ← ne_eq, Option.ne_none_iff_exists',
    exists_valueShare_floor_iff ht hs ha hb]
  cases ((⟨p, r⟩ : Price).normalizedValue a b).value with
  | none => simp
  | some v =>
    simp only [Option.some.injEq, exists_eq_left', reduceCtorEq, false_or]
    omega

theorem valueShare_ceiling_eq_none_iff :
    ((⟨p, r⟩ : Price).valueShare t s a b .ceiling).value = none ↔
      ((⟨p, r⟩ : Price).normalizedValue a b).value = none ∨ s = 0 ∨ p = 0 ∨
        ∃ v, ((⟨p, r⟩ : Price).normalizedValue a b).value = some v ∧ (wideMax < t * v * r ∨
          narrowMax < (t * v) ⌈/⌉ s ∨ narrowMax < (t * v * r) ⌈/⌉ (p * s)) := by
  rw [← not_iff_not, ← ne_eq, Option.ne_none_iff_exists', exists_valueShare_ceiling_iff ht hs]
  cases ((⟨p, r⟩ : Price).normalizedValue a b).value with
  | none => simp
  | some v =>
    simp only [Option.some.injEq, exists_eq_left', reduceCtorEq, false_or]
    omega

/-- What can be taken in can be paid out, and for no more of either token. -/
theorem exists_paid_le_of_valueShare (ha : a ≤ narrowMax) (hb : b ≤ narrowMax)
    (h : ((⟨p, r⟩ : Price).valueShare t s a b .ceiling).value = some taken) :
    ∃ paid, ((⟨p, r⟩ : Price).valueShare t s a b .floor).value = some paid ∧
      paid.tokenA ≤ taken.tokenA ∧ paid.tokenB ≤ taken.tokenB := by
  obtain ⟨v, hv, hsne, hpne, hscaled, -⟩ := (exists_valueShare_ceiling_iff ht hs).1 ⟨taken, h⟩
  obtain ⟨paid, hpaid⟩ := (exists_valueShare_floor_iff ht hs ha hb).2 ⟨v, hv, hsne, hpne, hscaled⟩
  refine ⟨paid, hpaid, ?_⟩
  rw [paid_eq_of_valueShare hv hpaid, taken_eq_of_valueShare hv h]
  exact ⟨(Nat.min_le_left _ _).trans (Wide.div_le_ceilDiv _ _),
    (Nat.min_le_left _ _).trans (Wide.div_le_ceilDiv _ _)⟩

end Narrow

end Price

namespace RedemptionRate

/-- A share of the value is one rounded quotient a token. It is missing exactly where the
value, the supply or the price is, where the scaled product takes more than 256 bits, or
where an amount that is taken in takes more than 128. So what can be taken in can be
paid out as well, and for no more of either token. -/
theorem share_closed_form {record : RedemptionRate} {timestamp : Int} {p t s a b : Nat}
    (hrate : (record.conversionRate timestamp).value = some p)
    (ht : t < 2 ^ 128) (hs : s < 2 ^ 128) (ha : a < 2 ^ 128) (hb : b < 2 ^ 128) :
    let curve := Curve.redemptionRate record
    let r := record.ray.toNat
    let value := (curve.normalizedValue a b (some timestamp)).value
    let paidOut := (curve.share t s a b .floor (some timestamp)).value
    let takenIn := (curve.share t s a b .ceiling (some timestamp)).value
    (∀ v, value = some v →
      (∀ paid, paidOut = some paid →
        paid = ⟨min (t * v / s) a, min (t * v * r / (p * s)) b⟩) ∧
      ∀ taken, takenIn = some taken →
        taken = ⟨(t * v) ⌈/⌉ s, (t * v * r) ⌈/⌉ (p * s)⟩) ∧
    (paidOut = none ↔ value = none ∨ s = 0 ∨ p = 0 ∨
      ∃ v, value = some v ∧ 2 ^ 256 ≤ t * v * r) ∧
    (takenIn = none ↔ value = none ∨ s = 0 ∨ p = 0 ∨
      ∃ v, value = some v ∧ (2 ^ 256 ≤ t * v * r ∨
        2 ^ 128 ≤ (t * v) ⌈/⌉ s ∨ 2 ^ 128 ≤ (t * v * r) ⌈/⌉ (p * s))) ∧
    ∀ taken, takenIn = some taken → ∃ paid, paidOut = some paid ∧
      paid.tokenA ≤ taken.tokenA ∧ paid.tokenB ≤ taken.tokenB := by
  have hprice := Curve.value_priceAt_of_conversionRate hrate
  rw [← narrowMax_add_one, Nat.lt_succ_iff] at ht hs ha hb
  simp only [Curve.value_normalizedValue_of_priceAt hprice,
    Curve.value_share_of_conversionRate hrate, ← narrowMax_add_one, ← wideMax_add_one,
    Nat.succ_le_iff]
  refine ⟨?_, Price.valueShare_floor_eq_none_iff ht hs ha hb,
    Price.valueShare_ceiling_eq_none_iff ht hs, ?_⟩
  · intro v hv
    exact ⟨fun paid hpaid => Price.paid_eq_of_valueShare hv hpaid,
      fun taken htaken => Price.taken_eq_of_valueShare hv htaken⟩
  · intro taken htaken
    exact Price.exists_paid_le_of_valueShare ht hs ha hb htaken

/-- All thirty pool tokens stand for a value of 77, which is 102.67 tokens B, more than the
pool holds of them. And `2 ^ 122` pool tokens where there is one are paid what the pool
holds, while what they stand for is too much to be taken in. -/
theorem share_closed_form_threeQuarters :
    let curve := Curve.redemptionRate threeQuarters
    let p := 3 * Ray.one / 4
    let r := threeQuarters.ray.toNat
    let many : Nat := 2 ^ 122
    (threeQuarters.conversionRate 0).value = some p ∧
    (30 < 2 ^ 128 ∧ 1 < 2 ^ 128 ∧ many < 2 ^ 128 ∧ 101 < 2 ^ 128 ∧ 73 < 2 ^ 128) ∧
    (curve.normalizedValue (101 : Nat) (73 : Nat) (some 0)).value = some 77 ∧
    (curve.share (30 : Nat) (30 : Nat) (101 : Nat) (73 : Nat) .floor (some 0)).value
      = some ⟨min (30 * 77 / 30) 101, min (30 * 77 * r / (p * 30)) 73⟩ ∧
    (curve.share (30 : Nat) (30 : Nat) (101 : Nat) (73 : Nat) .ceiling (some 0)).value
      = some ⟨(30 * 77) ⌈/⌉ 30, (30 * 77 * r) ⌈/⌉ (p * 30)⟩ ∧
    (curve.share many (1 : Nat) (101 : Nat) (73 : Nat) .floor (some 0)).value
      = some ⟨101, 73⟩ ∧
    (curve.share many (1 : Nat) (101 : Nat) (73 : Nat) .ceiling (some 0)).value = none := by
  intro curve p r many
  have hrate : (threeQuarters.conversionRate 0).value = some p := by decide +kernel
  have hthirty : 30 < 2 ^ 128 := by decide
  have hone : 1 < 2 ^ 128 := by decide
  have hmany : many < 2 ^ 128 := by decide +kernel
  have hA : 101 < 2 ^ 128 := by decide
  have hB : 73 < 2 ^ 128 := by decide
  have hvalue : (curve.normalizedValue (101 : Nat) (73 : Nat) (some 0)).value = some 77 := by
    decide +kernel
  have hpaid : (curve.share (30 : Nat) (30 : Nat) (101 : Nat) (73 : Nat) .floor
      (some 0)).value = some ⟨77, 73⟩ := by decide +kernel
  have htaken : (curve.share (30 : Nat) (30 : Nat) (101 : Nat) (73 : Nat) .ceiling
      (some 0)).value = some ⟨77, 103⟩ := by decide +kernel
  obtain ⟨hanswers, -⟩ := share_closed_form hrate hthirty hthirty hA hB
  obtain ⟨-, -, hceiling, -⟩ := share_closed_form hrate hmany hone hA hB
  obtain ⟨hpaidEq, htakenEq⟩ := hanswers 77 hvalue
  refine ⟨hrate, ⟨hthirty, hone, hmany, hA, hB⟩, hvalue,
    hpaid.trans (congrArg some (hpaidEq _ hpaid)),
    htaken.trans (congrArg some (htakenEq _ htaken)), by decide +kernel, ?_⟩
  have hwide : 2 ^ 128 ≤ (many * 77) ⌈/⌉ 1 := by decide +kernel
  exact hceiling.2 (.inr (.inr (.inr ⟨77, hvalue, .inr (.inl hwide)⟩)))

end RedemptionRate

end PegPool
