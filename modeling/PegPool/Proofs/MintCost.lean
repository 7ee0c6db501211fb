import Mathlib.Tactic.Ring
import PegPool.Proofs.ValueShare

/-!
# Value per pool token

What is taken in for new pool tokens covers their part of the pool's value, but the value is
told afresh after a mint, and its roundings may come out otherwise than before. At a
fractional price the holders may so be short, by less than one. At a whole price B is
worth whole tokens A: no fraction is lost, what is taken of either token is a part of
the value rounded up, and what is paid is one rounded down.
-/

namespace PegPool

namespace Pool

variable {p r t v v' : Nat} {pool : Pool} {taken paid : TokenAmounts}

/-! ## At any price -/

theorem worth_lt_of_normalizedValue
    (hv : ((⟨p, r⟩ : Price).normalizedValue pool.tokenA pool.tokenB).value = some v) :
    pool.worth p r < 2 * r * (v + 1) := by
  obtain ⟨hr, rfl⟩ := eq_worth_div_of_normalizedValue hv
  rw [Nat.div_div_eq_div_mul, Nat.mul_comm r 2]
  exact Nat.lt_mul_div_succ _ (Nat.mul_pos Nat.two_pos hr)

/-- What is taken in is worth no less than the part of the value, which is told in each
token. -/
theorem le_worth_mul_of_valueShare
    (hv : ((⟨p, r⟩ : Price).normalizedValue pool.tokenA pool.tokenB).value = some v)
    (h : ((⟨p, r⟩ : Price).valueShare t pool.supply pool.tokenA pool.tokenB .ceiling).value
      = some taken) : 2 * (t * v * r) ≤ pool.supply * taken.worth p r := by
  obtain ⟨-, -, w, hw, hA, -, hB, -⟩ := Price.taken_bounds_of_valueShare h
  obtain rfl : v = w := Option.some.inj (hv.symm.trans hw)
  calc 2 * (t * v * r)
      = t * v * r + t * v * r := Nat.two_mul _
    _ ≤ pool.supply * taken.tokenA * r + pool.supply * (p * taken.tokenB) :=
        Nat.add_le_add (Nat.mul_le_mul_right r hA) hB
    _ = pool.supply * taken.worth p r := by
        rw [TokenAmounts.worth, Nat.mul_add, Nat.mul_assoc, Nat.mul_comm p]

/-- A mint leaves less than one unit of value short. -/
theorem value_mul_lt_of_takeIn
    (hv : ((⟨p, r⟩ : Price).normalizedValue pool.tokenA pool.tokenB).value = some v)
    (htaken : ((⟨p, r⟩ : Price).valueShare t pool.supply pool.tokenA pool.tokenB .ceiling).value
      = some taken)
    (hv' : ((⟨p, r⟩ : Price).normalizedValue (pool.takeIn taken t).tokenA
      (pool.takeIn taken t).tokenB).value = some v') :
    v * (pool.supply + t) < (v' + 1) * pool.supply := by
  obtain ⟨-, hs, -⟩ := Price.taken_bounds_of_valueShare htaken
  have hpart := le_worth_mul_of_valueShare hv htaken
  have hbefore := two_mul_normalizedValue_le hv
  have hafter := worth_lt_of_normalizedValue hv'
  rw [worth_takeIn] at hafter
  apply Nat.lt_of_mul_lt_mul_left (a := 2 * r)
  calc 2 * r * (v * (pool.supply + t))
      = pool.supply * (2 * (v * r)) + 2 * (t * v * r) := by ring
    _ ≤ pool.supply * pool.worth p r + pool.supply * taken.worth p r :=
        Nat.add_le_add (Nat.mul_le_mul_left _ hbefore) hpart
    _ = pool.supply * (pool.worth p r + taken.worth p r) := (Nat.mul_add _ _ _).symm
    _ < pool.supply * (2 * r * (v' + 1)) := Nat.mul_lt_mul_of_pos_left hafter hs
    _ = 2 * r * ((v' + 1) * pool.supply) := by ring

/-! ## At a whole price -/

section Whole

variable {q : Nat}

/-- At a whole price nothing but an odd token A is left out of a value. -/
theorem eq_half_of_normalizedValue
    (hv : ((⟨(r * q : Nat), r⟩ : Price).normalizedValue pool.tokenA pool.tokenB).value = some v) :
    v = (pool.tokenA + pool.tokenB * q) / 2 := by
  obtain ⟨⟨-, -, -, -, hr⟩, rfl, -⟩ := Price.value_normalizedValue_eq_some_iff.1 hv
  rw [Nat.mul_left_comm, Nat.mul_div_cancel_left _ (Nat.pos_of_ne_zero hr)]

/-- The B that is taken is worth no less than the part of the value, and so no less than
the A that is taken. -/
theorem tokenA_le_of_taken
    (h : ((⟨(r * q : Nat), r⟩ : Price).valueShare t pool.supply pool.tokenA pool.tokenB
      .ceiling).value = some taken) : taken.tokenA ≤ taken.tokenB * q := by
  obtain ⟨-, hs, v, hv, -, hltA, hB, -⟩ := Price.taken_bounds_of_valueShare h
  obtain ⟨-, hr, -⟩ := Price.scale_of_normalizedValue hv
  have hcovers : t * v ≤ pool.supply * (taken.tokenB * q) := by
    apply Nat.le_of_mul_le_mul_right _ hr
    calc t * v * r
        ≤ pool.supply * (r * q * taken.tokenB) := hB
      _ = pool.supply * (taken.tokenB * q) * r := by ring
  apply Nat.le_of_lt_succ
  apply Nat.lt_of_mul_lt_mul_left (a := pool.supply)
  rw [Nat.mul_succ]
  omega

/-- A mint leaves nothing short. -/
theorem value_mul_le_of_takeIn
    (hv : ((⟨(r * q : Nat), r⟩ : Price).normalizedValue pool.tokenA pool.tokenB).value = some v)
    (htaken : ((⟨(r * q : Nat), r⟩ : Price).valueShare t pool.supply pool.tokenA pool.tokenB
      .ceiling).value = some taken)
    (hv' : ((⟨(r * q : Nat), r⟩ : Price).normalizedValue (pool.takeIn taken t).tokenA
      (pool.takeIn taken t).tokenB).value = some v') :
    v * (pool.supply + t) ≤ v' * pool.supply := by
  obtain ⟨-, -, w, hw, hA, -⟩ := Price.taken_bounds_of_valueShare htaken
  obtain rfl : v = w := Option.some.inj (hv.symm.trans hw)
  apply mul_supply_add_le hA
  have hle := tokenA_le_of_taken htaken
  have hbefore := eq_half_of_normalizedValue hv
  have hafter := eq_half_of_normalizedValue hv'
  simp only [takeIn, Nat.add_mul] at hafter
  omega

/-- What is paid of either token is worth no more than the part of the value. -/
theorem mul_max_paid_le
    (hv : ((⟨(r * q : Nat), r⟩ : Price).normalizedValue pool.tokenA pool.tokenB).value = some v)
    (h : ((⟨(r * q : Nat), r⟩ : Price).valueShare t pool.supply pool.tokenA pool.tokenB
      .floor).value = some paid) :
    pool.supply * max paid.tokenA (paid.tokenB * q) ≤ t * v := by
  obtain ⟨w, hw, hA, hB⟩ := Price.paid_le_of_valueShare h
  obtain rfl : v = w := Option.some.inj (hv.symm.trans hw)
  obtain ⟨-, hr, -⟩ := Price.scale_of_normalizedValue hv
  rw [← Nat.mul_max_mul_left]
  apply Nat.max_le.2
  refine ⟨hA, ?_⟩
  apply Nat.le_of_mul_le_mul_right _ hr
  calc pool.supply * (paid.tokenB * q) * r
      = pool.supply * (r * q * paid.tokenB) := by ring
    _ ≤ t * v * r := hB

/-- A burn takes no more than the part of the value. -/
theorem value_mul_le_of_payOut
    (hv : ((⟨(r * q : Nat), r⟩ : Price).normalizedValue pool.tokenA pool.tokenB).value = some v)
    (hpaid : ((⟨(r * q : Nat), r⟩ : Price).valueShare t pool.supply pool.tokenA pool.tokenB
      .floor).value = some paid)
    (hv' : ((⟨(r * q : Nat), r⟩ : Price).normalizedValue (pool.payOut paid t).tokenA
      (pool.payOut paid t).tokenB).value = some v') :
    v * (pool.supply - t) ≤ v' * pool.supply := by
  obtain ⟨hleA, hleB⟩ := Price.le_reserves_of_valueShare hpaid
  apply mul_supply_sub_le (mul_max_paid_le hv hpaid)
  have hworthB := Nat.mul_le_mul_right q hleB
  have hbefore := eq_half_of_normalizedValue hv
  have hafter := eq_half_of_normalizedValue hv'
  simp only [payOut, Nat.sub_mul] at hafter
  omega

end Whole

end Pool

namespace RedemptionRate

/-- A mint leaves the holders short of less than one unit of value. At a whole price it
leaves them short of nothing, and neither does a burn. -/
theorem mint_cost {record : RedemptionRate} {timestamp : Int} {p t : Nat} {pool : Pool}
    (hrate : (record.conversionRate timestamp).value = some p) :
    let curve := Curve.redemptionRate record
    (∀ taken, (curve.share t pool.supply pool.tokenA pool.tokenB .ceiling
        (some timestamp)).value = some taken →
      ∃ v, (curve.normalizedValue pool.tokenA pool.tokenB (some timestamp)).value = some v ∧
        ∀ v', (curve.normalizedValue (pool.takeIn taken t).tokenA (pool.takeIn taken t).tokenB
            (some timestamp)).value = some v' →
          v * (pool.supply + t) < (v' + 1) * pool.supply ∧
          (record.ray.toNat ∣ p → v * (pool.supply + t) ≤ v' * pool.supply)) ∧
    (record.ray.toNat ∣ p → ∀ paid, (curve.share t pool.supply pool.tokenA pool.tokenB .floor
        (some timestamp)).value = some paid →
      ∃ v v', (curve.normalizedValue pool.tokenA pool.tokenB (some timestamp)).value = some v ∧
        (curve.normalizedValue (pool.payOut paid t).tokenA (pool.payOut paid t).tokenB
          (some timestamp)).value = some v' ∧
        v * (pool.supply - t) ≤ v' * pool.supply) := by
  have hprice := Curve.value_priceAt_of_conversionRate hrate
  simp only [Curve.value_normalizedValue_of_priceAt hprice,
    Curve.value_share_of_conversionRate hrate]
  constructor
  · intro taken htaken
    obtain ⟨-, -, v, hv, -⟩ := Price.taken_bounds_of_valueShare htaken
    refine ⟨v, hv, ?_⟩
    intro v' hv'
    refine ⟨Pool.value_mul_lt_of_takeIn hv htaken hv', ?_⟩
    rintro ⟨q, rfl⟩
    exact Pool.value_mul_le_of_takeIn hv htaken hv'
  · rintro ⟨q, rfl⟩ paid hpaid
    obtain ⟨v, hv, -⟩ := Price.paid_le_of_valueShare hpaid
    obtain ⟨v', hv', -⟩ := Price.exists_normalizedValue_of_le
      (Nat.sub_le pool.tokenA paid.tokenA) (Nat.sub_le pool.tokenB paid.tokenB) hv
    exact ⟨v, v', hv, hv', Pool.value_mul_le_of_payOut hv hpaid hv'⟩

/-- A record whose index has been three since the start. -/
def three : RedemptionRate :=
  { initial with chi := ⟨3 * Ray.one, by decide⟩ }

/-- At a price of three quarters, three pool tokens besides the two that there are leave a
value of 2, where it takes 2.5 to leave nothing short. At a price of three, seven besides
thirty do, and seven of thirty are burnt without loss. -/
theorem mint_cost_threeQuarters :
    let pool : Pool := ⟨0, 3, 2⟩
    let minted := pool.takeIn ⟨2, 2⟩ 3
    let curve := Curve.redemptionRate threeQuarters
    let larger : Pool := ⟨100, 33, 30⟩
    let grown := larger.takeIn ⟨24, 8⟩ 7
    let left := larger.payOut ⟨23, 7⟩ 7
    let whole := Curve.redemptionRate three
    ((threeQuarters.conversionRate 0).value = some (3 * Ray.one / 4) ∧
      (curve.share (3 : Nat) pool.supply pool.tokenA pool.tokenB .ceiling (some 0)).value
        = some ⟨2, 2⟩ ∧
      ∃ v, (curve.normalizedValue pool.tokenA pool.tokenB (some 0)).value = some v ∧
        (curve.normalizedValue minted.tokenA minted.tokenB (some 0)).value = some 2 ∧
        2 * pool.supply < v * (pool.supply + 3) ∧ v * (pool.supply + 3) < (2 + 1) * pool.supply) ∧
    (three.conversionRate 0).value = some (3 * Ray.one) ∧ three.ray.toNat ∣ 3 * Ray.one ∧
    ((whole.share (7 : Nat) larger.supply larger.tokenA larger.tokenB .ceiling (some 0)).value
        = some ⟨24, 8⟩ ∧
      ∃ v, (whole.normalizedValue larger.tokenA larger.tokenB (some 0)).value = some v ∧
        (whole.normalizedValue grown.tokenA grown.tokenB (some 0)).value = some 123 ∧
        v * (larger.supply + 7) ≤ 123 * larger.supply) ∧
    (whole.share (7 : Nat) larger.supply larger.tokenA larger.tokenB .floor (some 0)).value
        = some ⟨23, 7⟩ ∧
      ∃ v v', (whole.normalizedValue larger.tokenA larger.tokenB (some 0)).value = some v ∧
        (whole.normalizedValue left.tokenA left.tokenB (some 0)).value = some v' ∧
        v * (larger.supply - 7) ≤ v' * larger.supply := by
  intro pool minted curve larger grown left whole
  have hrate : (threeQuarters.conversionRate 0).value = some (3 * Ray.one / 4) := by
    decide +kernel
  have htaken : (curve.share (3 : Nat) pool.supply pool.tokenA pool.tokenB .ceiling
      (some 0)).value = some ⟨2, 2⟩ := by decide +kernel
  have hminted : (curve.normalizedValue minted.tokenA minted.tokenB (some 0)).value = some 2 := by
    decide +kernel
  have hthree : (three.conversionRate 0).value = some (3 * Ray.one) := by decide +kernel
  have hdvd : three.ray.toNat ∣ 3 * Ray.one := by decide +kernel
  have hgrown : (whole.normalizedValue grown.tokenA grown.tokenB (some 0)).value = some 123 := by
    decide +kernel
  have htakenWhole : (whole.share (7 : Nat) larger.supply larger.tokenA larger.tokenB .ceiling
      (some 0)).value = some ⟨24, 8⟩ := by decide +kernel
  have hpaid : (whole.share (7 : Nat) larger.supply larger.tokenA larger.tokenB .floor
      (some 0)).value = some ⟨23, 7⟩ := by decide +kernel
  obtain ⟨hcost, -⟩ := @mint_cost threeQuarters 0 _ 3 pool hrate
  obtain ⟨hmint, hburn⟩ := @mint_cost three 0 _ 7 larger hthree
  obtain ⟨v, hv, hafter⟩ := hcost _ htaken
  obtain ⟨w, hw, hlarger⟩ := hmint _ htakenWhole
  obtain ⟨hless, -⟩ := hafter 2 hminted
  obtain ⟨-, hnoless⟩ := hlarger 123 hgrown
  have hshort : 2 * pool.supply < v * (pool.supply + 3) := by
    have hone : (curve.normalizedValue pool.tokenA pool.tokenB (some 0)).value = some 1 := by
      decide +kernel
    obtain rfl : v = 1 := Option.some.inj (hv.symm.trans hone)
    decide
  exact ⟨⟨hrate, htaken, v, hv, hminted, hshort, hless⟩, hthree, hdvd,
    ⟨htakenWhole, w, hw, hgrown, hnoless hdvd⟩, hpaid, hburn hdvd _ hpaid⟩

end RedemptionRate

end PegPool
