import Mathlib.Tactic.Linarith
import Mathlib.Tactic.Ring
import PegPool.Proofs.ValueShare

/-!
# Minting and redeeming at once

Pool tokens are minted and burnt again at the same time. Both prices come from
a value that was rounded down, each from its own: what the first value dropped
can be carried over into the second one, and the burn then pays a part of it.
That takes a B that is worth less than one token A. For any other price the
round trip gains nothing.
-/

namespace PegPool

/-- A mint and the burn that undoes it. The amounts taken are the least that
cover the part of the first value, the amounts paid are covered by the part of
the second. -/
structure RoundTrip where
  price : Int
  scale : Int
  supply : Int
  poolTokens : Int
  value : Int
  /-- What the first value leaves out of the worth. -/
  dropped : Int
  takenA : Int
  takenB : Int
  valueAfter : Int
  paidA : Int
  paidB : Int
  scale_pos : 0 < scale
  price_pos : 0 < price
  supply_pos : 0 < supply
  poolTokens_nonneg : 0 ≤ poolTokens
  dropped_lt : dropped < 2 * scale
  le_takenA : poolTokens * value ≤ supply * takenA
  takenA_lt : supply * takenA < poolTokens * value + supply
  le_takenB : poolTokens * value * scale ≤ supply * (price * takenB)
  takenB_lt : supply * (price * takenB) < poolTokens * value * scale + supply * price
  valueAfter_le :
    2 * scale * valueAfter ≤ 2 * scale * value + dropped + takenA * scale + takenB * price
  paidA_le : (supply + poolTokens) * paidA ≤ poolTokens * valueAfter
  paidB_le : (supply + poolTokens) * (price * paidB) ≤ poolTokens * valueAfter * scale

namespace RoundTrip

variable (trip : RoundTrip)

/-- The pool tokens there are between the mint and the burn. -/
def total : Int := trip.supply + trip.poolTokens

/-- How many more tokens A are paid than were taken. -/
def gainA : Int := trip.paidA - trip.takenA

/-- How many more tokens B are paid than were taken. -/
def gainB : Int := trip.paidB - trip.takenB

/-- What is paid beyond what was taken. -/
def gain : Int := trip.gainA * trip.scale + trip.gainB * trip.price

/-- What rounding up adds to token A, for all of the supply. -/
def excessA : Int := trip.supply * trip.takenA - trip.poolTokens * trip.value

/-- What rounding up adds to token B, for all of the supply. -/
def excessB : Int :=
  trip.supply * (trip.price * trip.takenB) - trip.poolTokens * trip.value * trip.scale

/-- How much more of B is taken than of A. -/
def drift : Int := trip.price * trip.takenB - trip.scale * trip.takenA

/-- How much the value grows beyond the amount of A, which is its share. -/
def carry : Int := trip.valueAfter - trip.value - trip.takenA

theorem total_pos : 0 < trip.total :=
  Int.add_pos_of_pos_of_nonneg trip.supply_pos trip.poolTokens_nonneg

theorem excessA_nonneg : 0 ≤ trip.excessA := Int.sub_nonneg_of_le trip.le_takenA

theorem excessB_nonneg : 0 ≤ trip.excessB := Int.sub_nonneg_of_le trip.le_takenB

/-! ## Drift and carry -/

theorem supply_mul_drift :
    trip.supply * trip.drift = trip.excessB - trip.scale * trip.excessA := by
  unfold drift excessA excessB
  ring

theorem supply_mul_drift_le : trip.supply * trip.drift ≤ trip.excessB := by
  have hA := Int.mul_nonneg trip.scale_pos.le trip.excessA_nonneg
  have hdrift := trip.supply_mul_drift
  omega

theorem drift_lt_price : trip.drift < trip.price := by
  have hB := trip.takenB_lt
  have hdrift := trip.supply_mul_drift_le
  unfold excessB at hdrift
  apply lt_of_mul_lt_mul_left _ trip.supply_pos.le
  omega

theorem neg_scale_lt_drift : -trip.scale < trip.drift := by
  have hA : trip.scale * trip.excessA < trip.scale * trip.supply := by
    have := trip.takenA_lt
    apply Int.mul_lt_mul_of_pos_left _ trip.scale_pos
    unfold excessA
    omega
  have hB := trip.excessB_nonneg
  have hdrift := trip.supply_mul_drift
  apply lt_of_mul_lt_mul_left _ trip.supply_pos.le
  rw [Int.mul_neg, Int.mul_comm trip.supply trip.scale]
  omega

theorem carry_le : 2 * trip.scale * trip.carry ≤ trip.dropped + trip.drift := by
  have h := trip.valueAfter_le
  unfold carry drift
  linarith

/-- What a carry adds beyond one, the drift makes up for twice. -/
theorem two_mul_carry_lt_drift :
    2 * (trip.scale * (trip.carry - 1)) < trip.drift := by
  have hcarry := trip.carry_le
  have hdropped := trip.dropped_lt
  have hsplit : 2 * trip.scale * trip.carry
      = 2 * (trip.scale * (trip.carry - 1)) + 2 * trip.scale := by ring
  omega

/-! ## Gain in each token -/

theorem total_mul_gainA_le :
    trip.total * trip.gainA ≤ trip.poolTokens * trip.carry - trip.excessA := by
  have h := trip.paidA_le
  unfold total gainA carry excessA
  linarith

theorem total_mul_gainB_le :
    trip.total * (trip.gainB * trip.price)
      ≤ trip.poolTokens * (trip.scale * trip.carry - trip.drift) - trip.excessB := by
  have h := trip.paidB_le
  unfold total gainB carry drift excessB
  linarith

/-- Token A is paid back less a part of the carry. -/
theorem gainA_lt_carry (h : 0 < trip.carry) : trip.gainA < trip.carry := by
  have hA := trip.total_mul_gainA_le
  have hexcess := trip.excessA_nonneg
  have hsupply := Int.mul_pos trip.supply_pos h
  apply lt_of_mul_lt_mul_left _ trip.total_pos.le
  calc trip.total * trip.gainA
      ≤ trip.poolTokens * trip.carry := by omega
    _ < trip.supply * trip.carry + trip.poolTokens * trip.carry := by omega
    _ = trip.total * trip.carry := (Int.add_mul _ _ _).symm

/-! ## Gain by carry -/

theorem total_mul_gainA_le_of_carry_nonpos (h : trip.carry ≤ 0) :
    trip.total * trip.gainA ≤ -trip.excessA := by
  have hA := trip.total_mul_gainA_le
  have hcarry := Int.mul_nonpos_of_nonneg_of_nonpos trip.poolTokens_nonneg h
  omega

theorem total_mul_gainB_le_of_carry_nonpos (h : trip.carry ≤ 0) :
    trip.total * (trip.gainB * trip.price) ≤ -(trip.poolTokens * trip.drift) := by
  have hB := trip.total_mul_gainB_le
  have hexcess := trip.excessB_nonneg
  have hcarry := Int.mul_nonpos_of_nonneg_of_nonpos trip.poolTokens_nonneg
    (Int.mul_nonpos_of_nonneg_of_nonpos trip.scale_pos.le h)
  rw [Int.mul_sub] at hB
  omega

/-- If less of B is taken than of A, then an A was rounded up and is not paid back.
B gains less than that A was worth. -/
theorem gain_nonpos_of_drift_neg (h : trip.carry ≤ 0) (hneg : trip.drift < 0) :
    trip.gain ≤ 0 := by
  have hexcess : 0 < trip.excessA := by
    have := trip.supply_mul_drift
    have := trip.excessB_nonneg
    have := Int.mul_neg_of_pos_of_neg trip.supply_pos hneg
    apply pos_of_mul_pos_right _ trip.scale_pos.le
    omega
  have hgainA : trip.gainA < 0 := by
    have := trip.total_mul_gainA_le_of_carry_nonpos h
    apply neg_of_mul_neg_right _ trip.total_pos.le
    omega
  have hgainB : trip.gainB * trip.price < trip.scale := by
    have hB := trip.total_mul_gainB_le_of_carry_nonpos h
    have hdrift := Int.mul_le_mul_of_nonneg_left trip.neg_scale_lt_drift.le
      trip.poolTokens_nonneg
    have hsupply := Int.mul_pos trip.supply_pos trip.scale_pos
    apply lt_of_mul_lt_mul_left _ trip.total_pos.le
    rw [Int.mul_neg] at hdrift
    rw [total, Int.add_mul trip.supply _ trip.scale, ← total]
    omega
  have hlostA := Int.mul_le_mul_of_nonneg_right (Int.le_sub_one_of_lt hgainA) trip.scale_pos.le
  unfold gain
  omega

/-- Otherwise neither token is gained. -/
theorem gain_nonpos_of_drift_nonneg (h : trip.carry ≤ 0) (hnonneg : 0 ≤ trip.drift) :
    trip.gain ≤ 0 := by
  have hgainA : trip.gainA ≤ 0 := by
    have := trip.total_mul_gainA_le_of_carry_nonpos h
    have := trip.excessA_nonneg
    apply nonpos_of_mul_nonpos_right _ trip.total_pos
    omega
  have hgainB : trip.gainB * trip.price ≤ 0 := by
    have := trip.total_mul_gainB_le_of_carry_nonpos h
    have := Int.mul_nonneg trip.poolTokens_nonneg hnonneg
    apply nonpos_of_mul_nonpos_right _ trip.total_pos
    omega
  exact Int.add_nonpos (Int.mul_nonpos_of_nonpos_of_nonneg hgainA trip.scale_pos.le) hgainB

theorem gain_nonpos_of_carry_nonpos (h : trip.carry ≤ 0) : trip.gain ≤ 0 := by
  rcases lt_or_ge trip.drift 0 with hneg | hnonneg
  · exact trip.gain_nonpos_of_drift_neg h hneg
  · exact trip.gain_nonpos_of_drift_nonneg h hnonneg

/-- A carry of one pays no A, and B for what is left of the carry. -/
theorem gain_le_of_carry_eq_one (h : trip.carry = 1) :
    trip.gain ≤ trip.gainB * trip.price ∧
      trip.total * (trip.gainB * trip.price) + trip.supply * trip.scale
        ≤ trip.total * (trip.scale - trip.drift) := by
  constructor
  · have hgainA : trip.gainA < trip.carry := trip.gainA_lt_carry (by omega)
    have := Int.mul_nonpos_of_nonpos_of_nonneg (Int.le_of_lt_add_one (h ▸ hgainA))
      trip.scale_pos.le
    unfold gain
    omega
  · have hB := trip.total_mul_gainB_le
    have hdrift := trip.supply_mul_drift_le
    rw [h, Int.mul_one] at hB
    calc trip.total * (trip.gainB * trip.price) + trip.supply * trip.scale
        ≤ trip.poolTokens * (trip.scale - trip.drift) - trip.supply * trip.drift
          + trip.supply * trip.scale := by omega
      _ = trip.total * (trip.scale - trip.drift) := by
          unfold total
          ring

/-- If B was rounded up by more than is carried, some of it is not paid back. -/
theorem gainB_neg (hcarry : trip.scale * trip.carry ≤ trip.drift) (hdrift : 0 < trip.drift) :
    trip.gainB < 0 := by
  have hB := trip.total_mul_gainB_le
  have hpart := Int.mul_nonpos_of_nonneg_of_nonpos trip.poolTokens_nonneg
    (Int.sub_nonpos_of_le hcarry)
  have hexcess := Int.mul_pos trip.supply_pos hdrift
  have := trip.supply_mul_drift_le
  apply neg_of_mul_neg_left _ trip.price_pos.le
  apply neg_of_mul_neg_right _ trip.total_pos.le
  omega

/-- A greater carry comes from a B that was rounded up by more. One B at least is lost,
and it is worth more than what is gained of A. -/
theorem gain_nonpos_of_two_le_carry (h : 2 ≤ trip.carry) : trip.gain ≤ 0 := by
  have hscale : trip.scale ≤ trip.scale * (trip.carry - 1) :=
    le_mul_of_one_le_right trip.scale_pos.le (by omega)
  have hsplit : trip.scale * trip.carry = trip.scale * (trip.carry - 1) + trip.scale := by ring
  have hpos := trip.scale_pos
  have hdrift := trip.two_mul_carry_lt_drift
  have hprice := trip.drift_lt_price
  have hgainA : trip.gainA * trip.scale ≤ trip.scale * (trip.carry - 1) := by
    rw [Int.mul_comm trip.scale]
    exact Int.mul_le_mul_of_nonneg_right
      (Int.le_sub_one_of_lt (trip.gainA_lt_carry (by omega))) hpos.le
  have hgainB : trip.gainB < 0 := trip.gainB_neg (by omega) (by omega)
  have hlostB := Int.mul_le_mul_of_nonneg_right (Int.le_sub_one_of_lt hgainB) trip.price_pos.le
  unfold gain
  omega

/-- A gain takes a price below one, and a value that dropped more than one. It is
no more than what was dropped beyond one, less a part of one that the supply before the
mint keeps. -/
theorem gain_le (h : 0 < trip.gain) :
    trip.price < trip.scale ∧ trip.scale < trip.dropped ∧
      trip.total * trip.gain + trip.supply * trip.scale
        ≤ trip.total * (trip.dropped - trip.scale) := by
  have hcarry : trip.carry = 1 := by
    have hpos : ¬ trip.carry ≤ 0 := fun hle =>
      absurd (trip.gain_nonpos_of_carry_nonpos hle) (by omega)
    have htwo : ¬ 2 ≤ trip.carry := fun hle =>
      absurd (trip.gain_nonpos_of_two_le_carry hle) (by omega)
    omega
  obtain ⟨hgain, hgainB⟩ := trip.gain_le_of_carry_eq_one hcarry
  have hdrift := trip.carry_le
  rw [hcarry, Int.mul_one] at hdrift
  have hsupply := Int.mul_pos trip.supply_pos trip.scale_pos
  have htotal := trip.total_pos
  have hbound : trip.total * trip.gain + trip.supply * trip.scale
      ≤ trip.total * (trip.dropped - trip.scale) := by
    have := Int.mul_le_mul_of_nonneg_left hgain htotal.le
    have : trip.total * (trip.scale - trip.drift)
        ≤ trip.total * (trip.dropped - trip.scale) :=
      Int.mul_le_mul_of_nonneg_left (by omega) htotal.le
    omega
  refine ⟨?_, ?_, hbound⟩
  · have hdropped := trip.dropped_lt
    have hlt : trip.gainB * trip.price < trip.scale - trip.drift := by
      apply lt_of_mul_lt_mul_left _ htotal.le
      omega
    have hone : 1 ≤ trip.gainB := pos_of_mul_pos_left (h.trans_le hgain) trip.price_pos.le
    have := le_mul_of_one_le_left trip.price_pos.le hone
    omega
  · have := Int.mul_pos htotal h
    have : 0 < trip.dropped - trip.scale := by
      apply pos_of_mul_pos_right _ htotal.le
      omega
    omega

end RoundTrip

/-! ## Round trips of a pool -/

section Pool

variable {p r t : Nat} {pool : Pool} {taken paid : TokenAmounts}

theorem Pool.dropped_lt (pool : Pool) (p : Nat) (hr : 0 < r) : pool.dropped p r < 2 * r := by
  have hodd := Nat.mod_lt (pool.tokenA + pool.tokenB * p / r) Nat.two_pos
  have hhalf := Nat.mul_le_mul_right r (Nat.le_of_lt_succ hodd)
  have hfraction := Nat.mod_lt (pool.tokenB * p) hr
  unfold dropped
  omega

/-- A mint and the burn of the same pool tokens, both answered at one price,
are a round trip. -/
theorem exists_roundTrip
    (htaken : ((⟨p, r⟩ : Price).valueShare t pool.supply pool.tokenA pool.tokenB .ceiling).value
      = some taken)
    (hpaid : ((⟨p, r⟩ : Price).valueShare t (pool.takeIn taken t).supply
      (pool.takeIn taken t).tokenA (pool.takeIn taken t).tokenB .floor).value = some paid) :
    ∃ trip : RoundTrip, trip.price = p ∧ trip.scale = r ∧ trip.supply = pool.supply ∧
      trip.poolTokens = t ∧ trip.dropped = pool.dropped p r ∧
      trip.gain = paid.worth p r - taken.worth p r := by
  obtain ⟨hp, hs, v, hv, hleA, hltA, hleB, hltB⟩ := Price.taken_bounds_of_valueShare htaken
  obtain ⟨v', hv', hpaidA, hpaidB⟩ := Price.paid_le_of_valueShare hpaid
  obtain ⟨-, hr, -⟩ := Price.scale_of_normalizedValue hv
  have hdropped := Pool.dropped_lt pool p hr
  have hvalueAfter := Pool.two_mul_normalizedValue_le hv'
  rw [Pool.worth_takeIn, TokenAmounts.worth, Pool.worth_eq_of_normalizedValue hv] at hvalueAfter
  let trip : RoundTrip :=
    { price := p, scale := r, supply := pool.supply, poolTokens := t
      value := v, dropped := pool.dropped p r
      takenA := taken.tokenA, takenB := taken.tokenB
      valueAfter := v'
      paidA := paid.tokenA, paidB := paid.tokenB
      scale_pos := by exact_mod_cast hr
      price_pos := by exact_mod_cast hp
      supply_pos := by exact_mod_cast hs
      poolTokens_nonneg := Int.natCast_nonneg t
      dropped_lt := by exact_mod_cast hdropped
      le_takenA := by exact_mod_cast hleA
      takenA_lt := by exact_mod_cast hltA
      le_takenB := by exact_mod_cast hleB
      takenB_lt := by exact_mod_cast hltB
      valueAfter_le := by
        zify at hvalueAfter
        linarith
      paidA_le := by exact_mod_cast hpaidA
      paidB_le := by exact_mod_cast hpaidB }
  refine ⟨trip, rfl, rfl, rfl, rfl, rfl, ?_⟩
  simp only [trip, RoundTrip.gain, RoundTrip.gainA, RoundTrip.gainB, TokenAmounts.worth]
  push_cast
  ring

/-- More than one token A is dropped only if an odd one is, and a fraction of B. -/
theorem Pool.of_lt_dropped (hr : 0 < r) (h : r < pool.dropped p r) :
    Odd (pool.tokenA + pool.tokenB * p / r) ∧
      pool.dropped p r = r + pool.tokenB * p % r := by
  have hfraction := Nat.mod_lt (pool.tokenB * p) hr
  rcases Nat.mod_two_eq_zero_or_one (pool.tokenA + pool.tokenB * p / r) with heven | hodd
  · rw [dropped, heven] at h
    omega
  · exact ⟨Nat.odd_iff.2 hodd, by rw [dropped, hodd, Nat.one_mul]⟩

/-- What the trip gains at a price, in the amounts of the pool. -/
theorem Price.gain_le_of_valueShare
    (htaken : ((⟨p, r⟩ : Price).valueShare t pool.supply pool.tokenA pool.tokenB .ceiling).value
      = some taken)
    (hpaid : ((⟨p, r⟩ : Price).valueShare t (pool.takeIn taken t).supply
      (pool.takeIn taken t).tokenA (pool.takeIn taken t).tokenB .floor).value = some paid)
    (hgain : taken.worth p r < paid.worth p r) :
    p < r ∧ Odd (pool.tokenA + pool.tokenB * p / r) ∧
      (pool.supply + t) * paid.worth p r + pool.supply * r
        ≤ (pool.supply + t) * (taken.worth p r + pool.tokenB * p % r) := by
  obtain ⟨trip, hprice, hscale, hsupply, hpoolTokens, hdropped, htrip⟩ :=
    exists_roundTrip htaken hpaid
  have hpos : 0 < trip.gain := by omega
  obtain ⟨hlt, hmore, hbound⟩ := trip.gain_le hpos
  rw [hprice, hscale] at hlt
  rw [hscale, hdropped] at hmore
  have hr : 0 < r := by have := trip.scale_pos; omega
  obtain ⟨hodd, hfraction⟩ := Pool.of_lt_dropped hr (by exact_mod_cast hmore)
  refine ⟨by exact_mod_cast hlt, hodd, ?_⟩
  rw [RoundTrip.total, hsupply, hpoolTokens, hscale, hdropped, hfraction, htrip] at hbound
  push_cast at hbound
  zify
  linarith

end Pool

namespace RedemptionRate

/-- Who mints pool tokens and burns them at once gains less than one token A. A
gain takes a B that is worth less than that and a pool whose worth in whole tokens A
is odd, and it is less than the fraction that the worth of its B has. -/
theorem round_trip_gain {record : RedemptionRate} {timestamp : Int} {p t : Nat} {pool : Pool}
    {taken paid : TokenAmounts} (hrate : (record.conversionRate timestamp).value = some p)
    (htaken : ((Curve.redemptionRate record).share t pool.supply pool.tokenA pool.tokenB
      .ceiling (some timestamp)).value = some taken)
    (hpaid : ((Curve.redemptionRate record).share t (pool.takeIn taken t).supply
      (pool.takeIn taken t).tokenA (pool.takeIn taken t).tokenB .floor (some timestamp)).value
      = some paid) :
    paid.worth p record.ray.toNat < taken.worth p record.ray.toNat + record.ray.toNat ∧
    (taken.worth p record.ray.toNat < paid.worth p record.ray.toNat →
      p < record.ray.toNat ∧ Odd (pool.tokenA + pool.tokenB * p / record.ray.toNat) ∧
      (pool.supply + t) * paid.worth p record.ray.toNat + pool.supply * record.ray.toNat
        ≤ (pool.supply + t)
          * (taken.worth p record.ray.toNat + pool.tokenB * p % record.ray.toNat)) := by
  rw [Curve.value_share_of_conversionRate hrate] at htaken hpaid
  refine ⟨?_, Price.gain_le_of_valueShare htaken hpaid⟩
  obtain ⟨-, hsupply, v, hv, -⟩ := Price.taken_bounds_of_valueShare htaken
  obtain ⟨-, hr, -⟩ := Price.scale_of_normalizedValue hv
  rcases Nat.lt_or_ge (taken.worth p record.ray.toNat) (paid.worth p record.ray.toNat)
    with hgain | hle
  · obtain ⟨-, -, hbound⟩ := Price.gain_le_of_valueShare htaken hpaid hgain
    have hkept := Nat.mul_pos hsupply hr
    have hfraction := Nat.mod_lt (pool.tokenB * p) hr
    have hlt : paid.worth p record.ray.toNat
        < taken.worth p record.ray.toNat + pool.tokenB * p % record.ray.toNat := by
      apply Nat.lt_of_mul_lt_mul_left (a := pool.supply + t)
      omega
    omega
  · omega

/-- A record whose index has been three tenths since the start. -/
def threeTenths : RedemptionRate :=
  { initial with chi := ⟨3 * Ray.one / 10, by decide⟩ }

/-- Half of a pool is minted for 2.2 tokens A in all and redeemed for 2.5. -/
theorem round_trip_may_gain :
    let p := 3 * Ray.one / 10
    let pool : Pool := ⟨3, 3, 1⟩
    let minted := pool.takeIn ⟨1, 4⟩ 1
    (threeTenths.conversionRate 0).value = some p ∧ 0 < p ∧ 0 < pool.supply ∧
    ((Curve.redemptionRate threeTenths).share (1 : Nat) pool.supply pool.tokenA pool.tokenB
      .ceiling (some 0)).value = some ⟨1, 4⟩ ∧
    ((Curve.redemptionRate threeTenths).share (1 : Nat) minted.supply minted.tokenA
      minted.tokenB .floor (some 0)).value = some ⟨1, 5⟩ ∧
    (⟨1, 4⟩ : TokenAmounts).worth p threeTenths.ray.toNat
      < (⟨1, 5⟩ : TokenAmounts).worth p threeTenths.ray.toNat := by
  decide +kernel

/-- The gain above is three tenths of a token A, and the worth of the pool's B has the
fraction nine tenths. -/
theorem round_trip_gain_threeTenths :
    let p := 3 * Ray.one / 10
    let pool : Pool := ⟨3, 3, 1⟩
    let minted := pool.takeIn ⟨1, 4⟩ 1
    (threeTenths.conversionRate 0).value = some p ∧
    ((Curve.redemptionRate threeTenths).share (1 : Nat) pool.supply pool.tokenA pool.tokenB
      .ceiling (some 0)).value = some ⟨1, 4⟩ ∧
    ((Curve.redemptionRate threeTenths).share (1 : Nat) minted.supply minted.tokenA
      minted.tokenB .floor (some 0)).value = some ⟨1, 5⟩ ∧
    (⟨1, 5⟩ : TokenAmounts).worth p threeTenths.ray.toNat
      < (⟨1, 4⟩ : TokenAmounts).worth p threeTenths.ray.toNat + threeTenths.ray.toNat ∧
    p < threeTenths.ray.toNat ∧ Odd (pool.tokenA + pool.tokenB * p / threeTenths.ray.toNat) ∧
    (pool.supply + 1) * (⟨1, 5⟩ : TokenAmounts).worth p threeTenths.ray.toNat
        + pool.supply * threeTenths.ray.toNat
      ≤ (pool.supply + 1) * ((⟨1, 4⟩ : TokenAmounts).worth p threeTenths.ray.toNat
        + pool.tokenB * p % threeTenths.ray.toNat) := by
  intro p pool minted
  have hrate : (threeTenths.conversionRate 0).value = some p := by decide +kernel
  have htaken : ((Curve.redemptionRate threeTenths).share (1 : Nat) pool.supply pool.tokenA
      pool.tokenB .ceiling (some 0)).value = some ⟨1, 4⟩ := by decide +kernel
  have hpaid : ((Curve.redemptionRate threeTenths).share (1 : Nat) minted.supply minted.tokenA
      minted.tokenB .floor (some 0)).value = some ⟨1, 5⟩ := by decide +kernel
  obtain ⟨hlt, hgain⟩ := round_trip_gain hrate htaken hpaid
  exact ⟨hrate, htaken, hpaid, hlt, hgain (by decide)⟩

end RedemptionRate

end PegPool
