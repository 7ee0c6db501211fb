import PegPool.Proofs.Pool

/-!
# Shares of the value

Under an index, pool tokens stand for a part of the pool's value, half of which
is told in each token. The value has lost fractions before it is shared out,
and what is paid loses more, so those who stay are never left with less. What
is taken in is rounded up, but of a value that was rounded down.
-/

namespace PegPool

namespace Price

variable {p r t s a b : Nat} {amounts : TokenAmounts}

/-! ## Exact answers -/

/-- The unit of a value is not zero and wide at most. -/
theorem scale_of_normalizedValue {v : Nat}
    (hv : ((⟨p, r⟩ : Price).normalizedValue a b).value = some v) :
    p ≤ wideMax ∧ 0 < r ∧ r ≤ wideMax ∧ v ≤ wideMax := by
  obtain ⟨⟨-, hp, hr, -, hne⟩, -, hnarrow⟩ := value_normalizedValue_eq_some_iff.1 hv
  exact ⟨hp, Nat.pos_of_ne_zero hne, hr, hnarrow.trans narrowMax_le_wideMax⟩

/-- What is paid out is rounded down and held to the reserves. Dividing by the
price and then by the supply is one division. -/
theorem value_valueShare_floor_eq_some_iff :
    ((⟨p, r⟩ : Price).valueShare t s a b .floor).value = some amounts ↔
      ∃ v, ((⟨p, r⟩ : Price).normalizedValue a b).value = some v ∧
        (t ≤ wideMax ∧ s ≤ wideMax ∧ t * v * r ≤ wideMax ∧ s ≠ 0 ∧ p ≠ 0) ∧
        amounts = ⟨min (t * v / s) a, min (t * v * r / (p * s)) b⟩ ∧
        min (t * v / s) a ≤ narrowMax ∧ min (t * v * r / (p * s)) b ≤ narrowMax := by
  unfold valueShare valueShareWide
  simp only [Logged.value_andThen, Option.bind_eq_some_iff, Logged.value_ofFormula_eq_some_iff,
    map_eq_ok_iff, bind_eq_ok_iff, pure_eq_ok_iff, Wide.ofInt_natCast_eq_ok_iff,
    Wide.mul_natCast_eq_ok_iff, Wide.div_natCast_eq_ok_iff, Wide.min_natCast_eq_ok_iff,
    Wide.narrow_eq_ok_iff, Option.some.injEq]
  constructor
  · rintro ⟨_, hv, _, ⟨t, rfl, v, rfl, value, hvalue, s, rfl, p, rfl, r, rfl, scaled, hscaled,
      shareA, ⟨hs, hshareA⟩, tokenA, htokenA, valueB, ⟨hp, hvalueB⟩, shareB, ⟨-, hshareB⟩, tokenB,
      htokenB, _, ⟨rfl, hnarrowA⟩, _, ⟨rfl, hnarrowB⟩, rfl⟩, rfl⟩
    rw [hvalue] at hshareA hscaled
    rw [hshareA] at htokenA
    rw [hshareB, hvalueB, hscaled, Nat.div_div_eq_div_mul] at htokenB
    rw [htokenA] at hnarrowA ⊢
    rw [htokenB] at hnarrowB ⊢
    exact ⟨v.toNat, hv, ⟨t.toNat_le, s.toNat_le, hscaled ▸ scaled.toNat_le, hs, hp⟩, rfl,
      hnarrowA, hnarrowB⟩
  · rintro ⟨v, hv, ⟨ht, hs, hscaled, hsne, hpne⟩, rfl, hnarrowA, hnarrowB⟩
    obtain ⟨hp, hrpos, hr, hvwide⟩ := scale_of_normalizedValue hv
    have hvalue : t * v ≤ wideMax := (Nat.le_mul_of_pos_right _ hrpos).trans hscaled
    rw [← Nat.div_div_eq_div_mul] at hnarrowB ⊢
    exact ⟨v, hv, _, ⟨⟨t, ht⟩, rfl, ⟨v, hvwide⟩, rfl, ⟨t * v, hvalue⟩, rfl, ⟨s, hs⟩, rfl, ⟨p, hp⟩,
      rfl, ⟨r, hr⟩, rfl, ⟨t * v * r, hscaled⟩, rfl,
      ⟨t * v / s, (Nat.div_le_self _ _).trans hvalue⟩, ⟨hsne, rfl⟩,
      ⟨_, hnarrowA.trans narrowMax_le_wideMax⟩, rfl,
      ⟨t * v * r / p, (Nat.div_le_self _ _).trans hscaled⟩, ⟨hpne, rfl⟩,
      ⟨t * v * r / p / s, (Nat.div_le_self _ _).trans ((Nat.div_le_self _ _).trans hscaled)⟩,
      ⟨hsne, rfl⟩, ⟨_, hnarrowB.trans narrowMax_le_wideMax⟩, rfl, _, ⟨rfl, hnarrowA⟩, _,
      ⟨rfl, hnarrowB⟩, rfl⟩, rfl⟩

/-- What is taken in is rounded up, and no reserve limits it. -/
theorem value_valueShare_ceiling_eq_some_iff :
    ((⟨p, r⟩ : Price).valueShare t s a b .ceiling).value = some amounts ↔
      ∃ v, ((⟨p, r⟩ : Price).normalizedValue a b).value = some v ∧
        (t ≤ wideMax ∧ s ≤ wideMax ∧ t * v * r ≤ wideMax ∧ s ≠ 0 ∧ p ≠ 0) ∧
        amounts = ⟨(t * v) ⌈/⌉ s, (t * v * r) ⌈/⌉ (p * s)⟩ ∧
        (t * v) ⌈/⌉ s ≤ narrowMax ∧ (t * v * r) ⌈/⌉ (p * s) ≤ narrowMax := by
  unfold valueShare valueShareWide
  simp only [Logged.value_andThen, Option.bind_eq_some_iff, Logged.value_ofFormula_eq_some_iff,
    map_eq_ok_iff, bind_eq_ok_iff, pure_eq_ok_iff, Wide.ofInt_natCast_eq_ok_iff,
    Wide.mul_natCast_eq_ok_iff, Wide.ceilDiv_natCast_eq_ok_iff, Wide.narrow_eq_ok_iff,
    Option.some.injEq]
  constructor
  · rintro ⟨_, hv, _, ⟨t, rfl, v, rfl, value, hvalue, s, rfl, p, rfl, r, rfl, scaled, hscaled,
      tokenA, ⟨hs, htokenA⟩, valueB, ⟨hp, hvalueB⟩, tokenB, ⟨-, htokenB⟩, _, ⟨rfl, hnarrowA⟩, _,
      ⟨rfl, hnarrowB⟩, rfl⟩, rfl⟩
    rw [hvalue] at htokenA hscaled
    rw [hvalueB, hscaled,
      Wide.ceilDiv_ceilDiv (Nat.pos_of_ne_zero hp) (Nat.pos_of_ne_zero hs)] at htokenB
    rw [htokenA] at hnarrowA ⊢
    rw [htokenB] at hnarrowB ⊢
    exact ⟨v.toNat, hv, ⟨t.toNat_le, s.toNat_le, hscaled ▸ scaled.toNat_le, hs, hp⟩, rfl,
      hnarrowA, hnarrowB⟩
  · rintro ⟨v, hv, ⟨ht, hs, hscaled, hsne, hpne⟩, rfl, hnarrowA, hnarrowB⟩
    obtain ⟨hp, hrpos, hr, hvwide⟩ := scale_of_normalizedValue hv
    have hvalue : t * v ≤ wideMax := (Nat.le_mul_of_pos_right _ hrpos).trans hscaled
    have hvalueB : (t * v * r) ⌈/⌉ p ≤ wideMax := by
      rw [ceilDiv_le_iff_le_mul (Nat.pos_of_ne_zero hpne)]
      exact hscaled.trans (Nat.le_mul_of_pos_left _ (Nat.pos_of_ne_zero hpne))
    rw [← Wide.ceilDiv_ceilDiv (Nat.pos_of_ne_zero hpne) (Nat.pos_of_ne_zero hsne)]
      at hnarrowB ⊢
    exact ⟨v, hv, _, ⟨⟨t, ht⟩, rfl, ⟨v, hvwide⟩, rfl, ⟨t * v, hvalue⟩, rfl, ⟨s, hs⟩, rfl, ⟨p, hp⟩,
      rfl, ⟨r, hr⟩, rfl, ⟨t * v * r, hscaled⟩, rfl, ⟨_, hnarrowA.trans narrowMax_le_wideMax⟩,
      ⟨hsne, rfl⟩, ⟨_, hvalueB⟩, ⟨hpne, rfl⟩, ⟨_, hnarrowB.trans narrowMax_le_wideMax⟩,
      ⟨hsne, rfl⟩, _, ⟨rfl, hnarrowA⟩, _, ⟨rfl, hnarrowB⟩, rfl⟩, rfl⟩

/-! ## Bounds -/

theorem le_reserves_of_valueShare
    (h : ((⟨p, r⟩ : Price).valueShare t s a b .floor).value = some amounts) :
    amounts.tokenA ≤ a ∧ amounts.tokenB ≤ b := by
  obtain ⟨v, -, -, rfl, -⟩ := value_valueShare_floor_eq_some_iff.1 h
  exact ⟨Nat.min_le_right _ _, Nat.min_le_right _ _⟩

/-- No token is paid more of than covers the part of the value. -/
theorem paid_le_of_valueShare
    (h : ((⟨p, r⟩ : Price).valueShare t s a b .floor).value = some amounts) :
    ∃ v, ((⟨p, r⟩ : Price).normalizedValue a b).value = some v ∧
      s * amounts.tokenA ≤ t * v ∧ s * (p * amounts.tokenB) ≤ t * v * r := by
  obtain ⟨v, hv, -, rfl, -⟩ := value_valueShare_floor_eq_some_iff.1 h
  refine ⟨v, hv, ?_, ?_⟩
  · exact (Nat.mul_le_mul_left s (Nat.min_le_left _ _)).trans (Nat.mul_div_le _ _)
  · rw [← Nat.mul_assoc, Nat.mul_comm s]
    exact (Nat.mul_le_mul_left _ (Nat.min_le_left _ _)).trans (Nat.mul_div_le _ _)

/-- Of each token the least amount is taken that covers the part of the value. -/
theorem taken_bounds_of_valueShare
    (h : ((⟨p, r⟩ : Price).valueShare t s a b .ceiling).value = some amounts) :
    0 < p ∧ 0 < s ∧ ∃ v, ((⟨p, r⟩ : Price).normalizedValue a b).value = some v ∧
      t * v ≤ s * amounts.tokenA ∧ s * amounts.tokenA < t * v + s ∧
      t * v * r ≤ s * (p * amounts.tokenB) ∧ s * (p * amounts.tokenB) < t * v * r + s * p := by
  obtain ⟨v, hv, ⟨-, -, -, hs, hp⟩, rfl, -⟩ := value_valueShare_ceiling_eq_some_iff.1 h
  have hspos := Nat.pos_of_ne_zero hs
  have hppos := Nat.pos_of_ne_zero hp
  have hpos := Nat.mul_pos hppos hspos
  refine ⟨hppos, hspos, v, hv, le_smul_ceilDiv hspos, ?_, ?_, ?_⟩
  · rw [Nat.mul_comm s]
    exact Wide.ceilDiv_mul_lt hspos
  · rw [← Nat.mul_assoc, Nat.mul_comm s]
    exact le_smul_ceilDiv hpos
  · rw [← Nat.mul_assoc, Nat.mul_comm s, Nat.mul_comm (p * s)]
    exact Wide.ceilDiv_mul_lt hpos

end Price

/-! ## Worth of a share -/

/-- What amounts of both tokens are worth. -/
def TokenAmounts.worth (p r : Nat) (amounts : TokenAmounts) : Nat :=
  amounts.tokenA * r + amounts.tokenB * p

namespace Pool

/-- The pool once both tokens were taken in for new pool tokens. -/
def takeIn (pool : Pool) (taken : TokenAmounts) (poolTokens : Nat) : Pool :=
  ⟨pool.tokenA + taken.tokenA, pool.tokenB + taken.tokenB, pool.supply + poolTokens⟩

/-- The pool once both tokens were paid out for pool tokens that are burnt. -/
def payOut (pool : Pool) (paid : TokenAmounts) (poolTokens : Nat) : Pool :=
  ⟨pool.tokenA - paid.tokenA, pool.tokenB - paid.tokenB, pool.supply - poolTokens⟩

variable {p r t v : Nat} {pool : Pool} {taken paid : TokenAmounts}

theorem worth_takeIn (poolTokens : Nat) :
    (pool.takeIn taken poolTokens).worth p r = pool.worth p r + taken.worth p r := by
  rw [worth, worth, TokenAmounts.worth, takeIn, Nat.add_mul, Nat.add_mul,
    Nat.add_add_add_comm]

theorem worth_payOut_add (hA : paid.tokenA ≤ pool.tokenA) (hB : paid.tokenB ≤ pool.tokenB)
    (poolTokens : Nat) :
    (pool.payOut paid poolTokens).worth p r + paid.worth p r = pool.worth p r := by
  rw [worth, worth, TokenAmounts.worth, payOut, Nat.add_add_add_comm, ← Nat.add_mul,
    ← Nat.add_mul, Nat.sub_add_cancel hA, Nat.sub_add_cancel hB]

/-- What a value leaves out of the worth: an odd token A, and the fraction of B. -/
def dropped (p r : Nat) (pool : Pool) : Nat :=
  (pool.tokenA + pool.tokenB * p / r) % 2 * r + pool.tokenB * p % r

theorem worth_eq_of_normalizedValue
    (hv : ((⟨p, r⟩ : Price).normalizedValue pool.tokenA pool.tokenB).value = some v) :
    pool.worth p r = 2 * (v * r) + pool.dropped p r := by
  obtain ⟨-, rfl, -⟩ := Price.value_normalizedValue_eq_some_iff.1 hv
  have hhalf := Nat.div_add_mod (pool.tokenA + pool.tokenB * p / r) 2
  rw [worth_eq_whole_mul_add, wholeWorth, dropped, ← Nat.add_assoc, ← Nat.mul_assoc,
    ← Nat.add_mul, hhalf]

theorem two_mul_normalizedValue_le
    (hv : ((⟨p, r⟩ : Price).normalizedValue pool.tokenA pool.tokenB).value = some v) :
    2 * (v * r) ≤ pool.worth p r :=
  worth_eq_of_normalizedValue hv ▸ Nat.le_add_right _ _

/-- What is paid for pool tokens is worth no more than their part of the pool. -/
theorem worth_mul_le_of_valueShare
    (h : ((⟨p, r⟩ : Price).valueShare t pool.supply pool.tokenA pool.tokenB .floor).value
      = some paid) : paid.worth p r * pool.supply ≤ t * pool.worth p r := by
  obtain ⟨v, hv, hA, hB⟩ := Price.paid_le_of_valueShare h
  -- each token is paid for half of the worth
  calc paid.worth p r * pool.supply
      = pool.supply * paid.tokenA * r + pool.supply * (p * paid.tokenB) := by
        rw [TokenAmounts.worth, Nat.mul_comm, Nat.mul_add, Nat.mul_assoc, Nat.mul_comm p]
    _ ≤ t * v * r + t * v * r := Nat.add_le_add (Nat.mul_le_mul_right r hA) hB
    _ = t * (2 * (v * r)) := by rw [← Nat.two_mul, Nat.mul_assoc t, Nat.mul_left_comm]
    _ ≤ t * pool.worth p r := Nat.mul_le_mul_left t (two_mul_normalizedValue_le hv)

end Pool

namespace RedemptionRate

/-- Burning pool tokens under an index never dilutes the holders who stay: both
reserves cover what is paid, and the worth per pool token does not fall. -/
theorem burn_never_dilutes {record : RedemptionRate} {timestamp : Int} {p t : Nat} {pool : Pool}
    {paid : TokenAmounts} (hrate : (record.conversionRate timestamp).value = some p)
    (hpaid : ((Curve.redemptionRate record).share t pool.supply pool.tokenA pool.tokenB .floor
      (some timestamp)).value = some paid) :
    paid.tokenA ≤ pool.tokenA ∧ paid.tokenB ≤ pool.tokenB ∧
      pool.worth p record.ray.toNat * (pool.supply - t)
        ≤ (pool.payOut paid t).worth p record.ray.toNat * pool.supply := by
  rw [Curve.value_share_of_conversionRate hrate] at hpaid
  have hpart := Pool.worth_mul_le_of_valueShare hpaid
  obtain ⟨hA, hB⟩ := Price.le_reserves_of_valueShare hpaid
  refine ⟨hA, hB, ?_⟩
  have hleft := Pool.worth_payOut_add (p := p) (r := record.ray.toNat) hA hB t
  calc pool.worth p record.ray.toNat * (pool.supply - t)
      = pool.worth p record.ray.toNat * pool.supply - t * pool.worth p record.ray.toNat := by
        rw [Nat.mul_sub, Nat.mul_comm _ t]
    _ ≤ pool.worth p record.ray.toNat * pool.supply
        - paid.worth p record.ray.toNat * pool.supply := Nat.sub_le_sub_left hpart _
    _ = (pool.payOut paid t).worth p record.ray.toNat * pool.supply := by
        rw [← Nat.sub_mul, ← hleft, Nat.add_sub_cancel]

/-- A record whose index has been three quarters since the start. -/
def threeQuarters : RedemptionRate :=
  { initial with chi := ⟨3 * Ray.one / 4, by decide⟩ }

/-- Seven of thirty pool tokens are paid 34.25 tokens A in all, of 36.34 that
they stand for. -/
theorem burn_never_dilutes_threeQuarters :
    let pool : Pool := ⟨101, 73, 30⟩
    let left := pool.payOut ⟨17, 23⟩ 7
    let p := 3 * Ray.one / 4
    (threeQuarters.conversionRate 0).value = some p ∧
    ((Curve.redemptionRate threeQuarters).share (7 : Nat) pool.supply pool.tokenA pool.tokenB
      .floor (some 0)).value = some ⟨17, 23⟩ ∧
    pool.worth p threeQuarters.ray.toNat * (pool.supply - 7)
      ≤ left.worth p threeQuarters.ray.toNat * pool.supply := by
  intro pool left p
  have hrate : (threeQuarters.conversionRate 0).value = some p := by decide +kernel
  have hpaid : ((Curve.redemptionRate threeQuarters).share (7 : Nat) pool.supply pool.tokenA
      pool.tokenB .floor (some 0)).value = some ⟨17, 23⟩ := by decide +kernel
  obtain ⟨-, -, hleft⟩ := burn_never_dilutes hrate hpaid
  exact ⟨hrate, hpaid, hleft⟩

end RedemptionRate

end PegPool
