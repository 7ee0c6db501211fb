import PegPool.Proofs.Dilution
import PegPool.Proofs.ValueShare

/-!
# Shares in portions

Pool tokens are burnt or minted in portions, each quoted against what the ones before it
left. Rounding leaves something in the pool every time, so a later portion is paid better,
or charged more, than the same part of a whole would be. A bound for each portion does
therefore not add up. What adds up is that no reserve loses anything per pool token: from the
first pool to the last this is one inequality, and it bounds the sum of all portions.
-/

namespace PegPool

/-- The amounts of all shares together. -/
def TokenAmounts.sum (amounts : List TokenAmounts) : TokenAmounts :=
  ⟨(amounts.map tokenA).sum, (amounts.map tokenB).sum⟩

namespace Pool

/-- The pool after a share that was quoted: paid out if it was rounded down, taken in if it
was rounded up. -/
def settle (pool : Pool) (amounts : TokenAmounts) (poolTokens : Nat) : Rounding → Pool
  | .floor => pool.payOut amounts poolTokens
  | .ceiling => pool.takeIn amounts poolTokens

/-- What each portion of pool tokens is quoted, one after another. -/
def portions? (curve : Curve) (rounding : Rounding) (timestamp : Option Int) :
    Pool → List Nat → Option (List TokenAmounts)
  | _, [] => some []
  | pool, portion :: portions => do
    let first ← (curve.share portion pool.supply pool.tokenA pool.tokenB rounding
      timestamp).value
    let rest ← portions? curve rounding timestamp (pool.settle first portion rounding) portions
    some (first :: rest)

theorem portions?_cons_eq_some_iff {curve : Curve} {rounding : Rounding}
    {timestamp : Option Int} {pool : Pool} {portion : Nat} {portions : List Nat}
    {quoted : List TokenAmounts} :
    pool.portions? curve rounding timestamp (portion :: portions) = some quoted ↔
      ∃ first, (curve.share portion pool.supply pool.tokenA pool.tokenB rounding
          timestamp).value = some first ∧
        ∃ rest, (pool.settle first portion rounding).portions? curve rounding timestamp portions
          = some rest ∧ first :: rest = quoted := by
  simp only [portions?, Option.bind_eq_bind, Option.bind_eq_some_iff, Option.some.injEq]

/-- Nothing is settled for no pool tokens. -/
theorem settle_sum_nil (pool : Pool) (rounding : Rounding) :
    pool.settle (.sum []) 0 rounding = pool := by
  cases rounding <;> rfl

/-- One share settled after the other is their sum settled at once. -/
theorem settle_settle (pool : Pool) (first : TokenAmounts) (rest : List TokenAmounts)
    (portion others : Nat) (rounding : Rounding) :
    (pool.settle first portion rounding).settle (.sum rest) others rounding
      = pool.settle (.sum (first :: rest)) (portion + others) rounding := by
  cases rounding
  · simp [settle, payOut, TokenAmounts.sum, Nat.sub_sub]
  · simp [settle, takeIn, TokenAmounts.sum, Nat.add_assoc]

section ConstantPrice

variable {record : ConstantPrice} {rounding : Rounding} {timestamp : Option Int} {pool : Pool}
  {portions : List Nat} {quoted : List TokenAmounts}

/-! ## What each reserve keeps -/

/-- Neither reserve holds less per pool token once a share is settled. -/
theorem undiluted_of_share {portion : Nat} {amounts : TokenAmounts}
    (h : ((Curve.constantPrice record).share portion pool.supply pool.tokenA pool.tokenB rounding
      timestamp).value = some amounts) :
    Undiluted tokenA pool (pool.settle amounts portion rounding) ∧
      Undiluted tokenB pool (pool.settle amounts portion rounding) := by
  obtain ⟨⟨-, -, -, -, -, -, hne⟩, rfl, -⟩ := value_reserveShare_eq_some_iff.1 h
  have hpos := Nat.pos_of_ne_zero hne
  cases rounding with
  | floor =>
    exact ⟨⟨reserve_mul_le_of_paid, fun hzero => absurd hzero hne⟩,
      ⟨reserve_mul_le_of_paid, fun hzero => absurd hzero hne⟩⟩
  | ceiling =>
    exact ⟨⟨reserve_mul_le_of_taken hpos, fun hzero => absurd hzero hne⟩,
      ⟨reserve_mul_le_of_taken hpos, fun hzero => absurd hzero hne⟩⟩

theorem undiluted_of_portions?
    (h : pool.portions? (.constantPrice record) rounding timestamp portions = some quoted) :
    Undiluted tokenA pool (pool.settle (.sum quoted) portions.sum rounding) ∧
      Undiluted tokenB pool (pool.settle (.sum quoted) portions.sum rounding) := by
  induction portions generalizing pool quoted with
  | nil =>
    cases h
    rw [List.sum_nil, settle_sum_nil]
    exact ⟨.refl pool, .refl pool⟩
  | cons portion portions ih =>
    obtain ⟨first, hfirst, rest, hrest, rfl⟩ := portions?_cons_eq_some_iff.1 h
    obtain ⟨hfirstA, hfirstB⟩ := undiluted_of_share hfirst
    obtain ⟨hrestA, hrestB⟩ := ih hrest
    rw [settle_settle] at hrestA hrestB
    rw [List.sum_cons]
    exact ⟨hfirstA.trans hrestA, hfirstB.trans hrestB⟩

/-- A pool without pool tokens quotes no portion. -/
theorem supply_ne_zero_of_portions? (hne : portions ≠ [])
    (h : pool.portions? (.constantPrice record) rounding timestamp portions = some quoted) :
    pool.supply ≠ 0 := by
  cases portions with
  | nil => exact absurd rfl hne
  | cons portion portions =>
    obtain ⟨first, hfirst, -⟩ := portions?_cons_eq_some_iff.1 h
    obtain ⟨⟨-, -, -, -, -, -, hsupply⟩, -⟩ := value_reserveShare_eq_some_iff.1 hfirst
    exact hsupply

/-- Portions of the pool tokens that there are are covered by both reserves. -/
theorem sum_le_reserves_of_portions? (hportions : portions.sum ≤ pool.supply)
    (h : pool.portions? (.constantPrice record) .floor timestamp portions = some quoted) :
    (TokenAmounts.sum quoted).tokenA ≤ pool.tokenA ∧
      (TokenAmounts.sum quoted).tokenB ≤ pool.tokenB := by
  induction portions generalizing pool quoted with
  | nil =>
    cases h
    exact ⟨Nat.zero_le _, Nat.zero_le _⟩
  | cons portion portions ih =>
    obtain ⟨first, hfirst, rest, hrest, rfl⟩ := portions?_cons_eq_some_iff.1 h
    rw [List.sum_cons] at hportions
    have hleft : portions.sum ≤ (pool.settle first portion .floor).supply := by
      show portions.sum ≤ pool.supply - portion
      omega
    obtain ⟨hrestA, hrestB⟩ := ih hleft hrest
    obtain ⟨-, rfl, -⟩ := value_reserveShare_eq_some_iff.1 hfirst
    have hportion : portion ≤ pool.supply := by omega
    have hA : portion * pool.tokenA / pool.supply ≤ pool.tokenA := div_le_reserve hportion
    have hB : portion * pool.tokenB / pool.supply ≤ pool.tokenB := div_le_reserve hportion
    simp only [settle, payOut, TokenAmounts.sum, Rounding.quotient, List.map_cons,
      List.sum_cons] at hrestA hrestB ⊢
    omega

/-! ## What the portions come to -/

variable {a s t x : Nat}

/-- What is paid of a reserve that loses nothing per pool token is at most its part. -/
theorem le_div_of_paid (hs : 0 < s) (ht : t ≤ s) (hx : x ≤ a)
    (h : a * (s - t) ≤ (a - x) * s) : x ≤ t * a / s := by
  rw [Nat.le_div_iff_mul_le hs]
  have hpaid : x * s ≤ a * s := Nat.mul_le_mul_right s hx
  have hpart : a * t ≤ a * s := Nat.mul_le_mul_left a ht
  rw [Nat.mul_sub, Nat.sub_mul] at h
  rw [Nat.mul_comm t]
  omega

/-- What is taken for a reserve that loses nothing per pool token is at least its part. -/
theorem ceilDiv_le_of_taken (hs : 0 < s) (h : a * (s + t) ≤ (a + x) * s) :
    (t * a) ⌈/⌉ s ≤ x := by
  rw [ceilDiv_le_iff_le_mul hs, Nat.mul_comm t, Nat.mul_comm s]
  rw [Nat.mul_add, Nat.add_mul] at h
  omega

/-- Pool tokens that there are can always be paid out at once. -/
theorem exists_share_floor (hA : pool.tokenA ≤ narrowMax) (hB : pool.tokenB ≤ narrowMax)
    (hsupply : pool.supply ≤ narrowMax) (hne : pool.supply ≠ 0) (ht : t ≤ pool.supply) :
    ∃ single, ((Curve.constantPrice record).share t pool.supply pool.tokenA pool.tokenB .floor
      timestamp).value = some single := by
  have htnarrow := ht.trans hsupply
  refine ⟨_, value_reserveShare_eq_some_iff.2 ⟨⟨htnarrow.trans narrowMax_le_wideMax,
    hsupply.trans narrowMax_le_wideMax, hA.trans narrowMax_le_wideMax,
    hB.trans narrowMax_le_wideMax, mul_le_wideMax htnarrow hA, mul_le_wideMax htnarrow hB, hne⟩,
    rfl, ?_, ?_⟩⟩
  · exact (div_le_reserve ht).trans hA
  · exact (div_le_reserve ht).trans hB

/-- At a constant price no portions beat the whole. Pool tokens that are burnt one portion
after another are paid no more of either token than all of them at once, which a pool of
narrow amounts can always pay. Pool tokens that are minted one portion after another are
charged no less of either. -/
theorem portions_never_beat_whole (record : ConstantPrice) (timestamp : Option Int)
    (portions : List Nat) {pool : Pool} (hA : pool.tokenA < 2 ^ 128) (hB : pool.tokenB < 2 ^ 128)
    (hsupply : pool.supply < 2 ^ 128) :
    let curve := Curve.constantPrice record
    let whole := fun rounding => (curve.share (portions.sum : Nat) pool.supply pool.tokenA
      pool.tokenB rounding timestamp).value
    (∀ paid, portions.sum ≤ pool.supply →
      pool.portions? curve .floor timestamp portions = some paid →
        (portions ≠ [] ∨ pool.supply ≠ 0 → ∃ single, whole .floor = some single) ∧
        ∀ single, whole .floor = some single →
          (TokenAmounts.sum paid).tokenA ≤ single.tokenA ∧
          (TokenAmounts.sum paid).tokenB ≤ single.tokenB) ∧
    ∀ taken single, pool.portions? curve .ceiling timestamp portions = some taken →
      whole .ceiling = some single →
        single.tokenA ≤ (TokenAmounts.sum taken).tokenA ∧
        single.tokenB ≤ (TokenAmounts.sum taken).tokenB := by
  rw [← le_narrowMax_iff] at hA hB hsupply
  intro curve whole
  constructor
  · intro paid hportions hpaid
    constructor
    · intro hsome
      have hne : pool.supply ≠ 0 := by
        rcases hsome with hsome | hne
        · exact supply_ne_zero_of_portions? hsome hpaid
        · exact hne
      exact exists_share_floor hA hB hsupply hne hportions
    · intro single hsingle
      obtain ⟨⟨-, -, -, -, -, -, hne⟩, rfl, -⟩ := value_reserveShare_eq_some_iff.1 hsingle
      have hpos := Nat.pos_of_ne_zero hne
      obtain ⟨hcoveredA, hcoveredB⟩ := sum_le_reserves_of_portions? hportions hpaid
      obtain ⟨hkeptA, hkeptB⟩ := undiluted_of_portions? hpaid
      exact ⟨le_div_of_paid hpos hportions hcoveredA hkeptA.value_mul_le,
        le_div_of_paid hpos hportions hcoveredB hkeptB.value_mul_le⟩
  · intro taken single htaken hsingle
    obtain ⟨⟨-, -, -, -, -, -, hne⟩, rfl, -⟩ := value_reserveShare_eq_some_iff.1 hsingle
    have hpos := Nat.pos_of_ne_zero hne
    obtain ⟨hkeptA, hkeptB⟩ := undiluted_of_portions? htaken
    exact ⟨ceilDiv_le_of_taken hpos hkeptA.value_mul_le,
      ceilDiv_le_of_taken hpos hkeptB.value_mul_le⟩

/-- Half of the pool tokens are paid 5 of A and 8 of B at once. One by one they are paid 4 and 7,
although the last one is paid more of both than the first. As many new ones are charged 5 and
8 at once, and 6 and 9 one by one. -/
theorem portions_never_beat_whole_half :
    let curve := Curve.constantPrice oneAndAHalf
    let pool : Pool := ⟨10, 16, 6⟩
    let portions := [1, 1, 1]
    let paid : List TokenAmounts := [⟨1, 2⟩, ⟨1, 2⟩, ⟨2, 3⟩]
    let taken : List TokenAmounts := [⟨2, 3⟩, ⟨2, 3⟩, ⟨2, 3⟩]
    (pool.tokenA < 2 ^ 128 ∧ pool.tokenB < 2 ^ 128 ∧ pool.supply < 2 ^ 128) ∧
    portions.sum ≤ pool.supply ∧ pool.portions? curve .floor none portions = some paid ∧
    (curve.share (portions.sum : Nat) pool.supply pool.tokenA pool.tokenB .floor none).value
      = some ⟨5, 8⟩ ∧
    ((TokenAmounts.sum paid).tokenA ≤ 5 ∧ (TokenAmounts.sum paid).tokenB ≤ 8) ∧
    pool.portions? curve .ceiling none portions = some taken ∧
    (curve.share (portions.sum : Nat) pool.supply pool.tokenA pool.tokenB .ceiling none).value
      = some ⟨5, 8⟩ ∧
    5 ≤ (TokenAmounts.sum taken).tokenA ∧ 8 ≤ (TokenAmounts.sum taken).tokenB := by
  intro curve pool portions paid taken
  have hA : pool.tokenA < 2 ^ 128 := by decide
  have hB : pool.tokenB < 2 ^ 128 := by decide
  have hsupply : pool.supply < 2 ^ 128 := by decide
  have hportions : portions.sum ≤ pool.supply := by decide
  have hpaid : pool.portions? curve .floor none portions = some paid := by decide +kernel
  have htaken : pool.portions? curve .ceiling none portions = some taken := by decide +kernel
  have hpaidWhole : (curve.share (portions.sum : Nat) pool.supply pool.tokenA pool.tokenB .floor
      none).value = some ⟨5, 8⟩ := by decide +kernel
  have htakenWhole : (curve.share (portions.sum : Nat) pool.supply pool.tokenA pool.tokenB
      .ceiling none).value = some ⟨5, 8⟩ := by decide +kernel
  obtain ⟨hburnt, hminted⟩ := portions_never_beat_whole oneAndAHalf none portions hA hB hsupply
  obtain ⟨-, hburnt⟩ := hburnt paid hportions hpaid
  exact ⟨⟨hA, hB, hsupply⟩, hportions, hpaid, hpaidWhole, hburnt _ hpaidWhole, htaken,
    htakenWhole, hminted taken _ htaken htakenWhole⟩

end ConstantPrice

end Pool

end PegPool
