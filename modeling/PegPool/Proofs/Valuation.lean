import PegPool.Proofs.Wording

/-!
# Valuation of reserves

What the reserves are worth is one number, half of a sum that is rounded down twice. It is
told here for reserves, prices and scales that are any integers: there is a value exactly where
the operands and the product are wide and the number is narrow. Close to the limit the parts
are halved before they are added, which would come to another number; but there no number is
narrow, so the program with that branch answers as the one without it. From the exact number
it follows that less of either token, or a lower price, is valued as well, and no higher.
-/

namespace PegPool.Price

/-- The value in wide arithmetic, with the sum formed first whatever its parts are. -/
def addFirstWide (price : Price) (reserveA reserveB : Int) : Except WideError Nat := do
  let worthA ← Wide.ofInt reserveA
  let reserveB ← Wide.ofInt reserveB
  let tokenB ← Wide.ofInt price.tokenB
  let product ← reserveB.mul tokenB
  let scale ← Wide.ofInt price.scale
  let worthB ← product.div scale
  let sum ← worthA.add worthB
  let value ← sum.div 2
  value.narrow

variable {price : Price} {a b : Int} {v : Nat}

/-! ## Halving first -/

/-- Of a part this close to the limit not even the half is narrow. -/
theorem narrowMax_lt_half {worthB half : Wide} (hwide : wideMax - narrowMax < worthB.toNat)
    (hhalf : worthB.div 2 = .ok half) : narrowMax < half.toNat := by
  have hmax : 3 * narrowMax + 2 < wideMax := by decide
  have hhalf := ((Wide.div_natCast_eq_ok_iff (n := 2)).1 hhalf).2
  omega

/-- The branch that halves first runs only where neither branch has an answer. -/
theorem normalizedValueWide_eq_ok_iff_addFirstWide :
    price.normalizedValueWide a b = .ok v ↔ price.addFirstWide a b = .ok v := by
  unfold normalizedValueWide addFirstWide
  refine bind_eq_ok_congr fun worthA _ => bind_eq_ok_congr fun reserveB _ => ?_
  refine bind_eq_ok_congr fun tokenB _ => bind_eq_ok_congr fun product _ => ?_
  refine bind_eq_ok_congr fun scale _ => bind_eq_ok_congr fun worthB _ => ?_
  by_cases hwide : wideMax - narrowMax < worthB.toNat
  · simp only [hwide, if_true, bind_eq_ok_iff, Wide.add_natCast_eq_ok_iff,
      Wide.narrow_eq_ok_iff]
    constructor
    · rintro ⟨halfB, hhalfB, halfA, -, value, hvalue, rfl, hnarrow⟩
      have hlt := narrowMax_lt_half hwide hhalfB
      omega
    · rintro ⟨sum, hsum, value, hhalf, rfl, hnarrow⟩
      have hlt := narrowMax_lt_half (by omega) hhalf
      omega
  · simp only [hwide, if_false]

theorem value_normalizedValue_eq_addFirstWide :
    (price.normalizedValue a b).value = (price.addFirstWide a b).toOption := by
  apply Option.ext
  intro v
  rw [value_normalizedValue_eq_some_iff_wide, normalizedValueWide_eq_ok_iff_addFirstWide]
  cases price.addFirstWide a b <;> simp [Except.toOption]

/-! ## The exact number -/

/-- Operands of a value are not negative. -/
theorem exists_natCast_of_normalizedValue (h : (price.normalizedValue a b).value = some v) :
    ∃ p r m n : Nat, price = ⟨p, r⟩ ∧ a = m ∧ b = n := by
  obtain ⟨tokenB, scale⟩ := price
  rw [value_normalizedValue_eq_some_iff_wide] at h
  unfold normalizedValueWide at h
  simp only [bind_eq_ok_iff, Wide.ofInt_eq_ok_iff] at h
  obtain ⟨m, rfl, n, rfl, p, rfl, -, -, r, rfl, -⟩ := h
  exact ⟨p.toNat, r.toNat, m.toNat, n.toNat, rfl, rfl, rfl⟩

/-- There is a value if the operands and the product are wide and half the sum is narrow. -/
structure Valued (price : Price) (a b : Int) (v : Nat) : Prop where
  reserveA : Wide.InRange a
  reserveB : Wide.InRange b
  tokenB : Wide.InRange price.tokenB
  scale : 1 ≤ price.scale ∧ price.scale < 2 ^ 256
  product_lt : b * price.tokenB < 2 ^ 256
  eq_half : (v : Int) = (a + b * price.tokenB / price.scale) / 2
  lt : v < 2 ^ 128

theorem valued_natCast_iff {p r m n : Nat} : (⟨p, r⟩ : Price).Valued m n v ↔
    ((⟨p, r⟩ : Price).normalizedValue m n).value = some v := by
  have hnarrow : narrowMax + 1 = 2 ^ 128 := narrowMax_add_one
  have hmax : 2 * narrowMax + 1 ≤ wideMax := by decide
  rw [value_normalizedValue_eq_some_iff]
  constructor
  · intro h
    have hreserveB := Wide.inRange_natCast_iff.1 h.reserveB
    have htokenB := Wide.inRange_natCast_iff.1 h.tokenB
    have hscale := Wide.inRange_natCast_iff.1 ⟨Int.natCast_nonneg r, h.scale.2⟩
    have hpos : (1 : Int) ≤ r := h.scale.1
    have hproduct : (n * p : Int) < 2 ^ 256 := h.product_lt
    have hhalf : (v : Int) = (m + n * p / r) / 2 := h.eq_half
    have hlt := h.lt
    rw [← Int.natCast_mul] at hproduct
    exact ⟨⟨hreserveB, htokenB, hscale,
      Wide.inRange_natCast_iff.1 ⟨Int.natCast_nonneg _, hproduct⟩, by omega⟩,
      by exact_mod_cast hhalf, by omega⟩
  · rintro ⟨⟨hb, hp, hr, hproduct, hne⟩, hhalf, hle⟩
    have ha : m ≤ wideMax := by
      generalize n * p / r = worthB at hhalf
      omega
    have hproduct := Wide.inRange_natCast_iff.2 hproduct
    have hscale := Wide.inRange_natCast_iff.2 hr
    exact {
      reserveA := Wide.inRange_natCast_iff.2 ha
      reserveB := Wide.inRange_natCast_iff.2 hb
      tokenB := Wide.inRange_natCast_iff.2 hp
      scale := ⟨Int.natCast_pos.2 (Nat.pos_of_ne_zero hne), hscale.2⟩
      product_lt := by
        rw [Int.natCast_mul] at hproduct
        exact hproduct.2
      eq_half := by
        rw [hhalf]
        norm_cast
      lt := by omega }

/-- Whatever integers are given. -/
theorem value_normalizedValue_eq_some_iff_valued :
    (price.normalizedValue a b).value = some v ↔ price.Valued a b v := by
  constructor
  · intro h
    obtain ⟨p, r, m, n, rfl, rfl, rfl⟩ := exists_natCast_of_normalizedValue h
    exact valued_natCast_iff.2 h
  · intro h
    obtain ⟨tokenB, scale⟩ := price
    lift a to Nat using h.reserveA.1
    lift b to Nat using h.reserveB.1
    lift tokenB to Nat using h.tokenB.1
    lift scale to Nat using Int.le_of_lt h.scale.1
    exact valued_natCast_iff.1 h

/-! ## Less to value -/

/-- What holds no more of either token, at no higher a price, is valued no higher. -/
theorem Valued.exists_le {a' b' p' : Int} (h : price.Valued a b v) (ha : 0 ≤ a' ∧ a' ≤ a)
    (hb : 0 ≤ b' ∧ b' ≤ b) (hp : 0 ≤ p' ∧ p' ≤ price.tokenB) :
    ∃ v' ≤ v, (⟨p', price.scale⟩ : Price).Valued a' b' v' := by
  have hproduct : b' * p' ≤ b * price.tokenB :=
    Int.mul_le_mul hb.2 hp.2 hp.1 (hb.1.trans hb.2)
  have hquotient : b' * p' / price.scale ≤ b * price.tokenB / price.scale :=
    Int.ediv_le_ediv h.scale.1 hproduct
  have hnonneg : 0 ≤ b' * p' / price.scale :=
    Int.ediv_nonneg (Int.mul_nonneg hb.1 hp.1) (Int.le_of_lt h.scale.1)
  have hhalf := h.eq_half
  refine ⟨((a' + b' * p' / price.scale) / 2).toNat, by omega, ?_⟩
  exact {
    reserveA := ⟨ha.1, ha.2.trans_lt h.reserveA.2⟩
    reserveB := ⟨hb.1, hb.2.trans_lt h.reserveB.2⟩
    tokenB := ⟨hp.1, hp.2.trans_lt h.tokenB.2⟩
    scale := h.scale
    product_lt := hproduct.trans_lt h.product_lt
    eq_half := Int.toNat_of_nonneg (by omega)
    lt := (by omega : _ ≤ v).trans_lt h.lt }

/-! ## All integers -/

/-- Reserves are valued exactly where the operands and the product are wide and the number is
narrow, and the number is half of the exact sum, rounded down twice. To halve before the sum
changes no answer. Less of either token or a lower price has a value as well, and no higher
one. Whatever the integers are, if they can be written there is an answer and no complaint. -/
theorem valuation_exact (price : Price) (a b : Int) :
    (∀ v, (price.normalizedValue a b).value = some v ↔ price.Valued a b v) ∧
    (price.normalizedValue a b).value = (price.addFirstWide a b).toOption ∧
    (∀ v, (price.normalizedValue a b).value = some v → ∀ a' b' p', (0 ≤ a' ∧ a' ≤ a) →
      (0 ≤ b' ∧ b' ≤ b) → (0 ≤ p' ∧ p' ≤ price.tokenB) →
      ∃ v' ≤ v, ((⟨p', price.scale⟩ : Price).normalizedValue a' b').value = some v') ∧
    ((∀ n ∈ [a, b, price.tokenB, price.scale], n.natAbs < 10 ^ 4000) →
      (price.normalizedValue a b).Told) := by
  refine ⟨fun v => value_normalizedValue_eq_some_iff_valued,
    value_normalizedValue_eq_addFirstWide, ?_, ?_⟩
  · intro v hv a' b' p' ha hb hp
    obtain ⟨v', hle, hv'⟩ := (value_normalizedValue_eq_some_iff_valued.1 hv).exists_le ha hb hp
    exact ⟨v', hle, value_normalizedValue_eq_some_iff_valued.2 hv'⟩
  · intro hdigits
    have hwritable (n : Int) (hn : n ∈ [a, b, price.tokenB, price.scale]) : Text.isWritable n :=
      Text.isWritable_of_natAbs_lt (by decide) (hdigits n hn)
    exact told_normalizedValue (hwritable _ (by simp)) (hwritable _ (by simp))
      (hwritable _ (by simp)) (hwritable _ (by simp))

/-- At a price of one and a half, five tokens B are worth seven. With a reserve of A that takes
more than 128 bits they make the greatest value there is. Four of them at a price of one have
one as well, and a reserve of 4000 digits has none. -/
theorem valuation_exact_greatest :
    let price : Price := ⟨3, 2⟩
    let a : Int := 2 ^ 129 - 8
    let many : Int := 10 ^ 3999
    price.Valued a 5 (2 ^ 128 - 1) ∧
    (price.normalizedValue a 5).value = some (2 ^ 128 - 1) ∧
    (price.addFirstWide a 5).toOption = some (2 ^ 128 - 1) ∧
    (0 ≤ a ∧ a ≤ a) ∧ (0 ≤ (4 : Int) ∧ (4 : Int) ≤ 5) ∧ (0 ≤ (2 : Int) ∧ 2 ≤ price.tokenB) ∧
    (∃ v' ≤ 2 ^ 128 - 1, ((⟨2, 2⟩ : Price).normalizedValue a 4).value = some v') ∧
    (∀ n ∈ [a, many, price.tokenB, price.scale], n.natAbs < 10 ^ 4000) ∧
    (price.normalizedValue a many).Told ∧ (price.normalizedValue a many).value = none := by
  intro price a many
  have hvalued : price.Valued a 5 (2 ^ 128 - 1) := by
    constructor <;> decide +kernel
  have hdigits : ∀ n ∈ [a, many, price.tokenB, price.scale], n.natAbs < 10 ^ 4000 := by
    decide +kernel
  obtain ⟨hexact, hbranch, hless, -⟩ := valuation_exact price a 5
  obtain ⟨-, -, -, htold⟩ := valuation_exact price a many
  have hvalue := (hexact _).2 hvalued
  exact ⟨hvalued, hvalue, hbranch ▸ hvalue, by decide +kernel, by decide, by decide,
    hless _ hvalue a 4 2 (by decide +kernel) (by decide) (by decide), hdigits, htold hdigits,
    by decide +kernel⟩

end PegPool.Price
