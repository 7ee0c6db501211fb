import PegPool.Proofs.Curve
import PegPool.Proofs.PoolTokens
import PegPool.Proofs.Share

/-!
# Headroom

What is computed with narrow numbers has room in 256 bits: two of them can be multiplied, and
to the worth of a reserve the other reserve can be added. Only the worth of an amount of B may
be too wide to be multiplied by the pool tokens. So at a constant price, that product apart, a
question is refused only where no number answers it, nothing moves or the answer is not narrow.
-/

namespace PegPool

/-! ## Numbers on the way -/

/-- A number on the way is not wide: one that is given, a sum or a product. -/
def WideError.isOverflow : WideError → Bool
  | tooWide _ | sumTooWide _ _ | productTooWide _ _ => true
  | _ => false

/-- Every number on the way is wide at most. -/
def StaysWide {α : Type} (result : Except WideError α) : Prop :=
  FailsOnly (fun cause => cause.isOverflow = false) result

section Chains

variable {α β : Type} {x y : Except WideError α} {f : α → Except WideError β}

@[simp] theorem staysWide_pure (a : α) : StaysWide (pure a : Except WideError α) :=
  failsOnly_pure a

@[simp] theorem staysWide_bind :
    StaysWide (x >>= f) ↔ StaysWide x ∧ ∀ a, x = .ok a → StaysWide (f a) :=
  failsOnly_bind

@[simp] theorem staysWide_map (g : α → β) : StaysWide (g <$> x) ↔ StaysWide x := failsOnly_map g

@[simp] theorem staysWide_ite {c : Prop} [Decidable c] :
    StaysWide (if c then x else y) ↔ (c → StaysWide x) ∧ (¬ c → StaysWide y) :=
  failsOnly_ite

end Chains

namespace Wide

variable {u : Wide} {n : Nat}

@[simp] theorem staysWide_ofInt : StaysWide (ofInt n) ↔ n ≤ wideMax := by
  rw [StaysWide, failsOnly_iff_of_eq_error_iff fun _ => ofInt_natCast_eq_error_iff]
  simp [WideError.isOverflow]

@[simp] theorem staysWide_add : StaysWide (u.add n) ↔ u.toNat + n ≤ wideMax := by
  rw [StaysWide, failsOnly_iff_of_eq_error_iff fun _ => add_natCast_eq_error_iff]
  simp [WideError.isOverflow]

@[simp] theorem staysWide_mul : StaysWide (u.mul n) ↔ u.toNat * n ≤ wideMax := by
  rw [StaysWide, failsOnly_iff_of_eq_error_iff fun _ => mul_natCast_eq_error_iff]
  simp [WideError.isOverflow]

/-- A quotient is no wider than what is divided. -/
@[simp] theorem staysWide_div (u : Wide) (n : Nat) : StaysWide (u.div n) :=
  (failsOnly_iff_of_eq_error_iff fun _ => div_natCast_eq_error_iff).2 fun _ => rfl

@[simp] theorem staysWide_div_two (u : Wide) : StaysWide (u.div 2) := staysWide_div u 2

@[simp] theorem staysWide_ceilDiv (u : Wide) (n : Nat) : StaysWide (u.ceilDiv n) :=
  (failsOnly_iff_of_eq_error_iff fun _ => ceilDiv_natCast_eq_error_iff).2 fun _ => rfl

/-- The answer itself may not be narrow, but it is wide. -/
@[simp] theorem staysWide_narrow (u : Wide) : StaysWide u.narrow :=
  (failsOnly_iff_of_eq_error_iff fun _ => narrow_eq_error_iff).2 fun _ => rfl

end Wide

@[simp] theorem Rounding.staysWide_divide (rounding : Rounding) (u : Wide) (n : Nat) :
    StaysWide (rounding.divide u n) := by
  cases rounding <;> simp [divide]

@[simp] theorem Price.staysWide_settle (taken paid : Wide) : StaysWide (settle taken paid) := by
  simp [settle]

/-- A formula was left because of a number that is not wide. -/
def Event.isOverflow : Event → Bool
  | formulaFailed _ cause => cause.isOverflow
  | _ => false

/-- No formula was left because of a number that is not wide. -/
def Logged.StaysWide {α : Type} (answer : Logged α) : Prop :=
  ∀ event ∈ answer.events, event.isOverflow = false

@[simp] theorem Logged.staysWide_ofFormula {α : Type} {formula : Formula}
    {result : Except WideError (Option α)} :
    (ofFormula formula result).StaysWide ↔ PegPool.StaysWide result := by
  cases result with
  | error cause => simp [ofFormula, StaysWide, Event.isOverflow, PegPool.StaysWide, failsOnly_error]
  | ok answer => simp [ofFormula, StaysWide, PegPool.StaysWide, FailsOnly]

/-! ## Questions about narrow numbers -/

theorem movable_iff {n : Nat} : Movable n ↔ 1 ≤ n ∧ n < 2 ^ 128 := and_congr_right' le_narrowMax_iff

/-- One number at most is answered, so what there is to say is where it is. -/
theorem eq_ite_of_eq_some_iff {α : Type} {answer : Option α} {x : α} {c d : Prop} {e : α → Prop}
    [Decidable c] (h : ∀ y, answer = some y ↔ d ∧ y = x ∧ e y) (hc : c ↔ d ∧ e x) :
    answer = if c then some x else none := by
  ext y
  rw [h, Option.ite_none_right_eq_some, Option.some.injEq, hc]
  constructor
  · rintro ⟨hd, rfl, he⟩
    exact ⟨⟨hd, he⟩, rfl⟩
  · rintro ⟨⟨hd, he⟩, rfl⟩
    exact ⟨hd, rfl, he⟩

section Shares

variable {t supply a b : Nat} (ht : t ≤ narrowMax) (hsupply : supply ≤ narrowMax)
  (ha : a ≤ narrowMax) (hb : b ≤ narrowMax) (rounding : Rounding)

include ht hsupply ha hb

theorem value_reserveShare_eq_ite :
    (reserveShare t supply a b rounding).value =
      if 1 ≤ supply ∧ rounding.quotient (t * a) supply < 2 ^ 128 ∧
          rounding.quotient (t * b) supply < 2 ^ 128 then
        some ⟨rounding.quotient (t * a) supply, rounding.quotient (t * b) supply⟩
      else none := by
  have hwide := narrowMax_le_wideMax
  refine eq_ite_of_eq_some_iff (fun amounts => value_reserveShare_eq_some_iff) ?_
  simp only [ht.trans hwide, hsupply.trans hwide, ha.trans hwide, hb.trans hwide,
    mul_le_wideMax ht ha, mul_le_wideMax ht hb, true_and, le_narrowMax_iff,
    Nat.one_le_iff_ne_zero]

theorem staysWide_reserveShare : (reserveShare t supply a b rounding).StaysWide := by
  have hproductA := mul_le_wideMax ht ha
  have hproductB := mul_le_wideMax ht hb
  have hwide := narrowMax_le_wideMax
  simp only [reserveShare, reserveShareWide, Logged.staysWide_ofFormula, staysWide_map,
    staysWide_bind, Wide.staysWide_ofInt, Wide.ofInt_natCast_eq_ok_iff, Wide.staysWide_mul,
    ht.trans hwide, hsupply.trans hwide, ha.trans hwide, hb.trans hwide, true_and]
  rintro t rfl supply rfl a rfl
  refine ⟨hproductA, fun productA _ => ?_⟩
  rintro b rfl
  exact ⟨hproductB, by simp⟩

end Shares

namespace Price

section Swaps

variable {p r s : Nat} (hp : p ≤ narrowMax) (hr : r ≤ narrowMax) (hs : s ≤ narrowMax)

include hp hr hs

theorem value_swap_bToA_eq_ite (hne : r ≠ 0) :
    ((⟨p, r⟩ : Price).swap s .bToA).value =
      if 1 ≤ s ∧ 1 ≤ s * p / r ∧ s * p / r < 2 ^ 128 then some ⟨s, s * p / r⟩ else none := by
  have hwide := narrowMax_le_wideMax
  refine eq_ite_of_eq_some_iff (fun amounts => value_swap_bToA_eq_some_iff) ?_
  simp only [hp.trans hwide, hr.trans hwide, mul_le_wideMax hs hp, ne_eq, hne, not_false_eq_true,
    true_and, movable_iff, le_narrowMax_iff.1 hs, and_true]

theorem value_swap_aToB_eq_ite (hne : r ≠ 0) :
    ((⟨p, r⟩ : Price).swap s .aToB).value =
      if 1 ≤ p ∧ 1 ≤ s * r / p ∧ s * r / p < 2 ^ 128 then
        some ⟨(s * r / p * p) ⌈/⌉ r, s * r / p⟩
      else none := by
  have hwide := narrowMax_le_wideMax
  refine eq_ite_of_eq_some_iff (fun amounts => value_swap_aToB_eq_some_iff) ?_
  simp only [hp.trans hwide, hr.trans hwide, mul_le_wideMax hs hr, ne_eq, hne, not_false_eq_true,
    true_and, and_true, ← movable_iff]
  constructor
  · rintro ⟨hpos, hpaid⟩
    -- whole units cost something, and no more than is offered for them
    have hcost : 0 < (s * r / p * p) ⌈/⌉ r := by
      rw [← Nat.not_le, ceilDiv_le_iff_le_mul (Nat.pos_of_ne_zero hne), Nat.mul_zero, Nat.not_le]
      exact Nat.mul_pos hpaid.1 hpos
    exact ⟨Nat.ne_of_gt hpos, ⟨hcost, (cost_le_source hne).trans hs⟩, hpaid⟩
  · rintro ⟨hpne, -, hpaid⟩
    exact ⟨Nat.pos_of_ne_zero hpne, hpaid⟩

theorem staysWide_swap (direction : Direction) :
    ((⟨p, r⟩ : Price).swap s direction).StaysWide := by
  have hworthB := mul_le_wideMax hs hp
  have hworthA := mul_le_wideMax hs hr
  have hwide := narrowMax_le_wideMax
  simp only [swap, swapWide, Logged.staysWide_ofFormula, staysWide_bind, Wide.staysWide_ofInt,
    Wide.ofInt_natCast_eq_ok_iff, hp.trans hwide, hr.trans hwide, hs.trans hwide, true_and]
  rintro p rfl s rfl r rfl
  cases direction with
  | bToA => simp [hworthB]
  | aToB =>
    simp only [staysWide_bind, Wide.staysWide_mul, Wide.mul_natCast_eq_ok_iff,
      Wide.staysWide_div, Wide.div_natCast_eq_ok_iff, hworthA, true_and]
    rintro worth hworth paid ⟨-, hpaid⟩
    -- what the units cost is no more than what is offered for them
    have hcost : paid.toNat * p.toNat ≤ wideMax := by
      rw [hpaid]
      exact (Nat.div_mul_le_self _ _).trans worth.toNat_le
    simp [hcost]

end Swaps

section Reserves

variable {p r a b : Nat} (hp : p ≤ narrowMax) (hr : r ≤ narrowMax) (ha : a ≤ narrowMax)
  (hb : b ≤ narrowMax)

include hp hr hb

theorem value_normalizedValue_eq_ite (hne : r ≠ 0) :
    ((⟨p, r⟩ : Price).normalizedValue a b).value =
      if (a + b * p / r) / 2 < 2 ^ 128 then some ((a + b * p / r) / 2) else none := by
  have hwide := narrowMax_le_wideMax
  refine eq_ite_of_eq_some_iff (fun v => value_normalizedValue_eq_some_iff) ?_
  simp only [hp.trans hwide, hr.trans hwide, hb.trans hwide, mul_le_wideMax hb hp, ne_eq, hne,
    not_false_eq_true, true_and, le_narrowMax_iff]

include ha

theorem staysWide_normalizedValue : ((⟨p, r⟩ : Price).normalizedValue a b).StaysWide := by
  have hproduct := mul_le_wideMax hb hp
  have hwide := narrowMax_le_wideMax
  simp only [normalizedValue, normalizedValueWide, Logged.staysWide_ofFormula, staysWide_map,
    staysWide_bind, Wide.staysWide_ofInt, Wide.ofInt_natCast_eq_ok_iff, Wide.staysWide_mul,
    hp.trans hwide, hr.trans hwide, ha.trans hwide, hb.trans hwide, true_and]
  rintro a rfl b rfl p rfl
  refine ⟨hproduct, fun product _ r _ => ⟨Wide.staysWide_div _ _, fun worthB _ => ?_⟩⟩
  have hworthB := worthB.toNat_le
  refine staysWide_ite.2 ⟨fun _ => ?_, fun hle => ?_⟩
  · simp only [staysWide_bind, Wide.staysWide_div_two, Wide.staysWide_add, Wide.staysWide_narrow,
      true_and]
    intro halfB hhalfB halfA hhalfA
    have hhalfB := ((Wide.div_natCast_eq_ok_iff (n := 2)).1 hhalfB).2
    have hhalfA := ((Wide.div_natCast_eq_ok_iff (n := 2)).1 hhalfA).2
    exact ⟨by omega, fun _ _ => trivial⟩
  · have hsum : a.toNat + worthB.toNat ≤ wideMax := by omega
    simp [hsum]

end Reserves

section PoolTokens

variable {p r s supply a b : Nat} (hp : p ≤ narrowMax) (hr : r ≤ narrowMax) (hne : r ≠ 0)
  (hs : s ≤ narrowMax) (ha : a ≤ narrowMax) (hb : b ≤ narrowMax) (hsupply : supply ≤ narrowMax)
  (direction : Direction) (rounding : Rounding)

include hp ha hb in
/-- To what a narrow amount is worth another one can be added. -/
theorem add_worth_le_wideMax : a + b * p / r ≤ wideMax := by
  have hsum : narrowMax + narrowMax * narrowMax ≤ wideMax := by decide
  have hworth : b * p / r ≤ narrowMax * narrowMax :=
    (Nat.div_le_self _ _).trans (Nat.mul_le_mul hb hp)
  omega

include hp hr hne hs ha hb hsupply

theorem value_poolTokens_eq_ite :
    ((⟨p, r⟩ : Price).poolTokens s a b supply direction rounding).value =
      if 1 ≤ a + b * p / r ∧
          rounding.quotient (supply * direction.wholeWorth p r s) (a + b * p / r) < 2 ^ 128 ∧
          supply * direction.wholeWorth p r s < 2 ^ 256 then
        some (rounding.quotient (supply * direction.wholeWorth p r s) (a + b * p / r))
      else none := by
  have hwide := narrowMax_le_wideMax
  refine eq_ite_of_eq_some_iff
    (d := 1 ≤ a + b * p / r ∧ supply * direction.wholeWorth p r s < 2 ^ 256)
    (e := (· < 2 ^ 128)) (fun m => ?_) ?_
  · simp only [value_poolTokens_eq_some_iff, hp.trans hwide, hr.trans hwide, hs.trans hwide,
      hb.trans hwide, hsupply.trans hwide, mul_le_wideMax hs hp, mul_le_wideMax hb hp,
      add_worth_le_wideMax hp ha hb, ne_eq, hne, not_false_eq_true, true_and, implies_true,
      Nat.one_le_iff_ne_zero, ← le_narrowMax_iff, ← le_wideMax_iff, and_assoc]
  · tauto

/-- Up to the last product every number is found. -/
theorem exists_poolTokensWide_eq :
    ∃ u given total : Wide, u.toNat = supply ∧ given.toNat = direction.wholeWorth p r s ∧
      (⟨p, r⟩ : Price).poolTokensWide s a b supply direction rounding = (do
        let numerator ← u.mul given
        (← rounding.divide numerator total).narrow) := by
  have hproductS := mul_le_wideMax hs hp
  have hproductB := mul_le_wideMax hb hp
  have htotal := add_worth_le_wideMax (r := r) hp ha hb
  have hworthB := (Nat.div_le_self (b * p) r).trans hproductB
  have hwide := narrowMax_le_wideMax
  have hle : direction.wholeWorth p r s ≤ wideMax := by
    cases direction with
    | aToB => exact hs.trans hwide
    | bToA => exact (Nat.div_le_self _ _).trans hproductS
  lift p to Wide using hp.trans hwide
  lift r to Wide using hr.trans hwide
  lift s to Wide using hs.trans hwide
  lift a to Wide using ha.trans hwide
  lift b to Wide using hb.trans hwide
  lift supply to Wide using hsupply.trans hwide
  refine ⟨supply, ⟨_, hle⟩, ⟨_, htotal⟩, rfl, rfl, ?_⟩
  have hgiven : direction.wholeWorthWide p r s = .ok ⟨_, hle⟩ :=
    (Direction.wholeWorthWide_eq_ok_iff hne).2 ⟨fun _ => hproductS, rfl⟩
  have hproduct : b.mul p = .ok ⟨_, hproductB⟩ := Wide.mul_natCast_eq_ok_iff.2 rfl
  have hworth : Wide.div ⟨_, hproductB⟩ r = .ok ⟨_, hworthB⟩ :=
    Wide.div_natCast_eq_ok_iff.2 ⟨hne, rfl⟩
  have hsum : Wide.add ⟨_, hworthB⟩ a = .ok ⟨_, htotal⟩ :=
    Wide.add_natCast_eq_ok_iff.2 (Nat.add_comm _ _)
  simp only [poolTokensWide_eq, Wide.ofInt_toNat, ok_bind, hgiven, hproduct, hworth, hsum]

theorem staysWide_poolTokens_iff :
    ((⟨p, r⟩ : Price).poolTokens s a b supply direction rounding).StaysWide ↔
      supply * direction.wholeWorth p r s < 2 ^ 256 := by
  obtain ⟨u, given, total, rfl, hgiven, heq⟩ :=
    exists_poolTokensWide_eq hp hr hne hs ha hb hsupply direction rounding
  rw [poolTokens, heq, ← hgiven]
  simp [le_wideMax_iff]

end PoolTokens

end Price

/-! ## At a constant price -/

/-- At a constant price no question about narrow numbers is refused needlessly. Each is
answered with the exact number, rounded, wherever that number exists, is narrow and, for a
swap, moves something. No number on the way is too wide, but for the pool tokens times the
worth of an amount of B: where that product is, the amount of B has no answer. -/
theorem Curve.never_refused_needlessly (record : ConstantPrice) (timestamp : Option Int)
    {s t supply a b : Nat} (hs : s < 2 ^ 128) (ht : t < 2 ^ 128) (hsupply : supply < 2 ^ 128)
    (ha : a < 2 ^ 128) (hb : b < 2 ^ 128) :
    let curve := constantPrice record
    let p := record.tokenBPrice.toNat
    let total := a + b * p / Ray.one
    let product := fun direction : Direction => supply * direction.wholeWorth p Ray.one s
    (curve.swap s .bToA timestamp).value =
      (if 1 ≤ s ∧ 1 ≤ s * p / Ray.one ∧ s * p / Ray.one < 2 ^ 128 then
        some ⟨s, s * p / Ray.one⟩ else none) ∧
    (curve.swap s .aToB timestamp).value =
      (if 1 ≤ p ∧ 1 ≤ s * Ray.one / p ∧ s * Ray.one / p < 2 ^ 128 then
        some ⟨(s * Ray.one / p * p) ⌈/⌉ Ray.one, s * Ray.one / p⟩ else none) ∧
    (∀ rounding, (curve.share t supply a b rounding timestamp).value =
      (if 1 ≤ supply ∧ rounding.quotient (t * a) supply < 2 ^ 128 ∧
          rounding.quotient (t * b) supply < 2 ^ 128 then
        some ⟨rounding.quotient (t * a) supply, rounding.quotient (t * b) supply⟩ else none)) ∧
    (curve.normalizedValue a b timestamp).value =
      (if total / 2 < 2 ^ 128 then some (total / 2) else none) ∧
    (∀ direction rounding, (curve.withdraw s a b supply direction rounding timestamp).value =
      (if 1 ≤ total ∧ rounding.quotient (product direction) total < 2 ^ 128 ∧
          (direction = .bToA → product direction < 2 ^ 256) then
        some (rounding.quotient (product direction) total) else none)) ∧
    (∀ direction, curve.deposit s a b supply direction timestamp =
      curve.withdraw s a b supply direction .floor timestamp) ∧
    (∀ direction, (curve.swap s direction timestamp).StaysWide) ∧
    (∀ rounding, (curve.share t supply a b rounding timestamp).StaysWide) ∧
    (curve.normalizedValue a b timestamp).StaysWide ∧
    ∀ direction rounding, (curve.withdraw s a b supply direction rounding timestamp).StaysWide ↔
      (direction = .bToA → product direction < 2 ^ 256) := by
  rw [← le_narrowMax_iff] at hs ht hsupply ha hb
  intro curve p total product
  have hp : p ≤ narrowMax := record.tokenBPrice.toNat_le
  have hr := Ray.one_le_narrowMax
  have hne : Ray.one ≠ 0 := by decide
  -- in the token of reference the product has room like any other
  have hproduct (direction : Direction) :
      product direction < 2 ^ 256 ↔ (direction = .bToA → product direction < 2 ^ 256) := by
    cases direction with
    | aToB =>
      have hproduct : product .aToB < 2 ^ 256 := le_wideMax_iff.1 (mul_le_wideMax hsupply hs)
      exact iff_of_true hproduct fun _ => hproduct
    | bToA => simp
  refine ⟨Price.value_swap_bToA_eq_ite hp hr hs hne, Price.value_swap_aToB_eq_ite hp hr hs hne,
    value_reserveShare_eq_ite ht hsupply ha hb,
    Price.value_normalizedValue_eq_ite hp hr hb hne, ?_, fun _ => rfl,
    Price.staysWide_swap hp hr hs, staysWide_reserveShare ht hsupply ha hb,
    Price.staysWide_normalizedValue hp hr ha hb, ?_⟩
  · intro direction rounding
    simp only [← hproduct]
    exact Price.value_poolTokens_eq_ite hp hr hne hs ha hb hsupply direction rounding
  · intro direction rounding
    rw [← hproduct]
    exact Price.staysWide_poolTokens_iff hp hr hne hs ha hb hsupply direction rounding

/-- The highest price. -/
def highestPrice : ConstantPrice := ⟨⟨narrowMax, Nat.le_refl _⟩⟩

/-- The greatest amounts at the highest price. All of A buys one ray of B, all pool tokens stand
for both reserves, and the amount of A stands for its part, rounded either way. What B is worth
is not narrow, nor is the pool's value, and times the pool tokens it is not even wide. -/
theorem Curve.never_refused_needlessly_greatest :
    let curve := constantPrice highestPrice
    let m : Nat := 2 ^ 128 - 1
    m < 2 ^ 128 ∧ (curve.swap m .bToA none).value = none ∧
    (curve.swap m .aToB none).value = some ⟨m, 10 ^ 27⟩ ∧
    (curve.share m m m m .floor none).value = some ⟨m, m⟩ ∧
    (curve.normalizedValue m m none).value = none ∧
    (curve.withdraw m m m m .aToB .floor none).value = some 999999999997061264122952917 ∧
    (curve.withdraw m m m m .aToB .ceiling none).value = some 999999999997061264122952918 ∧
    (curve.withdraw m m m m .bToA .ceiling none).value = none ∧
    (curve.withdraw m m m m .aToB .ceiling none).StaysWide ∧
    ¬ (curve.withdraw m m m m .bToA .ceiling none).StaysWide := by
  intro curve m
  have hm : m < 2 ^ 128 := by decide
  obtain ⟨hsell, hbuy, hshare, hvalue, hwithdraw, -, -, -, -, hwide⟩ :=
    never_refused_needlessly highestPrice none hm hm hm hm hm
  refine ⟨hm, hsell.trans ?_, hbuy.trans ?_, (hshare .floor).trans ?_, hvalue.trans ?_,
    (hwithdraw .aToB .floor).trans ?_, (hwithdraw .aToB .ceiling).trans ?_,
    (hwithdraw .bToA .ceiling).trans ?_, (hwide .aToB .ceiling).2 ?_,
    mt (hwide .bToA .ceiling).1 ?_⟩
  all_goals decide +kernel

end PegPool
