import Mathlib.Data.Rat.Floor
import PegPool.Proofs.Price

/-!
# Buying token B

An offer of token A buys the most whole units of B that it covers, and only what these
cost is taken. Both amounts are told here as the extremes of their sets, for prices and
offers that are any integers. What is taken buys the same once more, and an offer that
is made in two parts buys no more than the whole.

The cost never exceeds the offer, and its product never exceeds the one that the offer
was worth. So two of the ways in which a purchase could fail are no ways at all.
-/

namespace PegPool.Price

/-! ## The best purchase -/

/-- The most units of B that an offer covers. -/
def affordable (price : Price) (source : Int) : Int := source * price.scale / price.tokenB

/-- The least amount of A that covers units of B. -/
def cost (price : Price) (units : Int) : Int := ⌈(units * price.tokenB : ℚ) / price.scale⌉

theorem isGreatest_affordable (price : Price) (hprice : 0 < price.tokenB) (source : Int) :
    IsGreatest {units : Int | units * price.tokenB ≤ source * price.scale}
      (price.affordable source) := by
  constructor
  · exact Int.ediv_mul_le _ (ne_of_gt hprice)
  · intro units hunits
    exact (Int.le_ediv_iff_mul_le hprice).2 hunits

theorem isLeast_cost (price : Price) (hscale : 0 < price.scale) (units : Int) :
    IsLeast {source : Int | units * price.tokenB ≤ source * price.scale} (price.cost units) := by
  have hpos : (0 : ℚ) < price.scale := by exact_mod_cast hscale
  have hcovers (source : Int) : (units * price.tokenB : ℚ) / price.scale ≤ source ↔
      units * price.tokenB ≤ source * price.scale := by
    rw [div_le_iff₀ hpos]
    norm_cast
  constructor
  · exact (hcovers _).1 (Int.le_ceil _)
  · intro source hsource
    exact Int.ceil_le.2 ((hcovers source).2 hsource)

section NatCast

variable (p r s n : Nat)

theorem affordable_natCast : (⟨p, r⟩ : Price).affordable s = (s * r / p : Nat) := by
  simp [affordable]

variable {r}

theorem cost_natCast (hr : r ≠ 0) : (⟨p, r⟩ : Price).cost n = ((n * p) ⌈/⌉ r : Nat) := by
  have hpos := Nat.pos_of_ne_zero hr
  apply (isLeast_cost ⟨p, r⟩ (Int.natCast_pos.2 hpos) n).unique
  constructor
  · show (n * p : Int) ≤ _ * r
    have hle : n * p ≤ r * ((n * p) ⌈/⌉ r) := (ceilDiv_le_iff_le_mul hpos).1 (Nat.le_refl _)
    rw [Nat.mul_comm r] at hle
    exact_mod_cast hle
  · intro source hsource
    have hcovers : (n * p : Int) ≤ source * r := hsource
    have hnonneg : 0 ≤ source := by
      apply le_of_mul_le_mul_right _ (Int.natCast_pos.2 hpos)
      rw [Int.zero_mul]
      exact (by positivity : (0 : Int) ≤ n * p).trans hcovers
    lift source to Nat using hnonneg
    rw [Int.ofNat_le, ceilDiv_le_iff_le_mul hpos, Nat.mul_comm r]
    exact_mod_cast hcovers

end NatCast

/-! ## Amounts of a purchase -/

theorem exists_natCast_of_swap {price : Price} {source : Int} {direction : Direction}
    {amounts : SwapAmounts} (h : (price.swap source direction).value = some amounts) :
    ∃ p r s : Nat, price = ⟨p, r⟩ ∧ source = s := by
  obtain ⟨tokenB, scale⟩ := price
  unfold swap swapWide at h
  simp only [Logged.value_ofFormula_eq_some_iff, bind_eq_ok_iff, Wide.ofInt_eq_ok_iff] at h
  obtain ⟨p, rfl, s, rfl, r, rfl, -⟩ := h
  exact ⟨p.toNat, r.toNat, s.toNat, rfl, rfl⟩

section Amounts

variable {p r s : Nat} {amounts : SwapAmounts}
  (h : ((⟨p, r⟩ : Price).swap s .aToB).value = some amounts)

include h

theorem paid_eq_affordable : (amounts.paid : Int) = (⟨p, r⟩ : Price).affordable s := by
  obtain ⟨-, rfl, -⟩ := value_swap_aToB_eq_some_iff.1 h
  exact (affordable_natCast p r s).symm

theorem taken_eq_cost : (amounts.taken : Int) = (⟨p, r⟩ : Price).cost amounts.paid := by
  obtain ⟨⟨-, -, -, -, hr⟩, rfl, -⟩ := value_swap_aToB_eq_some_iff.1 h
  exact (cost_natCast p _ hr).symm

theorem taken_le : amounts.taken ≤ s := by
  obtain ⟨⟨-, -, -, -, hr⟩, rfl, -⟩ := value_swap_aToB_eq_some_iff.1 h
  exact cost_le_source hr

/-- What is taken buys the same once more. -/
theorem swap_taken : ((⟨p, r⟩ : Price).swap amounts.taken .aToB).value = some amounts := by
  have hle := taken_le h
  obtain ⟨⟨hp, hr, hworth, hpne, hrne⟩, rfl, htaken, hpaid⟩ := value_swap_aToB_eq_some_iff.1 h
  generalize htakeneq : (s * r / p * p) ⌈/⌉ r = taken at *
  have hpos := Nat.pos_of_ne_zero hpne
  have hless : taken * r ≤ s * r := Nat.mul_le_mul_right r hle
  -- the cost covers the units that were paid, and no offer below `s` covers more
  have hcovers : s * r / p * p ≤ taken * r := by
    rw [Nat.mul_comm taken, ← ceilDiv_le_iff_le_mul (Nat.pos_of_ne_zero hrne), htakeneq]
  have hunits : taken * r / p = s * r / p :=
    Nat.le_antisymm (Nat.div_le_div_right hless) ((Nat.le_div_iff_mul_le hpos).2 hcovers)
  refine value_swap_aToB_eq_some_iff.2 ⟨⟨hp, hr, hless.trans hworth, hpne, hrne⟩, ?_⟩
  rw [hunits, htakeneq]
  exact ⟨rfl, htaken, hpaid⟩

/-- Two parts of an offer buy no more than the whole. -/
theorem paid_add_paid_le {s₁ s₂ : Nat} {part₁ part₂ : SwapAmounts} (hs : s = s₁ + s₂)
    (h₁ : ((⟨p, r⟩ : Price).swap s₁ .aToB).value = some part₁)
    (h₂ : ((⟨p, r⟩ : Price).swap s₂ .aToB).value = some part₂) :
    part₁.paid + part₂.paid ≤ amounts.paid := by
  obtain ⟨-, rfl, -⟩ := value_swap_aToB_eq_some_iff.1 h
  obtain ⟨-, rfl, -⟩ := value_swap_aToB_eq_some_iff.1 h₁
  obtain ⟨-, rfl, -⟩ := value_swap_aToB_eq_some_iff.1 h₂
  rw [hs, Nat.add_mul]
  exact Nat.div_add_div_le_add_div

end Amounts

/-! ## Purchases without a result -/

/-- The same purchase without a look back at the offer. -/
def buyWide (price : Price) (source : Int) : Except WideError (Option SwapAmounts) := do
  let tokenB ← Wide.ofInt price.tokenB
  let source ← Wide.ofInt source
  let scale ← Wide.ofInt price.scale
  let worth ← source.mul scale
  let paid ← worth.div tokenB
  let cost ← paid.mul tokenB
  let taken ← cost.ceilDiv scale
  settle taken paid

section Steps

variable {tokenB source scale worth paid cost taken : Wide}
  (hpaid : worth.div tokenB = .ok paid)

include hpaid

/-- The cost of what is paid is wide, because the offer's worth is. -/
theorem mul_tokenB_ne_error (cause : WideError) : paid.mul tokenB ≠ .error cause := by
  intro h
  obtain ⟨hwide, -⟩ := Wide.mul_natCast_eq_error_iff.1 h
  rw [(Wide.div_natCast_eq_ok_iff.1 hpaid).2] at hwide
  have hle := (Nat.div_mul_le_self worth.toNat tokenB.toNat).trans worth.toNat_le
  omega

/-- What the units cost is covered by the offer. -/
theorem taken_le_source (hworth : source.mul scale = .ok worth) (hcost : paid.mul tokenB = .ok cost)
    (htaken : cost.ceilDiv scale = .ok taken) : taken.toNat ≤ source.toNat := by
  obtain ⟨hne, htaken⟩ := Wide.ceilDiv_natCast_eq_ok_iff.1 htaken
  rw [htaken, Wide.mul_natCast_eq_ok_iff.1 hcost, (Wide.div_natCast_eq_ok_iff.1 hpaid).2,
    Wide.mul_natCast_eq_ok_iff.1 hworth]
  exact cost_le_source hne

end Steps

variable {price : Price} {source : Int}

/-- The offer is looked back at in vain. -/
theorem swapWide_aToB : price.swapWide source .aToB = price.buyWide source := by
  unfold swapWide buyWide
  refine bind_congr fun tokenB => bind_congr fun source => bind_congr fun scale => ?_
  refine bind_congr_of_ok fun worth hworth => bind_congr_of_ok fun paid hpaid => ?_
  refine bind_congr_of_ok fun cost hcost => bind_congr_of_ok fun taken htaken => ?_
  exact if_neg (Nat.not_lt.2 (taken_le_source hpaid hworth hcost htaken))

theorem settle_ne_productTooWide (taken paid : Wide) (left : Nat) (right : Int) :
    settle taken paid ≠ .error (.productTooWide left right) := by
  unfold settle
  simp [bind_eq_error_iff, Wide.narrow_eq_error_iff, pure, Except.pure]

/-- The one product that can be too wide is the worth of the offer. -/
theorem worth_of_productTooWide {left : Nat} {right : Int}
    (h : price.swapWide source .aToB = .error (.productTooWide left right)) :
    (left = source ∧ right = price.scale) ∧ wideMax < source * price.scale := by
  rw [swapWide_aToB, buyWide] at h
  simp only [bind_eq_error_iff, Wide.ofInt_ne_productTooWide, false_or] at h
  obtain ⟨tokenB, -, offer, hoffer, scale, hscale, h⟩ := h
  rw [Wide.ofInt_eq_ok_iff] at hoffer hscale
  rw [← hoffer, ← hscale]
  rcases h with hworth | ⟨worth, hworth, h⟩
  · obtain ⟨hwide, hcause⟩ := Wide.mul_natCast_eq_error_iff.1 hworth
    cases hcause
    exact ⟨⟨rfl, rfl⟩, by exact_mod_cast hwide⟩
  rcases h with hpaid | ⟨paid, hpaid, h⟩
  · cases (Wide.div_natCast_eq_error_iff.1 hpaid).2
  rcases h with hcost | ⟨cost, -, h⟩
  · exact absurd hcost (mul_tokenB_ne_error hpaid _)
  rcases h with htaken | ⟨taken, -, h⟩
  · cases (Wide.ceilDiv_natCast_eq_error_iff.1 htaken).2
  · exact absurd h (settle_ne_productTooWide taken paid left right)

/-- Nothing is bought exactly when a divisor is missing, when nothing is covered or
when one of the three numbers is too wide. -/
theorem swap_natCast_eq_none_iff {p r s : Nat} (hp : p ≤ wideMax) (hr : r ≤ wideMax) :
    ((⟨p, r⟩ : Price).swap s .aToB).value = none ↔
      p = 0 ∨ r = 0 ∨ wideMax < s * r ∨ s * r / p = 0 ∨ narrowMax < s * r / p ∨
        narrowMax < (s * r / p * p) ⌈/⌉ r := by
  have hexists : (∃ amounts, ((⟨p, r⟩ : Price).swap s .aToB).value = some amounts) ↔
      (s * r ≤ wideMax ∧ p ≠ 0 ∧ r ≠ 0) ∧
        Movable ((s * r / p * p) ⌈/⌉ r) ∧ Movable (s * r / p) := by
    simp only [value_swap_aToB_eq_some_iff, hp, hr, true_and]
    exact ⟨fun ⟨_, h, _, hmoved⟩ => ⟨h, hmoved⟩, fun ⟨h, hmoved⟩ => ⟨_, h, rfl, hmoved⟩⟩
  rw [← not_iff_not, ← ne_eq, Option.ne_none_iff_exists', hexists]
  constructor
  · rintro ⟨⟨hworth, hpne, hrne⟩, htaken, hpaid⟩
    unfold Movable at htaken hpaid
    omega
  · intro h
    push Not at h
    obtain ⟨hpne, hrne, hworth, hpaidne, hpaid, htaken⟩ := h
    have hpos := Nat.pos_of_ne_zero hpaidne
    refine ⟨⟨hworth, hpne, hrne⟩, ⟨?_, htaken⟩, hpos, hpaid⟩
    -- units that are worth something are not covered by nothing
    by_contra hzero
    have hcovers := (ceilDiv_le_iff_le_mul (Nat.pos_of_ne_zero hrne)).1 (Nat.not_lt.1 hzero)
    have hcost := Nat.mul_pos hpos (Nat.pos_of_ne_zero hpne)
    omega

theorem swap_eq_none_iff (hsource : 0 ≤ source) (htokenB : 0 ≤ price.tokenB)
    (htokenB' : price.tokenB ≤ wideMax) (hscale : 0 ≤ price.scale)
    (hscale' : price.scale ≤ wideMax) :
    (price.swap source .aToB).value = none ↔
      price.tokenB = 0 ∨ price.scale = 0 ∨ wideMax < source * price.scale ∨
        price.affordable source = 0 ∨ narrowMax < price.affordable source ∨
        narrowMax < price.cost (price.affordable source) := by
  obtain ⟨tokenB, scale⟩ := price
  simp only at htokenB htokenB' hscale hscale' ⊢
  lift source to Nat using hsource
  lift tokenB to Nat using htokenB
  lift scale to Nat using hscale
  rw [swap_natCast_eq_none_iff (Int.ofNat_le.1 htokenB') (Int.ofNat_le.1 hscale'),
    affordable_natCast]
  by_cases hne : scale = 0
  · simp [hne]
  · rw [cost_natCast _ _ hne]
    norm_cast

/-- A purchase pays the most units that the offer covers, for the least amount that
covers them. What it takes buys the same again, and the offer in two parts buys no
more. Neither the look back at the offer nor the product of the cost ever refuses it. -/
theorem purchase_optimal (price : Price) (source : Int) :
    (∀ amounts, (price.swap source .aToB).value = some amounts →
      IsGreatest {units : Int | units * price.tokenB ≤ source * price.scale} amounts.paid ∧
      IsLeast {offer : Int | amounts.paid * price.tokenB ≤ offer * price.scale} amounts.taken ∧
      (amounts.taken = ⌈(amounts.paid * price.tokenB : ℚ) / price.scale⌉ ∧
        amounts.taken ≤ source) ∧
      (price.swap amounts.taken .aToB).value = some amounts ∧
      ∀ s₁ s₂ part₁ part₂, source = s₁ + s₂ →
        (price.swap s₁ .aToB).value = some part₁ → (price.swap s₂ .aToB).value = some part₂ →
          part₁.paid + part₂.paid ≤ amounts.paid) ∧
    price.swapWide source .aToB = price.buyWide source ∧
    (∀ left right, price.swapWide source .aToB = .error (.productTooWide left right) →
      (left = source ∧ right = price.scale) ∧ 2 ^ 256 ≤ source * price.scale) ∧
    ((0 ≤ source ∧ source < 2 ^ 256) → (0 ≤ price.tokenB ∧ price.tokenB < 2 ^ 256) →
      (0 ≤ price.scale ∧ price.scale < 2 ^ 256) →
      ((price.swap source .aToB).value = none ↔
        price.tokenB = 0 ∨ price.scale = 0 ∨ 2 ^ 256 ≤ source * price.scale ∨
          price.affordable source = 0 ∨ 2 ^ 128 ≤ price.affordable source ∨
          2 ^ 128 ≤ price.cost (price.affordable source))) := by
  have hwideMax : (wideMax : Int) + 1 = 2 ^ 256 := by decide +kernel
  have hnarrowMax : (narrowMax : Int) + 1 = 2 ^ 128 := by decide +kernel
  refine ⟨?_, swapWide_aToB, ?_, ?_⟩
  · intro amounts h
    obtain ⟨p, r, s, rfl, rfl⟩ := exists_natCast_of_swap h
    obtain ⟨⟨-, -, -, hp, hr⟩, -⟩ := value_swap_aToB_eq_some_iff.1 h
    have hpaid := paid_eq_affordable h
    have htaken := taken_eq_cost h
    refine ⟨?_, ?_, ⟨htaken, Int.ofNat_le.2 (taken_le h)⟩, swap_taken h, ?_⟩
    · rw [hpaid]
      exact isGreatest_affordable ⟨p, r⟩ (Int.natCast_pos.2 (Nat.pos_of_ne_zero hp)) s
    · rw [htaken]
      exact isLeast_cost ⟨p, r⟩ (Int.natCast_pos.2 (Nat.pos_of_ne_zero hr)) _
    · intro s₁ s₂ part₁ part₂ hs h₁ h₂
      obtain ⟨_, _, s₁, -, rfl⟩ := exists_natCast_of_swap h₁
      obtain ⟨_, _, s₂, -, rfl⟩ := exists_natCast_of_swap h₂
      exact paid_add_paid_le h (by exact_mod_cast hs) h₁ h₂
  · intro left right h
    obtain ⟨hproduct, hwide⟩ := worth_of_productTooWide h
    exact ⟨hproduct, by omega⟩
  · rintro ⟨hsource, -⟩ ⟨htokenB, htokenB'⟩ ⟨hscale, hscale'⟩
    rw [swap_eq_none_iff hsource htokenB (by omega) hscale (by omega)]
    omega

/-- At a price of 2.5 an offer of 14 buys five units for 13, its halves buy two units
each, and an offer of 2 buys nothing. -/
theorem purchase_optimal_two_and_a_half :
    let price : Price := ⟨5, 2⟩
    (price.swap 14 .aToB).value = some ⟨13, 5⟩ ∧ IsGreatest {units : Int | units * 5 ≤ 14 * 2} 5 ∧
      IsLeast {offer : Int | 5 * 5 ≤ offer * 2} 13 ∧
      (price.swap 13 .aToB).value = some ⟨13, 5⟩ ∧
      ((14 : Int) = 7 + 7 ∧ (price.swap 7 .aToB).value = some ⟨5, 2⟩ ∧ 2 + 2 ≤ 5) ∧
      (0 ≤ (2 : Int) ∧ (2 : Int) < 2 ^ 256) ∧ (0 ≤ price.tokenB ∧ price.tokenB < 2 ^ 256) ∧
      (0 ≤ price.scale ∧ price.scale < 2 ^ 256) ∧ price.affordable 2 = 0 ∧
      (price.swap 2 .aToB).value = none := by
  intro price
  have hwhole : (price.swap 14 .aToB).value = some ⟨13, 5⟩ := by decide +kernel
  have hhalf : (price.swap 7 .aToB).value = some ⟨5, 2⟩ := by decide +kernel
  have hoffer : 0 ≤ (2 : Int) ∧ (2 : Int) < 2 ^ 256 := by decide +kernel
  have htokenB : 0 ≤ price.tokenB ∧ price.tokenB < 2 ^ 256 := by decide +kernel
  have hscale : 0 ≤ price.scale ∧ price.scale < 2 ^ 256 := by decide +kernel
  have hzero : price.affordable 2 = 0 := by decide +kernel
  obtain ⟨hbought, -, -, -⟩ := purchase_optimal price 14
  obtain ⟨-, -, -, hnothing⟩ := purchase_optimal price 2
  obtain ⟨hgreatest, hleast, -, hagain, hsplit⟩ := hbought ⟨13, 5⟩ hwhole
  refine ⟨hwhole, hgreatest, hleast, hagain,
    ⟨rfl, hhalf, hsplit 7 7 ⟨5, 2⟩ ⟨5, 2⟩ rfl hhalf hhalf⟩, hoffer, htokenB, hscale, hzero, ?_⟩
  exact (hnothing hoffer htokenB hscale).2 (.inr (.inr (.inr (.inl hzero))))

end PegPool.Price
