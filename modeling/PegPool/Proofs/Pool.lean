import PegPool.Proofs.Curve
import PegPool.Proofs.Share

/-!
# Pools

A pool holds both tokens and has issued pool tokens. Each operation asks the
curve and moves what the curve answers; it fails where the curve has no answer
or the pool does not hold what it would pay.

What a pool is worth is told exactly, in units of which the scale of the price
makes one token A. Nobody is diluted if the worth per pool token does not fall;
both sides of the comparison are multiplied out, since pool tokens may be zero.
-/

namespace PegPool

/-- What one unit of the token handed in is worth. -/
def Direction.unitWorth (p r : Nat) : Direction → Nat
  | aToB => r
  | bToA => p

/-- A swap takes at least what it pays is worth. -/
theorem Price.paid_mul_le_of_swap {p r : Nat} {source : Int} {direction : Direction}
    {moved : SwapAmounts} (h : ((⟨p, r⟩ : Price).swap source direction).value = some moved) :
    moved.paid * direction.opposite.unitWorth p r ≤ moved.taken * direction.unitWorth p r := by
  lift source to Nat using source_nonneg_of_swap h
  cases direction with
  | aToB =>
    obtain ⟨⟨-, -, -, -, hr⟩, rfl, -⟩ := value_swap_aToB_eq_some_iff.1 h
    have hcost : source * r / p * p ≤ r * ((source * r / p * p) ⌈/⌉ r) :=
      le_smul_ceilDiv (Nat.pos_of_ne_zero hr)
    rwa [Nat.mul_comm r] at hcost
  | bToA =>
    obtain ⟨-, rfl, -⟩ := value_swap_bToA_eq_some_iff.1 h
    exact Nat.div_mul_le_self _ _

/-- A swap takes less than one token A more than what it pays is worth. -/
theorem Price.taken_mul_lt_of_swap {p r : Nat} {source : Int} {direction : Direction}
    {moved : SwapAmounts} (h : ((⟨p, r⟩ : Price).swap source direction).value = some moved) :
    moved.taken * direction.unitWorth p r
      < moved.paid * direction.opposite.unitWorth p r + r := by
  lift source to Nat using source_nonneg_of_swap h
  cases direction with
  | aToB =>
    obtain ⟨⟨-, -, -, -, hr⟩, rfl, -⟩ := value_swap_aToB_eq_some_iff.1 h
    exact Wide.ceilDiv_mul_lt (Nat.pos_of_ne_zero hr)
  | bToA =>
    obtain ⟨⟨-, -, -, hr⟩, rfl, -⟩ := value_swap_bToA_eq_some_iff.1 h
    exact Nat.lt_div_mul_add (Nat.pos_of_ne_zero hr)

/-- What a pool holds of both tokens, and the pool tokens there are. -/
structure Pool where
  tokenA : Nat
  tokenB : Nat
  supply : Nat
  deriving DecidableEq, Repr

namespace Pool

/-! ## Operations -/

/-- Takes one token and pays the other, if the pool holds enough of it. -/
def exchange? (pool : Pool) (moved : SwapAmounts) : Direction → Option Pool
  | .aToB =>
    if moved.paid ≤ pool.tokenB then
      some ⟨pool.tokenA + moved.taken, pool.tokenB - moved.paid, pool.supply⟩
    else none
  | .bToA =>
    if moved.paid ≤ pool.tokenA then
      some ⟨pool.tokenA - moved.paid, pool.tokenB + moved.taken, pool.supply⟩
    else none

theorem exchange?_aToB_eq_some_iff {old new : Pool} {moved : SwapAmounts} :
    old.exchange? moved .aToB = some new ↔ moved.paid ≤ old.tokenB ∧
      ⟨old.tokenA + moved.taken, old.tokenB - moved.paid, old.supply⟩ = new := by
  simp only [exchange?, Option.ite_none_right_eq_some, Option.some.injEq]

theorem exchange?_bToA_eq_some_iff {old new : Pool} {moved : SwapAmounts} :
    old.exchange? moved .bToA = some new ↔ moved.paid ≤ old.tokenA ∧
      ⟨old.tokenA - moved.paid, old.tokenB + moved.taken, old.supply⟩ = new := by
  simp only [exchange?, Option.ite_none_right_eq_some, Option.some.injEq]

/-- Swaps an offered amount. -/
def swap? (curve : Curve) (source : Int) (direction : Direction) (timestamp : Option Int)
    (pool : Pool) : Option Pool := do
  let moved ← (curve.swap source direction timestamp).value
  pool.exchange? moved direction

/-- Mints pool tokens for both tokens, rounded up. -/
def mint? (curve : Curve) (poolTokens : Nat) (timestamp : Option Int) (pool : Pool) :
    Option Pool := do
  let taken ← (curve.share poolTokens pool.supply pool.tokenA pool.tokenB .ceiling
    timestamp).value
  some ⟨pool.tokenA + taken.tokenA, pool.tokenB + taken.tokenB, pool.supply + poolTokens⟩

/-- Burns pool tokens that there are for both tokens, rounded down. -/
def burn? (curve : Curve) (poolTokens : Nat) (timestamp : Option Int) (pool : Pool) :
    Option Pool :=
  if poolTokens ≤ pool.supply then do
    let paid ← (curve.share poolTokens pool.supply pool.tokenA pool.tokenB .floor
      timestamp).value
    some ⟨pool.tokenA - paid.tokenA, pool.tokenB - paid.tokenB, pool.supply - poolTokens⟩
  else none

/-- One operation after another, each on what the one before left. -/
def run? {α : Type} (step : α → Pool → Option Pool) (start : Pool) (operations : List α) :
    Option Pool :=
  operations.foldlM (fun pool operation => step operation pool) start

/-- What every operation keeps between the pools before and after it, every run
keeps between its ends. -/
theorem rel_of_run? {α : Type} {step : α → Pool → Option Pool} {R : Pool → Pool → Prop}
    (hrefl : ∀ pool, R pool pool) (htrans : ∀ {x y z}, R x y → R y z → R x z)
    (hstep : ∀ {operation old new}, step operation old = some new → R old new)
    {operations : List α} {start last : Pool} (h : start.run? step operations = some last) :
    R start last := by
  induction operations generalizing start with
  | nil =>
    cases h
    exact hrefl _
  | cons operation operations ih =>
    rw [run?, List.foldlM_cons, Option.bind_eq_bind, Option.bind_eq_some_iff] at h
    obtain ⟨next, hnext, h⟩ := h
    exact htrans (hstep hnext) (ih h)

/-! ## Worth -/

/-- What both reserves are worth. -/
def worth (p r : Nat) (pool : Pool) : Nat := pool.tokenA * r + pool.tokenB * p

/-- What both reserves are worth in whole tokens A. -/
def wholeWorth (p r : Nat) (pool : Pool) : Nat := pool.tokenA + pool.tokenB * p / r

/-- The worth in whole tokens A, and the fraction that B leaves over. -/
theorem worth_eq_whole_mul_add (pool : Pool) (p r : Nat) :
    pool.worth p r = pool.wholeWorth p r * r + pool.tokenB * p % r := by
  rw [wholeWorth, Nat.add_mul, Nat.add_assoc, Nat.div_add_mod', worth]

theorem wholeWorth_eq_worth_div {r : Nat} (hr : 0 < r) (pool : Pool) (p : Nat) :
    pool.wholeWorth p r = pool.worth p r / r := by
  rw [worth, Nat.add_comm (pool.tokenA * r), Nat.add_mul_div_right _ _ hr, Nat.add_comm,
    wholeWorth]

/-- A value is half the worth in whole tokens A. -/
theorem eq_worth_div_of_normalizedValue {pool : Pool} {p r v : Nat}
    (h : ((⟨p, r⟩ : Price).normalizedValue pool.tokenA pool.tokenB).value = some v) :
    0 < r ∧ v = pool.worth p r / r / 2 := by
  obtain ⟨⟨-, -, -, -, hne⟩, rfl, -⟩ := Price.value_normalizedValue_eq_some_iff.1 h
  have hr := Nat.pos_of_ne_zero hne
  refine ⟨hr, ?_⟩
  rw [← wholeWorth_eq_worth_div hr, wholeWorth]

/-- What an exchange takes is added to the worth, and what it pays is gone. -/
theorem worth_add_of_exchange? {p r : Nat} {direction : Direction} {moved : SwapAmounts}
    {old new : Pool} (h : old.exchange? moved direction = some new) :
    new.worth p r + moved.paid * direction.opposite.unitWorth p r
      = old.worth p r + moved.taken * direction.unitWorth p r ∧ new.supply = old.supply := by
  cases direction with
  | aToB =>
    obtain ⟨hle, rfl⟩ := exchange?_aToB_eq_some_iff.1 h
    refine ⟨?_, rfl⟩
    calc (old.tokenA + moved.taken) * r + (old.tokenB - moved.paid) * p + moved.paid * p
        = (old.tokenA + moved.taken) * r + old.tokenB * p := by
          rw [Nat.add_assoc, ← Nat.add_mul, Nat.sub_add_cancel hle]
      _ = old.tokenA * r + old.tokenB * p + moved.taken * r := by
          rw [Nat.add_mul, Nat.add_right_comm]
  | bToA =>
    obtain ⟨hle, rfl⟩ := exchange?_bToA_eq_some_iff.1 h
    refine ⟨?_, rfl⟩
    calc (old.tokenA - moved.paid) * r + (old.tokenB + moved.taken) * p + moved.paid * r
        = old.tokenA * r + (old.tokenB + moved.taken) * p := by
          rw [Nat.add_right_comm, ← Nat.add_mul, Nat.sub_add_cancel hle]
      _ = old.tokenA * r + old.tokenB * p + moved.taken * p := by
          rw [Nat.add_mul, Nat.add_assoc]

section Swap

variable {curve : Curve} {p r : Nat} {source : Int} {direction : Direction}
  {timestamp : Option Int} {old new : Pool}
  (hprice : (curve.priceAt timestamp).value = some ⟨p, r⟩)
  (h : old.swap? curve source direction timestamp = some new)

include hprice h

/-- A swap exchanges the amounts of its price. -/
theorem exchange?_of_swap? :
    ∃ moved, ((⟨p, r⟩ : Price).swap source direction).value = some moved ∧
      old.exchange? moved direction = some new := by
  rwa [swap?, Option.bind_eq_bind, Option.bind_eq_some_iff,
    Curve.value_swap_of_priceAt hprice] at h

/-- A swap never makes the pool worth less. -/
theorem worth_le_of_swap? : old.worth p r ≤ new.worth p r ∧ new.supply = old.supply := by
  obtain ⟨moved, hmoved, h⟩ := exchange?_of_swap? hprice h
  obtain ⟨hworth, hsupply⟩ := worth_add_of_exchange? (p := p) (r := r) h
  have hpaid := Price.paid_mul_le_of_swap hmoved
  exact ⟨by omega, hsupply⟩

/-- What a swap adds to the worth is a fraction of one token A. -/
theorem worth_lt_of_swap? : new.worth p r < old.worth p r + r := by
  obtain ⟨moved, hmoved, h⟩ := exchange?_of_swap? hprice h
  obtain ⟨hworth, -⟩ := worth_add_of_exchange? (p := p) (r := r) h
  have htaken := Price.taken_mul_lt_of_swap hmoved
  omega

end Swap

/-- What holds of each reserve per pool token holds of their worth. -/
theorem worth_mul_le_worth_mul {old new : Pool} {p r m n : Nat}
    (hA : old.tokenA * m ≤ new.tokenA * n) (hB : old.tokenB * m ≤ new.tokenB * n) :
    old.worth p r * m ≤ new.worth p r * n :=
  calc old.worth p r * m
      = old.tokenA * m * r + old.tokenB * m * p := by
        rw [worth, Nat.add_mul, Nat.mul_right_comm, Nat.mul_right_comm _ p]
    _ ≤ new.tokenA * n * r + new.tokenB * n * p :=
        Nat.add_le_add (Nat.mul_le_mul_right r hA) (Nat.mul_le_mul_right p hB)
    _ = new.worth p r * n := by
        rw [worth, Nat.add_mul, Nat.mul_right_comm, Nat.mul_right_comm _ p]

/-! ## Dilution -/

/-- Whoever adds their part of a value leaves no less of it for each pool token. -/
theorem mul_supply_add_le {v v' supply minted added : Nat}
    (hpart : minted * v ≤ supply * added) (hgrown : v + added ≤ v') :
    v * (supply + minted) ≤ v' * supply :=
  calc v * (supply + minted)
      = v * supply + minted * v := by rw [Nat.mul_add, Nat.mul_comm v minted]
    _ ≤ v * supply + supply * added := Nat.add_le_add_left hpart _
    _ = (v + added) * supply := by rw [Nat.add_mul, Nat.mul_comm supply]
    _ ≤ v' * supply := Nat.mul_le_mul_right _ hgrown

/-- Whoever takes no more than their part of a value leaves no less of it for each pool
token. -/
theorem mul_supply_sub_le {v v' supply burnt removed : Nat}
    (hpart : supply * removed ≤ burnt * v) (hshrunk : v ≤ v' + removed) :
    v * (supply - burnt) ≤ v' * supply := by
  rw [Nat.mul_sub, Nat.sub_le_iff_le_add]
  calc v * supply
      ≤ (v' + removed) * supply := Nat.mul_le_mul_right _ hshrunk
    _ = v' * supply + supply * removed := by rw [Nat.add_mul, Nat.mul_comm supply]
    _ ≤ v' * supply + burnt * v := Nat.add_le_add_left hpart _
    _ = v' * supply + v * burnt := by rw [Nat.mul_comm v]

/-- The value per pool token does not fall, and pool tokens do not come from
nothing. -/
structure Undiluted (value : Pool → Nat) (old new : Pool) : Prop where
  value_mul_le : value old * new.supply ≤ value new * old.supply
  supply_eq_zero : old.supply = 0 → new.supply = 0

namespace Undiluted

variable {value : Pool → Nat} {old middle new : Pool}

theorem refl (pool : Pool) : Undiluted value pool pool := ⟨Nat.le_refl _, id⟩

/-- The supply between two steps cancels, unless it is zero; then the last one
is zero too. -/
theorem trans (h : Undiluted value old middle) (h' : Undiluted value middle new) :
    Undiluted value old new where
  value_mul_le := by
    rcases Nat.eq_zero_or_pos middle.supply with hzero | hpos
    · rw [h'.supply_eq_zero hzero, Nat.mul_zero]
      exact Nat.zero_le _
    · apply Nat.le_of_mul_le_mul_right _ hpos
      calc value old * new.supply * middle.supply
          = value old * middle.supply * new.supply := Nat.mul_right_comm _ _ _
        _ ≤ value middle * old.supply * new.supply := Nat.mul_le_mul_right _ h.value_mul_le
        _ = value middle * new.supply * old.supply := Nat.mul_right_comm _ _ _
        _ ≤ value new * middle.supply * old.supply := Nat.mul_le_mul_right _ h'.value_mul_le
        _ = value new * old.supply * middle.supply := Nat.mul_right_comm _ _ _
  supply_eq_zero hzero := h'.supply_eq_zero (h.supply_eq_zero hzero)

theorem of_supply_eq (hvalue : value old ≤ value new) (hsupply : new.supply = old.supply) :
    Undiluted value old new where
  value_mul_le := by
    rw [hsupply]
    exact Nat.mul_le_mul_right _ hvalue
  supply_eq_zero hzero := hsupply.trans hzero

end Undiluted

end Pool

end PegPool
