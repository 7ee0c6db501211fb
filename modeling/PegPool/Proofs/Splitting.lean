import PegPool.Proofs.Liquidity

/-!
# Deposits in parts

An amount of one token is deposited in parts, each against what the parts before it left.
Every part loses a fraction of what it is worth, and another of the pool tokens it is
credited. These losses change the worth and the supply that the next part is minted by, so a
bound for each part does not add up to one for all of them. It does for a pool that
counts nothing but what is credited.
-/

namespace PegPool

/-- Parts are worth no more whole tokens A than their sum. -/
theorem Direction.sum_wholeWorth_le (direction : Direction) (p r : Nat) (amounts : List Nat) :
    (amounts.map (direction.wholeWorth p r)).sum ≤ direction.wholeWorth p r amounts.sum := by
  cases direction with
  | aToB => exact (congrArg List.sum (List.map_id' amounts)).le
  | bToA =>
    induction amounts with
    | nil => exact Nat.zero_le _
    | cons amount amounts ih =>
      rw [List.map_cons, List.sum_cons, List.sum_cons, wholeWorth, wholeWorth, Nat.add_mul]
      exact (Nat.add_le_add_left ih _).trans Nat.div_add_div_le_add_div

namespace Pool

/-- What each of the parts is minted, deposited one after another. -/
def mints? (curve : Curve) (direction : Direction) (timestamp : Option Int) :
    Pool → List Nat → Option (List Nat)
  | _, [] => some []
  | pool, source :: sources => do
    let minted ← (curve.deposit source pool.tokenA pool.tokenB pool.supply direction
      timestamp).value
    let rest ← mints? curve direction timestamp (pool.putIn source minted direction) sources
    some (minted :: rest)

variable {curve : Curve} {direction : Direction} {timestamp : Option Int} {p r : Nat}
  {pool : Pool} {sources minted : List Nat}

theorem mints?_cons_eq_some_iff {source : Nat} :
    pool.mints? curve direction timestamp (source :: sources) = some minted ↔
      ∃ first, (curve.deposit source pool.tokenA pool.tokenB pool.supply direction
          timestamp).value = some first ∧
        ∃ rest, (pool.putIn source first direction).mints? curve direction timestamp sources
          = some rest ∧ first :: rest = minted := by
  simp only [mints?, Option.bind_eq_bind, Option.bind_eq_some_iff, Option.some.injEq]

/-- A pool that holds its total in token A, and to which only what is credited is added, is not
diluted either, if it starts with no more than the whole worth. -/
theorem undiluted_tokenA_of_mints? {total : Nat}
    (hprice : (curve.priceAt timestamp).value = some ⟨p, r⟩) (hpos : 0 < total)
    (htotal : total ≤ pool.wholeWorth p r)
    (h : pool.mints? curve direction timestamp sources = some minted) :
    Undiluted tokenA ⟨total, 0, pool.supply⟩
      ⟨total + (sources.map (direction.wholeWorth p r)).sum, 0, pool.supply + minted.sum⟩ := by
  induction sources generalizing pool minted total with
  | nil =>
    cases h
    exact .refl _
  | cons source sources ih =>
    obtain ⟨first, hfirst, rest, hrest, rfl⟩ := mints?_cons_eq_some_iff.1 h
    rw [Curve.value_deposit_of_priceAt hprice] at hfirst
    obtain ⟨-, hpart⟩ := minted_mul_wholeWorth_le hfirst
    have hstep : Undiluted tokenA ⟨total, 0, pool.supply⟩
        ⟨total + direction.wholeWorth p r source, 0, pool.supply + first⟩ :=
      .of_minted hpos ((Nat.mul_le_mul_left first htotal).trans hpart) (Nat.le_refl _) rfl
    -- the total stays below the whole worth, which grows by what is lost as well
    have hgrown := (Nat.add_le_add_right htotal _).trans
      (wholeWorth_add_le_putIn pool p r source first direction)
    have hothers := ih (Nat.add_pos_left hpos _) hgrown hrest
    rw [supply_putIn, Nat.add_assoc, Nat.add_assoc] at hothers
    exact hstep.trans hothers

/-- An amount that is deposited in parts is minted no more than the whole of it at once. -/
theorem parts_mint_no_more {single : Nat}
    (hparts : pool.mints? curve direction timestamp sources = some minted)
    (hsingle : (curve.deposit (sources.sum : Nat) pool.tokenA pool.tokenB pool.supply direction
      timestamp).value = some single) : minted.sum ≤ single := by
  rw [Curve.deposit, Logged.value_andThen, Option.bind_eq_some_iff] at hsingle
  obtain ⟨price, hprice, hsingle⟩ := hsingle
  obtain ⟨p, r, rfl⟩ := Curve.exists_natCast_of_priceAt hprice
  obtain ⟨-, ⟨-, -, -, hne⟩, -, rfl, -⟩ := Price.value_poolTokens_eq_some_iff.1 hsingle
  have hpos : 0 < pool.wholeWorth p r := Nat.pos_of_ne_zero hne
  apply (Nat.le_div_iff_mul_le hpos).2
  have hsum := (undiluted_tokenA_of_mints? hprice hpos (Nat.le_refl _) hparts).value_mul_le
  simp only [Nat.mul_add, Nat.add_mul, Nat.add_le_add_iff_left] at hsum
  calc minted.sum * pool.wholeWorth p r
      = pool.wholeWorth p r * minted.sum := Nat.mul_comm _ _
    _ ≤ (sources.map (direction.wholeWorth p r)).sum * pool.supply := hsum
    _ ≤ direction.wholeWorth p r sources.sum * pool.supply :=
        Nat.mul_le_mul_right _ (direction.sum_wholeWorth_le p r sources)
    _ = pool.supply * direction.wholeWorth p r sources.sum := Nat.mul_comm _ _

/-- Ten tokens B at a price of a half are credited as five tokens A, and in three parts as one,
two and one. -/
theorem parts_mint_no_more_half :
    let curve := Curve.constantPrice Curve.half
    let pool : Pool := ⟨20, 21, 60⟩
    pool.mints? curve .bToA none [3, 5, 2] = some [2, 3, 1] ∧
    (curve.deposit ([3, 5, 2].sum : Nat) pool.tokenA pool.tokenB pool.supply .bToA none).value
      = some 10 ∧ [2, 3, 1].sum ≤ 10 := by
  intro curve pool
  have hparts : pool.mints? curve .bToA none [3, 5, 2] = some [2, 3, 1] := by decide +kernel
  have hsingle : (curve.deposit ([3, 5, 2].sum : Nat) pool.tokenA pool.tokenB pool.supply .bToA
      none).value = some 10 := by decide +kernel
  exact ⟨hparts, hsingle, parts_mint_no_more hparts hsingle⟩

end Pool

end PegPool
