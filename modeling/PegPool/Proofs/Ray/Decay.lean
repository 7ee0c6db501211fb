import PegPool.Proofs.Ray.Power

/-!
# Powers of decay

A factor of at most one lets no product grow: rounded to the nearest ray, a product
exceeds neither of its factors. This turns the order of powers around. Along a path of
ones the product never falls below the next square, so one more digit that carries
through all of them can only take something away.

No power of decay is too wide, as long as the square of one fits. So here absence is
not an outcome that has to be put in order: both powers are there, and the longer one
is no larger.
-/

namespace PegPool.Ray

variable {ray base : Wide}

/-! ## One product -/

/-- A factor of at most one does not raise the other factor. -/
theorem le_of_times_eq_ok_of_le_ray {u v w : Wide} (h : times ray u v = .ok w)
    (hu : u.toNat ≤ ray.toNat) : w.toNat ≤ v.toNat := by
  obtain ⟨hray, -, hw⟩ := times_eq_ok_iff.1 h
  have hpos := Nat.pos_of_ne_zero hray
  have hproduct : u.toNat * v.toNat ≤ ray.toNat * v.toNat := Nat.mul_le_mul_right _ hu
  -- the half that rounds to the nearest ray never fills up a whole one
  have hhalf : ray.toNat / 2 < ray.toNat := Nat.div_lt_self hpos (by decide)
  rw [hw, ← Nat.lt_succ_iff, Nat.div_lt_iff_lt_mul hpos, Nat.succ_mul, Nat.mul_comm v.toNat]
  omega

/-! ## One more second -/

/-- The invariant of a path of ones, as a hypothesis: the product does not fall below
the next square. Then one more digit may carry through all of them. -/
theorem foldSquares_succ_le {base product product' v w : Wide} {n : Nat}
    (hproduct : ∀ square, times ray base base = .ok square → square.toNat ≤ product.toNat)
    (hproduct' : product'.toNat ≤ ray.toNat)
    (hv : foldSquares ray base product n = .ok v)
    (hw : foldSquares ray base product' (n + 1) = .ok w) : w.toNat ≤ v.toNat := by
  induction n using Nat.evenOddRec generalizing base product product' with
  | h0 =>
    obtain ⟨square, hsquare, next, hnext, hw⟩ := (foldSquares_two_mul_add_one (n := 0)).1 hw
    rw [foldSquares_zero, Except.ok.injEq] at hv hw
    have hle := le_of_times_eq_ok_of_le_ray hnext hproduct'
    exact hv ▸ hw ▸ hle.trans (hproduct square hsquare)
  | h_even n ih =>
    by_cases hn : n = 0
    · subst hn
      exact ih hproduct hproduct' hv hw
    · -- the digit that differs is found: from here on both fold the same squares
      obtain ⟨square, hsquare, next, hnext, hw⟩ := foldSquares_two_mul_add_one.1 hw
      obtain ⟨square', hsquare', hv⟩ := (foldSquares_two_mul hn).1 hv
      obtain rfl : square = square' := ok_unique hsquare hsquare'
      have hle := (le_of_times_eq_ok_of_le_ray hnext hproduct').trans (hproduct square hsquare)
      obtain ⟨w', hw', hle'⟩ := foldSquares_below (Nat.le_refl _) hle v hv
      obtain rfl : w = w' := ok_unique hw hw'
      exact hle'
  | h_odd n ih =>
    rw [show 2 * n + 1 + 1 = 2 * (n + 1) by omega] at hw
    obtain ⟨square, hsquare, hw⟩ := (foldSquares_two_mul (by omega)).1 hw
    obtain ⟨square', hsquare', next, hnext, hv⟩ := foldSquares_two_mul_add_one.1 hv
    obtain rfl : square = square' := ok_unique hsquare hsquare'
    refine ih (fun square' hsquare' => ?_) hproduct' hv hw
    -- one more one keeps the invariant: `square * square ≤ product * square`
    obtain ⟨next', hnext', hle⟩ :=
      times_below (hproduct square hsquare) (Nat.le_refl _) next hnext
    obtain rfl : square' = next' := ok_unique hsquare' hnext'
    exact hle

theorem powerWide_succ_le (hbase : base.toNat ≤ ray.toNat) {n : Nat} {v w : Wide}
    (hv : powerWide ray base n = .ok v) (hw : powerWide ray base (n + 1) = .ok w) :
    w.toNat ≤ v.toNat := by
  by_cases hzero : base.toNat = 0
  · rw [powerWide, if_pos hzero, if_neg (Nat.succ_ne_zero n), Except.ok.injEq] at hw
    subst hw
    omega
  rcases Nat.even_or_odd' n with ⟨m, rfl | rfl⟩
  · rw [powerWide_two_mul hzero] at hv
    rw [powerWide_two_mul_add_one hzero] at hw
    obtain ⟨w', hw', hle⟩ := foldSquares_below (Nat.le_refl _) hbase v hv
    obtain rfl : w = w' := ok_unique hw hw'
    exact hle
  · rw [powerWide_two_mul_add_one hzero] at hv
    rw [show 2 * m + 1 + 1 = 2 * (m + 1) by omega, powerWide_two_mul hzero] at hw
    exact foldSquares_succ_le (fun square h => le_of_times_eq_ok_of_le_ray h hbase)
      (Nat.le_refl _) hv hw

/-! ## Powers as answers -/

section Decay

variable {ray base : Nat} (hray : 0 < ray) (hnarrow : ray ≤ narrowMax) (hbase : base ≤ ray)

include hray hnarrow hbase

/-- Decay is never too wide: the powers of one are not, and they are no smaller. -/
theorem exists_power_of_le_ray (n : Nat) :
    ∃ v, (power ray base n).value = some v ∧ v ≤ ray :=
  power_le_power_of_base_le hbase (value_power_ray hray (square_add_half_le_wideMax hnarrow) n)

/-- Decay does not rise with time. -/
theorem power_le_power_of_le_ray {m n : Nat} (h : m ≤ n) :
    ∃ v w, (power ray base m).value = some v ∧ (power ray base n).value = some w ∧ w ≤ v := by
  induction h with
  | refl =>
    obtain ⟨v, hv, -⟩ := exists_power_of_le_ray hray hnarrow hbase m
    exact ⟨v, v, hv, hv, Nat.le_refl v⟩
  | @step n _ ih =>
    obtain ⟨v, w, hv, hw, hle⟩ := ih
    obtain ⟨w', hw', -⟩ := exists_power_of_le_ray hray hnarrow hbase (n + 1)
    refine ⟨v, w', hv, hw', ?_⟩
    obtain ⟨hrayle, hbasele, last, hlast, rfl⟩ := value_power_eq_some_iff.1 hw
    obtain ⟨_, _, next, hnext, rfl⟩ := value_power_eq_some_iff.1 hw'
    have hwide : (⟨base, hbasele⟩ : Wide).toNat ≤ (⟨ray, hrayle⟩ : Wide).toNat := hbase
    exact (powerWide_succ_le hwide hlast hnext).trans hle

end Decay

/-! ## The order of powers of integers -/

/-- What the power of integers answers, apart from what it reports. -/
def answerOfInts (ray base n : Int) : Except PowerError (Option Nat) :=
  Logged.value <$> powerOfInts ray base n

theorem answerOfInts_eq_ok {ray base n : Nat} (hray : 0 < ray) :
    answerOfInts ray base n = .ok (power ray base n).value := by
  rw [answerOfInts, powerOfInts_eq_ok hray (Int.natCast_nonneg n), Int.toNat_natCast]
  rfl

theorem answerOfInts_eq_some_iff {ray base n v : Nat} (hray : 0 < ray) :
    answerOfInts ray base n = .ok (some v) ↔ (power ray base n).value = some v := by
  rw [answerOfInts_eq_ok hray, Except.ok.injEq]

/-- Growth does not fall with time and is too wide only later, decay does not rise with
time and is never too wide, and a smaller base has the smaller power, which is too wide
only where that of the larger base is. -/
theorem power_order {ray m n : Nat} (hray : 1 ≤ ray) (hmn : m ≤ n) :
    (∀ x w : Nat, ray ≤ x → answerOfInts ray x n = .ok (some w) →
      ∃ v : Nat, answerOfInts ray x m = .ok (some v) ∧ v ≤ w) ∧
    (∀ x : Nat, x ≤ ray → ray < 2 ^ 128 → ∃ v w : Nat, answerOfInts ray x m = .ok (some v) ∧
      answerOfInts ray x n = .ok (some w) ∧ w ≤ v) ∧
    ∀ x y w : Nat, x ≤ y → answerOfInts ray y n = .ok (some w) →
      ∃ v : Nat, answerOfInts ray x n = .ok (some v) ∧ v ≤ w := by
  simp only [answerOfInts_eq_some_iff hray]
  refine ⟨?_, ?_, ?_⟩
  · intro x w hx hw
    exact power_le_power hray hx hmn hw
  · intro x hx hlt
    have hnarrow : ray ≤ narrowMax := Nat.le_of_lt_succ hlt
    exact power_le_power_of_le_ray hray hnarrow hx hmn
  · intro x y w hxy hw
    exact power_le_power_of_base_le hxy hw

/-- In units of 10, from the seventh power, which folds every square, to the eighth,
which folds the last one only. -/
theorem power_order_tenths :
    1 ≤ 10 ∧ 7 ≤ 8 ∧ 10 ≤ 12 ∧ 8 ≤ 10 ∧ 10 < 2 ^ 128 ∧ 12 ≤ 13 ∧
    answerOfInts 10 12 8 = .ok (some 40) ∧
    (∃ v, answerOfInts 10 12 7 = .ok (some v) ∧ v ≤ 40) ∧
    (∃ v w, answerOfInts 10 8 7 = .ok (some v) ∧ answerOfInts 10 8 8 = .ok (some w) ∧ w ≤ v) ∧
    answerOfInts 10 13 8 = .ok (some 84) ∧
    ∃ v, answerOfInts 10 12 8 = .ok (some v) ∧ v ≤ 84 := by
  obtain ⟨hgrowth, hdecay, hbase⟩ := @power_order 10 7 8 (by decide) (by decide)
  have hlonger : answerOfInts 10 12 8 = .ok (some 40) := by decide +kernel
  have hlarger : answerOfInts 10 13 8 = .ok (some 84) := by decide +kernel
  exact ⟨by decide, by decide, by decide, by decide, by decide, by decide, hlonger,
    hgrowth 12 40 (by decide) hlonger, hdecay 8 (by decide) (by decide), hlarger,
    hbase 12 13 84 (by decide) hlarger⟩

end PegPool.Ray
