import Mathlib.Data.Nat.EvenOddRec
import PegPool.Proofs.Wide
import PegPool.Ray.Power

/-!
# The order of powers

A power that compounds growth never falls when the exponent grows by one,
although the two exponents take different paths through the squares: the ones
at the end of `2 ^ k - 1` are folded into the product one after the other,
where `2 ^ k` folds a single square. What saves the order is an invariant of
the path of ones: its product never exceeds the next square.

Absence counts as the greatest outcome. So each statement says at once that the
smaller power exists whenever the larger one does.
-/

namespace PegPool.Ray

variable {ray base : Wide}

/-! ## One product -/

theorem times_eq_ok_iff {u v w : Wide} :
    times ray u v = .ok w ↔ ray.toNat ≠ 0 ∧ u.toNat * v.toNat + ray.toNat / 2 ≤ wideMax ∧
      w.toNat = (u.toNat * v.toNat + ray.toNat / 2) / ray.toNat := by
  unfold times
  simp only [bind_eq_ok_iff, Wide.mul_natCast_eq_ok_iff, Wide.add_natCast_eq_ok_iff,
    Wide.div_natCast_eq_ok_iff]
  constructor
  · rintro ⟨product, hproduct, shifted, hshifted, hray, hw⟩
    have hle := shifted.toNat_le
    rw [hshifted, hproduct] at hle hw
    exact ⟨hray, hle, hw⟩
  · rintro ⟨hray, hle, hw⟩
    exact ⟨⟨_, (Nat.le_add_right _ _).trans hle⟩, rfl, ⟨_, hle⟩, rfl, hray, hw⟩

/-- A factor of at least one does not lower the other factor. -/
theorem le_of_times_eq_ok {u v w : Wide} (h : times ray u v = .ok w)
    (hu : ray.toNat ≤ u.toNat) : v.toNat ≤ w.toNat := by
  obtain ⟨hray, -, hw⟩ := times_eq_ok_iff.1 h
  rw [hw, Nat.le_div_iff_mul_le (Nat.pos_of_ne_zero hray), Nat.mul_comm]
  exact (Nat.mul_le_mul_right _ hu).trans (Nat.le_add_right _ _)

/-! ## Outcomes in order -/

/-- One outcome is below another if it exists whenever the other does, and is
no larger. -/
def Below (first second : Except WideError Wide) : Prop :=
  ∀ w, second = .ok w → ∃ v, first = .ok v ∧ v.toNat ≤ w.toNat

theorem Below.refl (outcome : Except WideError Wide) : Below outcome outcome :=
  fun w h => ⟨w, h, Nat.le_refl _⟩

theorem Below.trans {first second third : Except WideError Wide}
    (h : Below first second) (h' : Below second third) : Below first third := by
  intro w hw
  obtain ⟨v, hv, hvw⟩ := h' w hw
  obtain ⟨u, hu, huv⟩ := h v hv
  exact ⟨u, hu, huv.trans hvw⟩

theorem times_below {u u' v v' : Wide} (hu : u.toNat ≤ u'.toNat) (hv : v.toNat ≤ v'.toNat) :
    Below (times ray u v) (times ray u' v') := by
  intro w' h'
  obtain ⟨hray, hle, hw'⟩ := times_eq_ok_iff.1 h'
  have hsum : u.toNat * v.toNat + ray.toNat / 2 ≤ u'.toNat * v'.toNat + ray.toNat / 2 :=
    Nat.add_le_add_right (Nat.mul_le_mul hu hv) _
  have hquotient := Nat.div_le_div_right (c := ray.toNat) hsum
  have hwide : (u.toNat * v.toNat + ray.toNat / 2) / ray.toNat ≤ wideMax :=
    (Nat.div_le_self _ _).trans (hsum.trans hle)
  exact ⟨⟨_, hwide⟩, times_eq_ok_iff.2 ⟨hray, hsum.trans hle, rfl⟩, hw' ▸ hquotient⟩

/-! ## The fold, digit by digit -/

@[simp] theorem foldSquares_zero (product : Wide) :
    foldSquares ray base product 0 = .ok product := by
  rw [foldSquares, if_pos rfl]

/-- A last digit of zero squares the base. -/
theorem foldSquares_two_mul {product w : Wide} {n : Nat} (hn : n ≠ 0) :
    foldSquares ray base product (2 * n) = .ok w ↔
      ∃ square, times ray base base = .ok square ∧
        foldSquares ray square product n = .ok w := by
  have hne : 2 * n ≠ 0 := by omega
  have heven : ¬ 2 * n % 2 = 1 := by omega
  have hhalf : 2 * n / 2 = n := by omega
  rw [foldSquares, if_neg hne, hhalf]
  simp only [bind_eq_ok_iff, heven, if_false, pure_eq_ok_iff, exists_eq_left']

/-- A last digit of one squares the base and multiplies the square in. -/
theorem foldSquares_two_mul_add_one {product w : Wide} {n : Nat} :
    foldSquares ray base product (2 * n + 1) = .ok w ↔
      ∃ square, times ray base base = .ok square ∧
        ∃ product', times ray product square = .ok product' ∧
          foldSquares ray square product' n = .ok w := by
  have hne : 2 * n + 1 ≠ 0 := by omega
  have hodd : (2 * n + 1) % 2 = 1 := by omega
  have hhalf : (2 * n + 1) / 2 = n := by omega
  rw [foldSquares, if_neg hne, hhalf]
  simp only [bind_eq_ok_iff, hodd, if_true]

/-- A fold over any digit at all has squared its base. -/
theorem square_of_foldSquares {product w : Wide} {n : Nat} (hn : n ≠ 0)
    (h : foldSquares ray base product n = .ok w) :
    ∃ square, times ray base base = .ok square := by
  rcases Nat.even_or_odd' n with ⟨m, rfl | rfl⟩
  · obtain ⟨square, hsquare, -⟩ := (foldSquares_two_mul (by omega)).1 h
    exact ⟨square, hsquare⟩
  · obtain ⟨square, hsquare, -⟩ := foldSquares_two_mul_add_one.1 h
    exact ⟨square, hsquare⟩

/-! ## The order of folds -/

theorem foldSquares_below {base base' product product' : Wide} {n : Nat}
    (hbase : base.toNat ≤ base'.toNat) (hproduct : product.toNat ≤ product'.toNat) :
    Below (foldSquares ray base product n) (foldSquares ray base' product' n) := by
  induction n using Nat.evenOddRec generalizing base base' product product' with
  | h0 =>
    intro w hw
    rw [foldSquares_zero, Except.ok.injEq] at hw
    exact ⟨product, foldSquares_zero product, hw ▸ hproduct⟩
  | h_even n ih =>
    rcases Nat.eq_zero_or_pos n with rfl | hn
    · exact ih hbase hproduct
    · intro w hw
      obtain ⟨square', hsquare', hw⟩ := (foldSquares_two_mul (by omega)).1 hw
      obtain ⟨square, hsquare, hle⟩ := times_below hbase hbase square' hsquare'
      obtain ⟨v, hv, hvw⟩ := ih hle hproduct w hw
      exact ⟨v, (foldSquares_two_mul (by omega)).2 ⟨square, hsquare, hv⟩, hvw⟩
  | h_odd n ih =>
    intro w hw
    obtain ⟨square', hsquare', next', hnext', hw⟩ := foldSquares_two_mul_add_one.1 hw
    obtain ⟨square, hsquare, hle⟩ := times_below hbase hbase square' hsquare'
    obtain ⟨next, hnext, hnextle⟩ := times_below hproduct hle next' hnext'
    obtain ⟨v, hv, hvw⟩ := ih hle hnextle w hw
    exact ⟨v, foldSquares_two_mul_add_one.2 ⟨square, hsquare, next, hnext, hv⟩, hvw⟩

/-- The invariant of a path of ones, as a hypothesis: the product does not
exceed the next square. Then one more digit may carry through all of them. -/
theorem foldSquares_below_succ {base product product' : Wide} {n : Nat}
    (hproduct : ∀ square, times ray base base = .ok square → product.toNat ≤ square.toNat)
    (hproduct' : ray.toNat ≤ product'.toNat) :
    Below (foldSquares ray base product n) (foldSquares ray base product' (n + 1)) := by
  induction n using Nat.evenOddRec generalizing base product product' with
  | h0 =>
    intro w hw
    obtain ⟨square, hsquare, next, hnext, hw⟩ := (foldSquares_two_mul_add_one (n := 0)).1 hw
    rw [foldSquares_zero, Except.ok.injEq] at hw
    have hle := (hproduct square hsquare).trans (le_of_times_eq_ok hnext hproduct')
    exact ⟨product, foldSquares_zero product, hw ▸ hle⟩
  | h_even n ih =>
    rcases Nat.eq_zero_or_pos n with rfl | hn
    · exact ih hproduct hproduct'
    · -- the digit that differs is found: from here on both fold the same squares
      intro w hw
      obtain ⟨square, hsquare, next, hnext, hw⟩ := foldSquares_two_mul_add_one.1 hw
      have hle := (hproduct square hsquare).trans (le_of_times_eq_ok hnext hproduct')
      obtain ⟨v, hv, hvw⟩ := foldSquares_below (Nat.le_refl _) hle w hw
      exact ⟨v, (foldSquares_two_mul (by omega)).2 ⟨square, hsquare, hv⟩, hvw⟩
  | h_odd n ih =>
    intro w hw
    rw [show 2 * n + 1 + 1 = 2 * (n + 1) by omega] at hw
    obtain ⟨square, hsquare, hw⟩ := (foldSquares_two_mul (by omega)).1 hw
    obtain ⟨square', hsquare'⟩ := square_of_foldSquares (by omega) hw
    obtain ⟨next, hnext, -⟩ :=
      times_below (hproduct square hsquare) (Nat.le_refl _) square' hsquare'
    -- one more one keeps the invariant: `product * square ≤ square * square`
    have hnextle : ∀ square', times ray square square = .ok square' →
        next.toNat ≤ square'.toNat := by
      intro square' hsquare'
      obtain ⟨next', hnext', hle⟩ :=
        times_below (hproduct square hsquare) (Nat.le_refl _) square' hsquare'
      rw [hnext, Except.ok.injEq] at hnext'
      exact hnext' ▸ hle
    obtain ⟨v, hv, hvw⟩ := ih hnextle hproduct' w hw
    exact ⟨v, foldSquares_two_mul_add_one.2 ⟨square, hsquare, next, hnext, hv⟩, hvw⟩

/-! ## The order of powers -/

theorem powerWide_two_mul {n : Nat} (hbase : base.toNat ≠ 0) :
    powerWide ray base (2 * n) = foldSquares ray base ray n := by
  have heven : 2 * n % 2 = 0 := by omega
  have hhalf : 2 * n / 2 = n := by omega
  rw [powerWide, if_neg hbase, if_pos heven, hhalf]

theorem powerWide_two_mul_add_one {n : Nat} (hbase : base.toNat ≠ 0) :
    powerWide ray base (2 * n + 1) = foldSquares ray base base n := by
  have hodd : ¬ (2 * n + 1) % 2 = 0 := by omega
  have hhalf : (2 * n + 1) / 2 = n := by omega
  rw [powerWide, if_neg hbase, if_neg hodd, hhalf]

theorem powerWide_zero : powerWide ray base 0 = .ok ray := by
  rw [powerWide]
  split <;> simp

theorem powerWide_below_succ (hray : ray.toNat ≠ 0) (hbase : ray.toNat ≤ base.toNat)
    (n : Nat) : Below (powerWide ray base n) (powerWide ray base (n + 1)) := by
  have hne : base.toNat ≠ 0 := by omega
  rcases Nat.even_or_odd' n with ⟨m, rfl | rfl⟩
  · rw [powerWide_two_mul hne, powerWide_two_mul_add_one hne]
    exact foldSquares_below (Nat.le_refl _) hbase
  · rw [show 2 * m + 1 + 1 = 2 * (m + 1) by omega, powerWide_two_mul hne,
      powerWide_two_mul_add_one hne]
    exact foldSquares_below_succ (fun square h => le_of_times_eq_ok h hbase) (Nat.le_refl _)

theorem powerWide_below (hray : ray.toNat ≠ 0) (hbase : ray.toNat ≤ base.toNat)
    {m n : Nat} (h : m ≤ n) : Below (powerWide ray base m) (powerWide ray base n) := by
  induction h with
  | refl => exact Below.refl _
  | step _ ih => exact ih.trans (powerWide_below_succ hray hbase _)

/-- A larger base has the larger power. A base of zero stands apart, as it takes
no square at all. -/
theorem powerWide_below_of_base_le {base' : Wide} (hbase : base.toNat ≤ base'.toNat)
    (n : Nat) : Below (powerWide ray base n) (powerWide ray base' n) := by
  rcases Nat.eq_zero_or_pos n with rfl | hn
  · rw [powerWide_zero, powerWide_zero]
    exact Below.refl _
  by_cases hzero : base.toNat = 0
  · intro w _
    refine ⟨base, ?_, by omega⟩
    rw [powerWide, if_pos hzero, if_neg (Nat.ne_of_gt hn)]
  · have hzero' : base'.toNat ≠ 0 := by omega
    rcases Nat.even_or_odd' n with ⟨m, rfl | rfl⟩
    · rw [powerWide_two_mul hzero, powerWide_two_mul hzero']
      exact foldSquares_below hbase (Nat.le_refl _)
    · rw [powerWide_two_mul_add_one hzero, powerWide_two_mul_add_one hzero']
      exact foldSquares_below hbase hbase

/-! ## Powers as answers -/

theorem value_power_eq_some_iff {ray base n v : Nat} :
    (power ray base n).value = some v ↔ ∃ (hray : ray ≤ wideMax) (hbase : base ≤ wideMax),
      ∃ w, powerWide ⟨ray, hray⟩ ⟨base, hbase⟩ n = .ok w ∧ w.toNat = v := by
  unfold power
  split
  · rename_i h
    rw [Logged.value_ofFormula_eq_some_iff]
    simp only [bind_eq_ok_iff, pure_eq_ok_iff, Option.some.injEq, h.1, h.2, exists_true_left]
  · rename_i h
    simp only [Logged.value_pure, reduceCtorEq, false_iff, not_exists]
    exact fun hray hbase => absurd ⟨hray, hbase⟩ h

theorem value_power_zero {ray base : Nat} (hray : ray ≤ wideMax) (hbase : base ≤ wideMax) :
    (power ray base 0).value = some ray :=
  value_power_eq_some_iff.2 ⟨hray, hbase, _, powerWide_zero, rfl⟩

/-- The power of integers is the power of the natural numbers that they are. -/
theorem powerOfInts_eq_ok {ray base : Nat} {n : Int} (hray : 0 < ray) (hn : 0 ≤ n) :
    powerOfInts ray base n = .ok (power ray base n.toNat) := by
  have hoperands : ¬ ((base : Int) < 0 ∨ n < 0) := by omega
  have hunit : ¬ (ray : Int) ≤ 0 := by omega
  rw [powerOfInts, if_neg hoperands, if_neg hunit, Int.toNat_natCast, Int.toNat_natCast]

/-- Compounded growth does not fall with time, and it is too wide only later. -/
theorem power_le_power {ray base m n w : Nat} (hray : 0 < ray) (hbase : ray ≤ base)
    (h : m ≤ n) (hw : (power ray base n).value = some w) :
    ∃ v, (power ray base m).value = some v ∧ v ≤ w := by
  obtain ⟨hrayle, hbasele, w', hw', rfl⟩ := value_power_eq_some_iff.1 hw
  have hne : (⟨ray, hrayle⟩ : Wide).toNat ≠ 0 := Nat.ne_of_gt hray
  obtain ⟨v, hv, hvw⟩ := powerWide_below hne hbase h w' hw'
  exact ⟨v.toNat, value_power_eq_some_iff.2 ⟨hrayle, hbasele, v, hv, rfl⟩, hvw⟩

/-- A smaller factor compounds to no more, and it is too wide only where the
larger one is. -/
theorem power_le_power_of_base_le {ray base base' n w : Nat} (hbase : base ≤ base')
    (hw : (power ray base' n).value = some w) :
    ∃ v, (power ray base n).value = some v ∧ v ≤ w := by
  obtain ⟨hrayle, hbasele', w', hw', rfl⟩ := value_power_eq_some_iff.1 hw
  have hbasele : base ≤ wideMax := hbase.trans hbasele'
  have hwide : (⟨base, hbasele⟩ : Wide).toNat ≤ (⟨base', hbasele'⟩ : Wide).toNat := hbase
  obtain ⟨v, hv, hvw⟩ := powerWide_below_of_base_le hwide n w' hw'
  exact ⟨v.toNat, value_power_eq_some_iff.2 ⟨hrayle, hbasele, v, hv, rfl⟩, hvw⟩

/-! ## Powers of one

Every square and every product is one ray again, without a remainder to round. So no
exponent makes a power of one too wide. -/

/-- One times one is one. -/
theorem times_ray (hray : ray.toNat ≠ 0)
    (hwide : ray.toNat * ray.toNat + ray.toNat / 2 ≤ wideMax) :
    times ray ray ray = .ok ray := by
  have hpos := Nat.pos_of_ne_zero hray
  have hhalf : ray.toNat / 2 / ray.toNat = 0 :=
    Nat.div_eq_of_lt (Nat.div_lt_self hpos (by decide))
  refine times_eq_ok_iff.2 ⟨hray, hwide, ?_⟩
  rw [Nat.mul_add_div hpos, hhalf, Nat.add_zero]

/-- Ones are squared and multiplied in for as many digits as there are. -/
theorem foldSquares_ray (hone : times ray ray ray = .ok ray) (n : Nat) :
    foldSquares ray ray ray n = .ok ray := by
  induction n using Nat.evenOddRec with
  | h0 => exact foldSquares_zero ray
  | h_even n ih =>
    by_cases hn : n = 0
    · subst hn
      exact foldSquares_zero ray
    · exact (foldSquares_two_mul hn).2 ⟨ray, hone, ih⟩
  | h_odd n ih => exact foldSquares_two_mul_add_one.2 ⟨ray, hone, ray, hone, ih⟩

theorem powerWide_ray (hray : ray.toNat ≠ 0) (hone : times ray ray ray = .ok ray) (n : Nat) :
    powerWide ray ray n = .ok ray := by
  rcases Nat.even_or_odd' n with ⟨m, rfl | rfl⟩
  · rw [powerWide_two_mul hray]
    exact foldSquares_ray hone m
  · rw [powerWide_two_mul_add_one hray]
    exact foldSquares_ray hone m

theorem value_power_ray {ray : Nat} (hray : 0 < ray) (hwide : ray * ray + ray / 2 ≤ wideMax)
    (n : Nat) : (power ray ray n).value = some ray := by
  have hle : ray ≤ wideMax :=
    (Nat.le_mul_of_pos_left ray hray).trans ((Nat.le_add_right _ _).trans hwide)
  have hne : (⟨ray, hle⟩ : Wide).toNat ≠ 0 := Nat.ne_of_gt hray
  exact value_power_eq_some_iff.2 ⟨hle, hle, _, powerWide_ray hne (times_ray hne hwide) n, rfl⟩

/-- There is room for the square of a narrow number, and for half of it besides. -/
theorem square_add_half_le_wideMax {ray : Nat} (h : ray ≤ narrowMax) :
    ray * ray + ray / 2 ≤ wideMax := by
  have hsquare : narrowMax * narrowMax + narrowMax / 2 ≤ wideMax := by decide
  exact (Nat.add_le_add (Nat.mul_le_mul h h) (Nat.div_le_div_right h)).trans hsquare

end PegPool.Ray
