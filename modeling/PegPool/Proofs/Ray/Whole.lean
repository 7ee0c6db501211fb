import PegPool.Proofs.Ray.Accuracy

/-!
# Powers of whole numbers

Where the base is a whole number of rays, so is every product on the way, and rounding
has nothing to do. What remains is the question of room: each product is formed in full,
with half a ray on top, before it is divided by the unit. The last product of a power
folds its highest digit and is the largest of all, so it alone decides whether there is
a result.
-/

namespace PegPool.Ray

variable {ray : Wide}

/-! ## Products of whole numbers -/

/-- A wide amount is `m` whole rays. -/
def Whole (ray : Wide) (m : Nat) (u : Wide) : Prop := u.toNat = m * ray.toNat

/-- There is room to form the product that comes to `m` whole rays. -/
def Fits (ray : Wide) (m : Nat) : Prop := m * ray.toNat ^ 2 + ray.toNat / 2 ≤ wideMax

theorem Fits.of_le {m n : Nat} (h : Fits ray n) (hmn : m ≤ n) : Fits ray m :=
  (Nat.add_le_add_right (Nat.mul_le_mul_right _ hmn) _).trans h

/-- What the product comes to is no wider than the product itself. -/
theorem Fits.exists_whole {m : Nat} (h : Fits ray m) : ∃ w, Whole ray m w := by
  have hle : m * ray.toNat ≤ m * ray.toNat ^ 2 :=
    Nat.mul_le_mul_left _ (Nat.le_self_pow two_ne_zero _)
  exact ⟨⟨_, hle.trans ((Nat.le_add_right _ _).trans h)⟩, rfl⟩

namespace Whole

variable (hray : ray.toNat ≠ 0) {a b n : Nat}

include hray

/-- A product of whole numbers is exact, as far as there is room for it. -/
theorem times_eq_ok_iff {u v w : Wide} (hu : Whole ray a u) (hv : Whole ray b v) :
    times ray u v = .ok w ↔ Fits ray (a * b) ∧ Whole ray (a * b) w := by
  have hproduct : u.toNat * v.toNat = a * b * ray.toNat ^ 2 := by
    rw [hu, hv]
    ring
  have hexact : (a * b * ray.toNat ^ 2 + ray.toNat / 2) / ray.toNat = a * b * ray.toNat := by
    rw [Nat.pow_two, ← Nat.mul_assoc, Nat.mul_comm _ ray.toNat]
    exact one_nearest (Nat.pos_of_ne_zero hray) _
  rw [Ray.times_eq_ok_iff, hproduct, hexact]
  simp [Fits, Whole, hray]

theorem exists_times {u v : Wide} (hu : Whole ray a u) (hv : Whole ray b v)
    (h : Fits ray (a * b)) : ∃ w, times ray u v = .ok w ∧ Whole ray (a * b) w := by
  obtain ⟨w, hw⟩ := h.exists_whole
  exact ⟨w, (hu.times_eq_ok_iff hray hv).2 ⟨h, hw⟩, hw⟩

/-! ## The fold, digit by digit -/

/-- Each digit squares the base, and the highest one folds the largest product of all.
So no square and no fold before it is too wide if that product is not. Where there is no
digit left, the last product has been formed already. -/
theorem foldSquares_eq_ok_iff {base product w : Wide} (ha : 1 ≤ a) (hb : 1 ≤ b)
    (hroom : n ≠ 0 ∨ Fits ray b) (hbase : Whole ray a base) (hproduct : Whole ray b product) :
    foldSquares ray base product n = .ok w ↔
      Fits ray (b * a ^ (2 * n)) ∧ Whole ray (b * a ^ (2 * n)) w := by
  induction n using Nat.evenOddRec generalizing a b base product with
  | h0 =>
    have hfits : Fits ray b := hroom.resolve_left fun hn => hn rfl
    rw [foldSquares_zero, Except.ok.injEq, Nat.mul_zero, Nat.pow_zero, Nat.mul_one]
    constructor
    · rintro rfl
      exact ⟨hfits, hproduct⟩
    · rintro ⟨-, hw⟩
      exact Wide.ext (hproduct.trans hw.symm)
  | h_even n ih =>
    by_cases hn : n = 0
    · subst hn
      exact ih ha hb hroom hbase hproduct
    have haa : 1 ≤ a * a := Nat.mul_pos ha ha
    have hle : a * a ≤ b * (a * a) ^ (2 * n) :=
      (Nat.le_self_pow (by omega) _).trans (Nat.le_mul_of_pos_left _ hb)
    rw [foldSquares_two_mul hn, Nat.pow_mul a 2, Nat.pow_two]
    constructor
    · rintro ⟨square, hsquare, h⟩
      obtain ⟨-, hsquared⟩ := (hbase.times_eq_ok_iff hray hbase).1 hsquare
      exact (ih haa hb (.inl hn) hsquared hproduct).1 h
    · rintro ⟨hfits, hw⟩
      obtain ⟨square, hsquare, hsquared⟩ := hbase.exists_times hray hbase (hfits.of_le hle)
      exact ⟨square, hsquare, (ih haa hb (.inl hn) hsquared hproduct).2 ⟨hfits, hw⟩⟩
  | h_odd n ih =>
    have haa : 1 ≤ a * a := Nat.mul_pos ha ha
    have hbaa : 1 ≤ b * (a * a) := Nat.mul_pos hb haa
    have hle : b * (a * a) ≤ b * (a * a) * (a * a) ^ (2 * n) :=
      Nat.le_mul_of_pos_right _ (Nat.pow_pos haa)
    rw [foldSquares_two_mul_add_one, Nat.pow_mul a 2, Nat.pow_two, Nat.pow_succ', ← Nat.mul_assoc]
    constructor
    · rintro ⟨square, hsquare, next, hnext, h⟩
      obtain ⟨-, hsquared⟩ := (hbase.times_eq_ok_iff hray hbase).1 hsquare
      obtain ⟨hfits, hfolded⟩ := (hproduct.times_eq_ok_iff hray hsquared).1 hnext
      exact (ih haa hbaa (.inr hfits) hsquared hfolded).1 h
    · rintro ⟨hfits, hw⟩
      have hroom := hfits.of_le hle
      obtain ⟨square, hsquare, hsquared⟩ :=
        hbase.exists_times hray hbase (hroom.of_le (Nat.le_mul_of_pos_left _ hb))
      obtain ⟨next, hnext, hfolded⟩ := hproduct.exists_times hray hsquared hroom
      exact ⟨square, hsquare, next, hnext,
        (ih haa hbaa (.inr hroom) hsquared hfolded).2 ⟨hfits, hw⟩⟩

/-- From the square on there is a product to form, and the largest one is the power. -/
theorem powerWide_eq_ok_iff {base w : Wide} (ha : 1 ≤ a) (hn : 2 ≤ n)
    (hbase : Whole ray a base) :
    powerWide ray base n = .ok w ↔ Fits ray (a ^ n) ∧ Whole ray (a ^ n) w := by
  have hone : Whole ray 1 ray := (Nat.one_mul _).symm
  have hne : base.toNat ≠ 0 := by
    rw [hbase]
    exact Nat.mul_ne_zero (Nat.ne_of_gt ha) hray
  rcases Nat.even_or_odd' n with ⟨m, rfl | rfl⟩
  · rw [powerWide_two_mul hne, ← Nat.one_mul (a ^ (2 * m))]
    exact foldSquares_eq_ok_iff hray ha (Nat.le_refl 1) (.inl (by omega)) hbase hone
  · rw [powerWide_two_mul_add_one hne, Nat.pow_succ']
    exact foldSquares_eq_ok_iff hray ha ha (.inl (by omega)) hbase hbase

end Whole

/-! ## What is too wide -/

section Failures

variable {base product u v : Wide} {cause : WideError} (hray : ray.toNat ≠ 0)

include hray

/-- With a unit to divide by, a product can fail by its width only. -/
theorem failure_of_times (h : times ray u v = .error cause) : cause.failure = .overflow := by
  unfold times at h
  simp only [bind_eq_error_iff, Wide.mul_natCast_eq_error_iff, Wide.add_natCast_eq_error_iff,
    Wide.div_natCast_eq_error_iff] at h
  rcases h with ⟨-, rfl⟩ | ⟨_, -, ⟨-, rfl⟩ | ⟨_, -, hzero, -⟩⟩
  · rfl
  · rfl
  · exact absurd hzero hray

theorem failure_of_foldSquares {n : Nat} (h : foldSquares ray base product n = .error cause) :
    cause.failure = .overflow := by
  fun_induction foldSquares ray base product n with
  | case1 => cases h
  | case2 base product n hn ih =>
    obtain h | ⟨square, -, h⟩ := bind_eq_error_iff.1 h
    · exact failure_of_times hray h
    by_cases hdigit : n % 2 = 1
    · rw [if_pos hdigit] at h
      obtain h | ⟨next, -, h⟩ := bind_eq_error_iff.1 h
      · exact failure_of_times hray h
      · exact ih square next h
    · rw [if_neg hdigit] at h
      exact ih square product h

theorem failure_of_powerWide {n : Nat} (h : powerWide ray base n = .error cause) :
    cause.failure = .overflow := by
  unfold powerWide at h
  split at h
  · cases h
  · exact failure_of_foldSquares hray h

end Failures

/-! ## Powers as answers -/

/-- A power of whole numbers is exact where there is room for its last product, and
nothing is reported on the way, so no square and no fold before it was too wide. Where
there is no room the power is missing, and an overflow is reported. -/
theorem power_of_whole {ray k n : Nat} (hray : 1 ≤ ray) (hk : 1 ≤ k) (hn : 2 ≤ n)
    (hbase : k * ray < 2 ^ 256) :
    (k ^ n * ray ^ 2 + ray / 2 ≤ 2 ^ 256 - 1 →
      powerOfInts ray (k * ray : Nat) n = .ok (pure (some (k ^ n * ray)))) ∧
    (2 ^ 256 - 1 < k ^ n * ray ^ 2 + ray / 2 → ∃ cause,
      powerOfInts ray (k * ray : Nat) n = .ok ⟨none, [.formulaFailed .power cause]⟩ ∧
        cause.failure = .overflow) := by
  have hbasele : k * ray ≤ wideMax := Nat.le_of_lt_succ hbase
  have hrayle : ray ≤ wideMax := (Nat.le_mul_of_pos_left ray hk).trans hbasele
  have hne : (⟨ray, hrayle⟩ : Wide).toNat ≠ 0 := Nat.ne_of_gt hray
  have hwhole : Whole ⟨ray, hrayle⟩ k ⟨k * ray, hbasele⟩ := rfl
  rw [powerOfInts_eq_ok hray (Int.natCast_nonneg n), Int.toNat_natCast, power,
    dif_pos ⟨hrayle, hbasele⟩]
  cases hpower : powerWide ⟨ray, hrayle⟩ ⟨k * ray, hbasele⟩ n with
  | ok w =>
    obtain ⟨hfits, hw⟩ := (hwhole.powerWide_eq_ok_iff hne hk hn).1 hpower
    refine ⟨fun _ => ?_, fun hlt => absurd hfits (Nat.not_le.2 hlt)⟩
    show Except.ok (pure (some w.toNat)) = _
    rw [hw]
  | error cause =>
    refine ⟨fun hle => ?_, fun _ => ⟨cause, rfl, failure_of_powerWide hne hpower⟩⟩
    have hfits : Fits ⟨ray, hrayle⟩ (k ^ n) := hle
    obtain ⟨w, hw⟩ := hfits.exists_whole
    have hok := (hwhole.powerWide_eq_ok_iff hne hk hn).2 ⟨hfits, hw⟩
    rw [hpower] at hok
    cases hok

/-- Tenfold growth lasts for 23 seconds. One more is too wide. -/
theorem power_of_whole_tenfold :
    1 ≤ Ray.one ∧ 1 ≤ 10 ∧ 2 ≤ 23 ∧ 2 ≤ 24 ∧ 10 * Ray.one < 2 ^ 256 ∧
    10 ^ 23 * Ray.one ^ 2 + Ray.one / 2 ≤ 2 ^ 256 - 1 ∧
    powerOfInts Ray.one (10 * Ray.one : Nat) 23 = .ok (pure (some (10 ^ 23 * Ray.one))) ∧
    2 ^ 256 - 1 < 10 ^ 24 * Ray.one ^ 2 + Ray.one / 2 ∧
    ∃ cause, powerOfInts Ray.one (10 * Ray.one : Nat) 24
      = .ok ⟨none, [.formulaFailed .power cause]⟩ ∧ cause.failure = .overflow := by
  have hray : 1 ≤ Ray.one := by decide
  have hbase : 10 * Ray.one < 2 ^ 256 := by decide
  have hroom : 10 ^ 23 * Ray.one ^ 2 + Ray.one / 2 ≤ 2 ^ 256 - 1 := by decide
  have hnone : 2 ^ 256 - 1 < 10 ^ 24 * Ray.one ^ 2 + Ray.one / 2 := by decide
  exact ⟨hray, by decide, by decide, by decide, hbase, hroom,
    (power_of_whole hray (by decide) (by decide) hbase).1 hroom, hnone,
    (power_of_whole hray (by decide) (by decide) hbase).2 hnone⟩

end PegPool.Ray
