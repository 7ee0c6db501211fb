import Mathlib.Tactic.Linarith
import Mathlib.Tactic.Ring
import PegPool.Proofs.Ray.Power

/-!
# The accuracy of powers

How far a power is from the exact one depends only on how many of its products
were rounded, not on their order. So the squaring is forgotten first: a power
is some tree of rounded products with one leaf a factor. On such a tree each
product is off by half a ray at most, which for growth is a factor between
`1 - 1 / (2 * ray)` and `1 + 1 / (2 * ray)`.
-/

namespace PegPool.Ray

/-! ## Trees of rounded products -/

/-- `z` comes from `n` factors `base` by products that are rounded to the
nearest ray, taken in some order. -/
inductive Rounded (ray base : Nat) : Nat → Nat → Prop where
  | one : Rounded ray base 0 ray
  | factor : Rounded ray base 1 base
  | times {m n u v : Nat} (left : Rounded ray base m u) (right : Rounded ray base n v) :
    Rounded ray base (m + n) ((u * v + ray / 2) / ray)

theorem Rounded.of_times {ray base : Nat} {unit u v w : Wide} {m n : Nat}
    (hunit : unit.toNat = ray) (hu : Rounded ray base m u.toNat)
    (hv : Rounded ray base n v.toNat) (h : Ray.times unit u v = .ok w) :
    Rounded ray base (m + n) w.toNat := by
  obtain ⟨-, -, hw⟩ := times_eq_ok_iff.1 h
  rw [hw, hunit]
  exact hu.times hv

/-- Folding `n` into a product adds two factors for each unit of `n`, as every
square doubles the factors of the base. -/
theorem Rounded.foldSquares {ray x : Nat} {unit base product w : Wide} {d e n : Nat}
    (hunit : unit.toNat = ray) (hbase : Rounded ray x d base.toNat)
    (hproduct : Rounded ray x e product.toNat)
    (h : Ray.foldSquares unit base product n = .ok w) :
    Rounded ray x (e + 2 * d * n) w.toNat := by
  induction n using Nat.evenOddRec generalizing base product d e with
  | h0 =>
    rw [foldSquares_zero, Except.ok.injEq] at h
    exact h ▸ hproduct
  | h_even n ih =>
    -- zero is even too, and there nothing is squared any more
    rcases Nat.eq_zero_or_pos n with rfl | hn
    · exact ih hbase hproduct h
    · obtain ⟨square, hsquare, h⟩ := (foldSquares_two_mul (by omega)).1 h
      rw [show e + 2 * d * (2 * n) = e + 2 * (d + d) * n by ring]
      exact ih (.of_times hunit hbase hbase hsquare) hproduct h
  | h_odd n ih =>
    obtain ⟨square, hsquare, next, hnext, h⟩ := foldSquares_two_mul_add_one.1 h
    have hsquared := Rounded.of_times hunit hbase hbase hsquare
    rw [show e + 2 * d * (2 * n + 1) = e + (d + d) + 2 * (d + d) * n by ring]
    exact ih hsquared (.of_times hunit hproduct hsquared hnext) h

theorem rounded_of_power {ray base n v : Nat} (hbase : base ≠ 0)
    (h : (power ray base n).value = some v) : Rounded ray base n v := by
  obtain ⟨hrayle, hbasele, w, hw, rfl⟩ := value_power_eq_some_iff.1 h
  rcases Nat.even_or_odd' n with ⟨m, rfl | rfl⟩
  · rw [powerWide_two_mul hbase] at hw
    have hrounded := Rounded.foldSquares rfl .factor .one hw
    rwa [show 0 + 2 * 1 * m = 2 * m by omega] at hrounded
  · rw [powerWide_two_mul_add_one hbase] at hw
    have hrounded := Rounded.foldSquares rfl .factor .factor hw
    rwa [show 1 + 2 * 1 * m = 2 * m + 1 by omega] at hrounded

/-! ## One rounded product -/

theorem two_mul_nearest_le (ray p : Nat) :
    2 * ((p + ray / 2) / ray * ray) ≤ 2 * p + ray := by
  have hle := Nat.div_mul_le_self (p + ray / 2) ray
  omega

theorem two_mul_lt_nearest {ray : Nat} (hray : 0 < ray) (p : Nat) :
    2 * p < 2 * ((p + ray / 2) / ray * ray) + ray := by
  have hlt := Nat.lt_div_mul_add hray (a := p + ray / 2)
  omega

/-- Above one, half a ray more is at most the factor `1 + 1 / (2 * ray)`. -/
theorem nearest_mul_le {ray p : Nat} (hp : ray ^ 2 ≤ p) :
    (p + ray / 2) / ray * (2 * ray ^ 2) ≤ p * (2 * ray + 1) := by
  have hle := Nat.mul_le_mul_right ray (two_mul_nearest_le ray p)
  calc (p + ray / 2) / ray * (2 * ray ^ 2)
      = 2 * ((p + ray / 2) / ray * ray) * ray := by ring
    _ ≤ (2 * p + ray) * ray := hle
    _ = p * (2 * ray) + ray ^ 2 := by ring
    _ ≤ p * (2 * ray) + p := Nat.add_le_add_left hp _
    _ = p * (2 * ray + 1) := by ring

/-- Above one, half a ray less is at least the factor `1 - 1 / (2 * ray)`. -/
theorem mul_le_nearest_mul {ray p : Nat} (hray : 0 < ray) (hp : ray ^ 2 ≤ p) :
    p * (2 * ray - 1) ≤ (p + ray / 2) / ray * (2 * ray ^ 2) := by
  have hlt := Nat.mul_le_mul_right ray (two_mul_lt_nearest hray p).le
  have hsplit : p * (2 * ray - 1) + p = p * (2 * ray) := by
    rw [← Nat.mul_succ, Nat.succ_eq_add_one, Nat.sub_add_cancel (by omega)]
  -- with `p` on both sides there is no difference left to truncate
  apply Nat.le_of_add_le_add_right (b := p)
  calc p * (2 * ray - 1) + p
      = 2 * p * ray := by rw [hsplit]; ring
    _ ≤ (2 * ((p + ray / 2) / ray * ray) + ray) * ray := hlt
    _ = (p + ray / 2) / ray * (2 * ray ^ 2) + ray ^ 2 := by ring
    _ ≤ (p + ray / 2) / ray * (2 * ray ^ 2) + p := Nat.add_le_add_left hp _

theorem one_nearest {ray : Nat} (hray : 0 < ray) (p : Nat) :
    (ray * p + ray / 2) / ray = p := by
  rw [Nat.mul_add_div hray, Nat.div_eq_of_lt (Nat.div_lt_self hray (by omega)), Nat.add_zero]

/-! ## Accumulated error -/

/-- `z` is `k + 1` factors `base`, up to the error of `k` rounded products. -/
structure Near (ray base k z : Nat) : Prop where
  lower : base ^ (k + 1) * (2 * ray - 1) ^ k ≤ z * (2 * ray ^ 2) ^ k
  upper : z * (2 * ray ^ 2) ^ k ≤ base ^ (k + 1) * (2 * ray + 1) ^ k

theorem Near.factor (ray base : Nat) : Near ray base 0 base := by
  constructor <;> simp

/-- A product adds the errors of its factors and one of its own. -/
theorem Near.times {ray base j k u v : Nat} (hray : 0 < ray) (huv : ray ^ 2 ≤ u * v)
    (hu : Near ray base j u) (hv : Near ray base k v) :
    Near ray base (j + k + 1) ((u * v + ray / 2) / ray) where
  lower := by
    have hlower := Nat.mul_le_mul hu.lower hv.lower
    calc base ^ (j + k + 1 + 1) * (2 * ray - 1) ^ (j + k + 1)
        = base ^ (j + 1) * (2 * ray - 1) ^ j * (base ^ (k + 1) * (2 * ray - 1) ^ k)
          * (2 * ray - 1) := by ring
      _ ≤ u * (2 * ray ^ 2) ^ j * (v * (2 * ray ^ 2) ^ k) * (2 * ray - 1) :=
          Nat.mul_le_mul_right _ hlower
      _ = u * v * (2 * ray - 1) * (2 * ray ^ 2) ^ (j + k) := by ring
      _ ≤ (u * v + ray / 2) / ray * (2 * ray ^ 2) * (2 * ray ^ 2) ^ (j + k) :=
          Nat.mul_le_mul_right _ (mul_le_nearest_mul hray huv)
      _ = (u * v + ray / 2) / ray * (2 * ray ^ 2) ^ (j + k + 1) := by ring
  upper := by
    have hupper := Nat.mul_le_mul hu.upper hv.upper
    calc (u * v + ray / 2) / ray * (2 * ray ^ 2) ^ (j + k + 1)
        = (u * v + ray / 2) / ray * (2 * ray ^ 2) * (2 * ray ^ 2) ^ (j + k) := by ring
      _ ≤ u * v * (2 * ray + 1) * (2 * ray ^ 2) ^ (j + k) :=
          Nat.mul_le_mul_right _ (nearest_mul_le huv)
      _ = u * (2 * ray ^ 2) ^ j * (v * (2 * ray ^ 2) ^ k) * (2 * ray + 1) := by ring
      _ ≤ base ^ (j + 1) * (2 * ray + 1) ^ j * (base ^ (k + 1) * (2 * ray + 1) ^ k)
          * (2 * ray + 1) := Nat.mul_le_mul_right _ hupper
      _ = base ^ (j + k + 1 + 1) * (2 * ray + 1) ^ (j + k + 1) := by ring

section Growth

variable {ray base : Nat} (hray : 0 < ray) (hbase : ray ≤ base)

include hray hbase

/-- Trees of growth do not fall below one. -/
theorem Rounded.ray_le {n z : Nat} (h : Rounded ray base n z) : ray ≤ z := by
  induction h with
  | one => exact Nat.le_refl _
  | factor => exact hbase
  | times _ _ hu hv =>
    rw [Nat.le_div_iff_mul_le hray]
    exact (Nat.mul_le_mul hu hv).trans (Nat.le_add_right _ _)

/-- A tree without factors is exactly one, so a product with it is exact. -/
theorem Rounded.eq_ray_or_near {n z : Nat} (h : Rounded ray base n z) :
    (n = 0 ∧ z = ray) ∨ ∃ k, n = k + 1 ∧ Near ray base k z := by
  induction h with
  | one => exact .inl ⟨rfl, rfl⟩
  | factor => exact .inr ⟨0, rfl, .factor ray base⟩
  | @times m n u v left right hu hv =>
    -- a side without factors adds no error, so the other side's bound is kept as it is
    rcases hu with ⟨rfl, rfl⟩ | ⟨j, rfl, hu⟩
    · rw [one_nearest hray, Nat.zero_add]
      exact hv
    · rcases hv with ⟨rfl, rfl⟩ | ⟨k, rfl, hv⟩
      · rw [Nat.mul_comm, one_nearest hray]
        exact .inr ⟨j, rfl, hu⟩
      · have huv : ray ^ 2 ≤ u * v := by
          rw [Nat.pow_two]
          exact Nat.mul_le_mul (left.ray_le hray hbase) (right.ray_le hray hbase)
        exact .inr ⟨j + k + 1, by omega, hu.times hray huv hv⟩

/-- The first factor of a power is exact, every further one adds one rounded product. -/
theorem near_of_power {k v : Nat} (h : (power ray base (k + 1)).value = some v) :
    Near ray base k v := by
  rcases (rounded_of_power (by omega) h).eq_ray_or_near hray hbase with
    ⟨hzero, -⟩ | ⟨j, hj, hnear⟩
  · omega
  · obtain rfl : k = j := by omega
    exact hnear

/-- A power is at most the exact one with a factor `1 + 1 / (2 * ray)` each second. -/
theorem power_mul_le {n v : Nat} (h : (power ray base n).value = some v) :
    v * (2 * ray ^ 2) ^ n ≤ ray * (base * (2 * ray + 1)) ^ n := by
  rcases (rounded_of_power (by omega) h).eq_ray_or_near hray hbase with
    ⟨rfl, rfl⟩ | ⟨k, rfl, hnear⟩
  · simp
  · calc v * (2 * ray ^ 2) ^ (k + 1)
        = v * (2 * ray ^ 2) ^ k * (2 * ray ^ 2) := by ring
      _ ≤ base ^ (k + 1) * (2 * ray + 1) ^ k * (2 * ray ^ 2) :=
          Nat.mul_le_mul_right _ hnear.upper
      _ = ray * (base ^ (k + 1) * (2 * ray + 1) ^ k * (2 * ray)) := by ring
      -- only `k` of the `k + 1` errors happen: the first factor is exact
      _ ≤ ray * (base ^ (k + 1) * (2 * ray + 1) ^ k * (2 * ray + 1)) :=
          Nat.mul_le_mul_left _ (Nat.mul_le_mul_left _ (Nat.le_succ _))
      _ = ray * (base * (2 * ray + 1)) ^ (k + 1) := by rw [Nat.mul_pow]; ring

/-- A power is at least the exact one with a factor `1 - 1 / (2 * ray)` each second. -/
theorem le_power_mul {n v : Nat} (h : (power ray base n).value = some v) :
    ray * (base * (2 * ray - 1)) ^ n ≤ v * (2 * ray ^ 2) ^ n := by
  rcases (rounded_of_power (by omega) h).eq_ray_or_near hray hbase with
    ⟨rfl, rfl⟩ | ⟨k, rfl, hnear⟩
  · simp
  · calc ray * (base * (2 * ray - 1)) ^ (k + 1)
        = ray * (base ^ (k + 1) * (2 * ray - 1) ^ k * (2 * ray - 1)) := by
          rw [Nat.mul_pow]; ring
      -- the exact first factor is counted as if it were rounded, too
      _ ≤ ray * (base ^ (k + 1) * (2 * ray - 1) ^ k * (2 * ray)) :=
          Nat.mul_le_mul_left _ (Nat.mul_le_mul_left _ (Nat.sub_le _ _))
      _ = base ^ (k + 1) * (2 * ray - 1) ^ k * (2 * ray ^ 2) := by ring
      _ ≤ v * (2 * ray ^ 2) ^ k * (2 * ray ^ 2) := Nat.mul_le_mul_right _ hnear.lower
      _ = v * (2 * ray ^ 2) ^ (k + 1) := by ring

/-! ## A span in two parts -/

section Split

variable {m n u v w : Nat} (hu : (power ray base m).value = some u)
  (hv : (power ray base n).value = some v) (hw : (power ray base (m + n)).value = some w)

include hu hv hw

/-- Two spans that are compounded apart exceed the whole by rounding only. -/
theorem power_mul_power_le :
    u * v * (2 * ray - 1) ^ (m + n) ≤ w * ray * (2 * ray + 1) ^ (m + n) := by
  -- counted in `2 * ray ^ 2` each second, every power lies next to the exact one
  have hu := power_mul_le hray hbase hu
  have hv := power_mul_le hray hbase hv
  have hw := le_power_mul hray hbase hw
  have hunit : 0 < (2 * ray ^ 2) ^ (m + n) := by positivity
  generalize 2 * ray - 1 = slow at *
  generalize 2 * ray + 1 = fast at *
  generalize 2 * ray ^ 2 = unit at *
  apply Nat.le_of_mul_le_mul_right _ hunit
  calc u * v * slow ^ (m + n) * unit ^ (m + n)
      = u * unit ^ m * (v * unit ^ n) * slow ^ (m + n) := by ring
    _ ≤ ray * (base * fast) ^ m * (ray * (base * fast) ^ n) * slow ^ (m + n) :=
        Nat.mul_le_mul_right _ (Nat.mul_le_mul hu hv)
    _ = ray * (base * slow) ^ (m + n) * (ray * fast ^ (m + n)) := by
        rw [Nat.mul_pow, Nat.mul_pow, Nat.mul_pow]; ring
    _ ≤ w * unit ^ (m + n) * (ray * fast ^ (m + n)) := Nat.mul_le_mul_right _ hw
    _ = w * ray * fast ^ (m + n) * unit ^ (m + n) := by ring

/-- Two spans that are compounded apart fall short of the whole by rounding only. -/
theorem power_le_power_mul_power :
    w * ray * (2 * ray - 1) ^ (m + n) ≤ u * v * (2 * ray + 1) ^ (m + n) := by
  have hu := le_power_mul hray hbase hu
  have hv := le_power_mul hray hbase hv
  have hw := power_mul_le hray hbase hw
  have hunit : 0 < (2 * ray ^ 2) ^ (m + n) := by positivity
  generalize 2 * ray - 1 = slow at *
  generalize 2 * ray + 1 = fast at *
  generalize 2 * ray ^ 2 = unit at *
  apply Nat.le_of_mul_le_mul_right _ hunit
  calc w * ray * slow ^ (m + n) * unit ^ (m + n)
      = w * unit ^ (m + n) * (ray * slow ^ (m + n)) := by ring
    _ ≤ ray * (base * fast) ^ (m + n) * (ray * slow ^ (m + n)) := Nat.mul_le_mul_right _ hw
    _ = ray * (base * slow) ^ m * (ray * (base * slow) ^ n) * fast ^ (m + n) := by
        rw [Nat.mul_pow, Nat.mul_pow, Nat.mul_pow]; ring
    _ ≤ u * unit ^ m * (v * unit ^ n) * fast ^ (m + n) :=
        Nat.mul_le_mul_right _ (Nat.mul_le_mul hu hv)
    _ = u * v * fast ^ (m + n) * unit ^ (m + n) := by ring

end Split

end Growth

/-! ## Accurate powers -/

/-- A power of growth is always defined, and where no product is too wide it is the
exact power up to `n - 1` factors between `1 - 1 / (2 * ray)` and `1 + 1 / (2 * ray)`. -/
theorem power_accurate {ray base n : Nat} (hray : 0 < ray) (hbase : ray ≤ base)
    (hn : 0 < n) : ∃ answer, powerOfInts ray base n = .ok answer ∧
    ∀ v, answer.value = some v →
      base ^ n * (2 * ray - 1) ^ (n - 1) ≤ v * (2 * ray ^ 2) ^ (n - 1) ∧
      v * (2 * ray ^ 2) ^ (n - 1) ≤ base ^ n * (2 * ray + 1) ^ (n - 1) := by
  refine ⟨_, powerOfInts_eq_ok hray (Int.natCast_nonneg n), fun v h => ?_⟩
  obtain ⟨k, rfl⟩ := Nat.exists_eq_succ_of_ne_zero (Nat.ne_of_gt hn)
  have hnear := near_of_power hray hbase h
  exact ⟨hnear.lower, hnear.upper⟩

/-- In units of 7 the square of 12 is rounded up to 21, and the later products carry that
on: the sixth power is 189, where the exact one lies between 177 and 178. -/
theorem power_accurate_twelve_sevenths :
    0 < 7 ∧ 7 ≤ 12 ∧ 0 < 6 ∧ powerOfInts 7 12 6 = .ok (power 7 12 6) ∧
    (power 7 12 6).value = some 189 ∧
    12 ^ 6 * 13 ^ 5 ≤ 189 * 98 ^ 5 ∧ 189 * 98 ^ 5 ≤ 12 ^ 6 * 15 ^ 5 := by
  have hdefined : powerOfInts 7 12 6 = .ok (power 7 12 6) := rfl
  have hvalue : (power 7 12 6).value = some 189 := by decide +kernel
  obtain ⟨answer, hanswer, hnear⟩ :=
    @power_accurate 7 12 6 (by decide) (by decide) (by decide)
  obtain rfl : power 7 12 6 = answer := Except.ok.inj (hdefined.symm.trans hanswer)
  obtain ⟨hlower, hupper⟩ := hnear 189 hvalue
  exact ⟨by decide, by decide, by decide, hdefined, hvalue, hlower, hupper⟩

end PegPool.Ray
