import PegPool.Proofs.Price

/-!
# Shares of the reserves

A share of a reserve is one rounded quotient. It is rounded down where it is
paid out and up where it is taken in, so either way no less of the reserve
stays behind each pool token.
-/

namespace PegPool

/-- A quotient, with its fraction dropped or filled up. -/
def Rounding.quotient (rounding : Rounding) (m n : Nat) : Nat :=
  match rounding with
  | .floor => m / n
  | .ceiling => m ⌈/⌉ n

theorem Rounding.divide_natCast_eq_ok_iff {rounding : Rounding} {u w : Wide} {n : Nat} :
    rounding.divide u n = .ok w ↔ n ≠ 0 ∧ w.toNat = rounding.quotient u.toNat n := by
  cases rounding
  · exact Wide.div_natCast_eq_ok_iff
  · exact Wide.ceilDiv_natCast_eq_ok_iff

variable {t s a b : Nat}

/-- Each token is shared out by itself, and the answer needs both shares. -/
theorem value_reserveShare_eq_some_iff {rounding : Rounding} {amounts : TokenAmounts} :
    (reserveShare t s a b rounding).value = some amounts ↔
      (t ≤ wideMax ∧ s ≤ wideMax ∧ a ≤ wideMax ∧ b ≤ wideMax ∧ t * a ≤ wideMax ∧
        t * b ≤ wideMax ∧ s ≠ 0) ∧
      amounts = ⟨rounding.quotient (t * a) s, rounding.quotient (t * b) s⟩ ∧
      rounding.quotient (t * a) s ≤ narrowMax ∧ rounding.quotient (t * b) s ≤ narrowMax := by
  unfold reserveShare reserveShareWide
  simp only [Logged.value_ofFormula_eq_some_iff, map_eq_ok_iff, bind_eq_ok_iff, pure_eq_ok_iff,
    Wide.ofInt_natCast_eq_ok_iff, Wide.mul_natCast_eq_ok_iff, Rounding.divide_natCast_eq_ok_iff,
    Wide.narrow_eq_ok_iff, Option.some.injEq]
  constructor
  · rintro ⟨_, ⟨t, rfl, s, rfl, a, rfl, productA, hproductA, b, rfl, productB, hproductB, tokenA,
      ⟨hs, htokenA⟩, tokenB, ⟨-, htokenB⟩, _, ⟨rfl, hnarrowA⟩, _, ⟨rfl, hnarrowB⟩, rfl⟩, rfl⟩
    rw [htokenA, hproductA] at hnarrowA
    rw [htokenB, hproductB] at hnarrowB
    rw [htokenA, htokenB, hproductA, hproductB]
    exact ⟨⟨t.toNat_le, s.toNat_le, a.toNat_le, b.toNat_le, hproductA ▸ productA.toNat_le,
      hproductB ▸ productB.toNat_le, hs⟩, rfl, hnarrowA, hnarrowB⟩
  · rintro ⟨⟨ht, hs, ha, hb, hproductA, hproductB, hne⟩, rfl, hnarrowA, hnarrowB⟩
    exact ⟨_, ⟨⟨t, ht⟩, rfl, ⟨s, hs⟩, rfl, ⟨a, ha⟩, rfl, ⟨t * a, hproductA⟩, rfl, ⟨b, hb⟩, rfl,
      ⟨t * b, hproductB⟩, rfl, ⟨_, hnarrowA.trans narrowMax_le_wideMax⟩, ⟨hne, rfl⟩,
      ⟨_, hnarrowB.trans narrowMax_le_wideMax⟩, ⟨hne, rfl⟩, _, ⟨rfl, hnarrowA⟩, _,
      ⟨rfl, hnarrowB⟩, rfl⟩, rfl⟩

/-! ## One reserve -/

/-- Some of the pool tokens never stand for more than the reserve. -/
theorem div_le_reserve (h : t ≤ s) : t * a / s ≤ a :=
  Nat.div_le_of_le_mul (Nat.mul_le_mul_right a h)

/-- What stays of a reserve that paid its share, per pool token that stays. -/
theorem reserve_mul_le_of_paid : a * (s - t) ≤ (a - t * a / s) * s :=
  calc a * (s - t)
      = a * s - t * a := by rw [Nat.mul_sub, Nat.mul_comm a t]
    _ ≤ a * s - t * a / s * s := Nat.sub_le_sub_left (Nat.div_mul_le_self _ _) _
    _ = (a - t * a / s) * s := (Nat.sub_mul _ _ _).symm

/-- What a reserve holds that took in its share, per pool token there is then. -/
theorem reserve_mul_le_of_taken (hs : 0 < s) : a * (s + t) ≤ (a + (t * a) ⌈/⌉ s) * s := by
  have hshare : t * a ≤ s * ((t * a) ⌈/⌉ s) := le_smul_ceilDiv hs
  calc a * (s + t)
      = a * s + t * a := by rw [Nat.mul_add, Nat.mul_comm a t]
    _ ≤ a * s + s * ((t * a) ⌈/⌉ s) := Nat.add_le_add_left hshare _
    _ = (a + (t * a) ⌈/⌉ s) * s := by rw [Nat.add_mul, Nat.mul_comm s]

end PegPool
