import PegPool.Proofs.Curve
import PegPool.Proofs.Engine
import PegPool.Proofs.Index

/-!
# The width of answers

Every formula ends by checking that its answer is narrow. So whatever integers are
given, an amount that is answered can be stored, and what a swap moves is neither
nothing nor more than was offered.
-/

namespace PegPool

/-! ## Chains -/

/-- Every answer of a chain satisfies `P`. -/
def Answers {α : Type} (P : α → Prop) (result : Except WideError α) : Prop :=
  ∀ a, result = .ok a → P a

section Chains

variable {α β : Type} {P : α → Prop} {Q : β → Prop} {x y : Except WideError α}

/-- Only the end of a chain answers. -/
@[simp] theorem answers_bind {f : α → Except WideError β} :
    Answers Q (x >>= f) ↔ ∀ a, x = .ok a → Answers Q (f a) := by
  simp only [Answers, bind_eq_ok_iff]
  constructor
  · exact fun h a ha b hb => h b ⟨a, ha, hb⟩
  · rintro h b ⟨a, ha, hb⟩
    exact h a ha b hb

@[simp] theorem answers_map {g : α → β} :
    Answers Q (g <$> x) ↔ Answers (fun a => Q (g a)) x := by
  simp only [Answers, map_eq_ok_iff]
  constructor
  · exact fun h a ha => h _ ⟨a, ha, rfl⟩
  · rintro h _ ⟨a, ha, rfl⟩
    exact h a ha

@[simp] theorem answers_ite {c : Prop} [Decidable c] :
    Answers P (if c then x else y) ↔ (c → Answers P x) ∧ (¬ c → Answers P y) := by
  by_cases h : c <;> simp [h]

@[simp] theorem answers_narrow {P : Nat → Prop} {u : Wide} :
    Answers P u.narrow ↔ (u.toNat ≤ narrowMax → P u.toNat) := by
  simp [Answers, Wide.narrow_eq_ok_iff]

end Chains

/-- Both amounts can be stored. -/
def TokenAmounts.Narrow (amounts : TokenAmounts) : Prop :=
  amounts.tokenA ≤ narrowMax ∧ amounts.tokenB ≤ narrowMax

/-! ## Formulas -/

namespace Price

variable {price : Price}

/-- What a swap moves is narrow and not nothing, and no more is taken than offered. -/
theorem movable_of_swap {source : Int} {direction : Direction} {amounts : SwapAmounts}
    (h : (price.swap source direction).value = some amounts) :
    Movable amounts.taken ∧ Movable amounts.paid ∧ (amounts.taken : Int) ≤ source := by
  rw [swap, Logged.value_ofFormula_eq_some_iff] at h
  unfold swapWide at h
  simp only [bind_eq_ok_iff, Wide.ofInt_eq_ok_iff] at h
  obtain ⟨tokenB, -, offered, hoffered, scale, -, h⟩ := h
  cases direction with
  | aToB =>
    simp only [bind_eq_ok_iff] at h
    obtain ⟨worth, -, paid, -, cost, -, taken, -, h⟩ := h
    split at h
    · cases h
    · rename_i hcost
      obtain ⟨rfl, htaken, hpaid⟩ := settle_eq_some_iff.1 h
      refine ⟨htaken, hpaid, ?_⟩
      show (taken.toNat : Int) ≤ source
      omega
  | bToA =>
    simp only [bind_eq_ok_iff] at h
    obtain ⟨worth, -, paid, -, h⟩ := h
    obtain ⟨rfl, htaken, hpaid⟩ := settle_eq_some_iff.1 h
    exact ⟨htaken, hpaid, Int.le_of_eq hoffered⟩

theorem poolTokens_le_narrowMax {source a b supply : Int} {direction : Direction}
    {rounding : Rounding} {m : Nat}
    (h : (price.poolTokens source a b supply direction rounding).value = some m) :
    m ≤ narrowMax := by
  have hnarrow : Answers (· ≤ narrowMax)
      (price.poolTokensWide source a b supply direction rounding) := by
    cases direction <;> simp [poolTokensWide]
  rw [poolTokens, Logged.value_ofFormula_eq_some_iff, map_eq_ok_iff] at h
  obtain ⟨_, hm, ⟨⟩⟩ := h
  exact hnarrow m hm

theorem normalizedValue_le_narrowMax {a b : Int} {v : Nat}
    (h : (price.normalizedValue a b).value = some v) : v ≤ narrowMax := by
  have hnarrow : Answers (· ≤ narrowMax) (price.normalizedValueWide a b) := by
    simp [normalizedValueWide]
  exact hnarrow v (value_normalizedValue_eq_some_iff_wide.1 h)

theorem narrow_of_valueShare {t s a b : Int} {rounding : Rounding} {amounts : TokenAmounts}
    (h : (price.valueShare t s a b rounding).value = some amounts) : amounts.Narrow := by
  have hnarrow (total : Nat) :
      Answers TokenAmounts.Narrow (price.valueShareWide t s total a b rounding) := by
    cases rounding <;>
      simp +contextual [valueShareWide, TokenAmounts.Narrow, Wide.narrow_eq_ok_iff]
  obtain ⟨total, -, h⟩ := Logged.value_andThen_eq_some_iff.1 h
  rw [Logged.value_ofFormula_eq_some_iff, map_eq_ok_iff] at h
  obtain ⟨_, hamounts, ⟨⟩⟩ := h
  exact hnarrow total amounts hamounts

end Price

theorem narrow_of_reserveShare {t s a b : Int} {rounding : Rounding} {amounts : TokenAmounts}
    (h : (reserveShare t s a b rounding).value = some amounts) : amounts.Narrow := by
  have hnarrow : Answers TokenAmounts.Narrow (reserveShareWide t s a b rounding) := by
    simp +contextual [reserveShareWide, TokenAmounts.Narrow, Wide.narrow_eq_ok_iff]
  rw [reserveShare, Logged.value_ofFormula_eq_some_iff, map_eq_ok_iff] at h
  obtain ⟨_, hamounts, ⟨⟩⟩ := h
  exact hnarrow amounts hamounts

/-- Either way of sharing out ends in narrow amounts. -/
theorem Curve.narrow_of_share {curve : Curve} {t s a b : Int} {rounding : Rounding}
    {timestamp : Option Int} {amounts : TokenAmounts}
    (h : (curve.share t s a b rounding timestamp).value = some amounts) : amounts.Narrow := by
  cases curve with
  | constantPrice record => exact narrow_of_reserveShare h
  | redemptionRate record =>
    obtain ⟨price, -, h⟩ := Logged.value_andThen_eq_some_iff.1 h
    exact Price.narrow_of_valueShare h

/-! ## Engines -/

/-- Whatever integers an engine is given, its answers can be stored, what it swaps
is neither nothing nor more than was offered, and an index is wide at most. -/
structure Engine.AnswersFit (engine : Engine) : Prop where
  swap : ∀ source direction timestamp amounts,
    (engine.swap source direction timestamp).value = some amounts →
      (1 ≤ amounts.taken ∧ (amounts.taken : Int) ≤ source ∧ amounts.taken < 2 ^ 128) ∧
        1 ≤ amounts.paid ∧ amounts.paid < 2 ^ 128
  deposit : ∀ source reserveA reserveB supply direction timestamp minted,
    (engine.deposit source reserveA reserveB supply direction timestamp).value = some minted →
      minted < 2 ^ 128
  withdraw : ∀ source reserveA reserveB supply direction rounding timestamp burnt,
    (engine.withdraw source reserveA reserveB supply direction rounding timestamp).value
      = some burnt → burnt < 2 ^ 128
  share : ∀ poolTokens supply reserveA reserveB rounding timestamp amounts,
    (engine.share poolTokens supply reserveA reserveB rounding timestamp).value
      = some amounts → amounts.tokenA < 2 ^ 128 ∧ amounts.tokenB < 2 ^ 128
  normalizedValue : ∀ reserveA reserveB timestamp value,
    (engine.normalizedValue reserveA reserveB timestamp).value = some value → value < 2 ^ 128
  conversionRate : ∀ timestamp rate,
    (engine.conversionRate timestamp).value = .ok (some rate) → rate < 2 ^ 256

namespace Engine

theorem lt_of_le_narrowMax {n : Nat} (h : n ≤ narrowMax) : n < 2 ^ 128 :=
  h.trans_lt (by decide)

theorem answersFit (engine : Engine) : engine.AnswersFit where
  swap source direction timestamp amounts h := by
    obtain ⟨-, h⟩ := value_ask_eq_some_iff.1 h
    obtain ⟨price, -, h⟩ := Logged.value_andThen_eq_some_iff.1 h
    obtain ⟨htaken, hpaid, hle⟩ := Price.movable_of_swap h
    exact ⟨⟨htaken.1, hle, lt_of_le_narrowMax htaken.2⟩, hpaid.1, lt_of_le_narrowMax hpaid.2⟩
  deposit source reserveA reserveB supply direction timestamp minted h := by
    obtain ⟨-, h⟩ := value_ask_eq_some_iff.1 h
    obtain ⟨price, -, h⟩ := Logged.value_andThen_eq_some_iff.1 h
    exact lt_of_le_narrowMax (Price.poolTokens_le_narrowMax h)
  withdraw source reserveA reserveB supply direction rounding timestamp burnt h := by
    obtain ⟨-, h⟩ := value_ask_eq_some_iff.1 h
    obtain ⟨price, -, h⟩ := Logged.value_andThen_eq_some_iff.1 h
    exact lt_of_le_narrowMax (Price.poolTokens_le_narrowMax h)
  share poolTokens supply reserveA reserveB rounding timestamp amounts h := by
    obtain ⟨-, h⟩ := value_ask_eq_some_iff.1 h
    obtain ⟨hA, hB⟩ := Curve.narrow_of_share h
    exact ⟨lt_of_le_narrowMax hA, lt_of_le_narrowMax hB⟩
  normalizedValue reserveA reserveB timestamp value h := by
    obtain ⟨-, h⟩ := value_ask_eq_some_iff.1 h
    obtain ⟨price, -, h⟩ := Logged.value_andThen_eq_some_iff.1 h
    exact lt_of_le_narrowMax (Price.normalizedValue_le_narrowMax h)
  conversionRate timestamp rate h := by
    unfold Engine.conversionRate at h
    cases hrecord : engine.rateRecord with
    | error cause => simp [hrecord] at h
    | ok record =>
      rw [hrecord, Logged.value_map, Except.ok.injEq] at h
      obtain ⟨-, h⟩ := value_ask_eq_some_iff.1 h
      have hwide := RedemptionRate.conversionRate_le_wideMax h
      have hmax : wideMax < 2 ^ 256 := by decide
      exact hwide.trans_lt hmax

end Engine

end PegPool
