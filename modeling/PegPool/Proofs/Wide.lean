import Mathlib.Algebra.Order.Floor.Div
import PegPool.Logged

/-!
# Formulas that succeed

A formula is a chain of wide operations and has an answer exactly when each of
them has one. Here a chain is taken apart, and each operation on natural
numbers is told as an equation between natural numbers.
-/

namespace PegPool

/-! ## Chains -/

theorem bind_eq_ok_iff {ε α β : Type} {x : Except ε α} {f : α → Except ε β} {b : β} :
    x >>= f = .ok b ↔ ∃ a, x = .ok a ∧ f a = .ok b := by
  cases x <;> simp [Bind.bind, Except.bind]

theorem ok_bind {ε α β : Type} (a : α) (f : α → Except ε β) : .ok a >>= f = f a := rfl

theorem bind_eq_error_iff {ε α β : Type} {x : Except ε α} {f : α → Except ε β} {e : ε} :
    x >>= f = .error e ↔ x = .error e ∨ ∃ a, x = .ok a ∧ f a = .error e := by
  cases x <;> simp [Bind.bind, Except.bind]

/-- A formula has one answer at most. -/
theorem ok_unique {ε α : Type} {x : Except ε α} {a b : α} (ha : x = .ok a) (hb : x = .ok b) :
    a = b :=
  Except.ok.inj (ha.symm.trans hb)

/-- What follows matters only where there is something to follow. -/
theorem bind_congr_of_ok {ε α β : Type} {x : Except ε α} {f g : α → Except ε β}
    (h : ∀ a, x = .ok a → f a = g a) : x >>= f = x >>= g := by
  cases x with
  | error _ => rfl
  | ok a => exact h a rfl

/-- Only what follows an answer has to be compared. -/
theorem bind_eq_ok_congr {ε α β : Type} {x : Except ε α} {f g : α → Except ε β} {b : β}
    (h : ∀ a, x = .ok a → (f a = .ok b ↔ g a = .ok b)) : x >>= f = .ok b ↔ x >>= g = .ok b := by
  rw [bind_eq_ok_iff, bind_eq_ok_iff]
  exact exists_congr fun a => and_congr_right (h a)

theorem map_eq_ok_iff {ε α β : Type} {x : Except ε α} {f : α → β} {b : β} :
    f <$> x = .ok b ↔ ∃ a, x = .ok a ∧ f a = b := by
  cases x <;> simp [Functor.map, Except.map]

theorem pure_eq_ok_iff {ε α : Type} {a b : α} : (pure a : Except ε α) = .ok b ↔ a = b := by
  simp [pure, Except.pure]

/-- The cause of a failure, if there is one, is of this kind. -/
def FailsOnly {ε α : Type} (p : ε → Prop) (result : Except ε α) : Prop :=
  ∀ cause, result = .error cause → p cause

section FailsOnly

variable {ε α β : Type} {p : ε → Prop} {x y : Except ε α} {f : α → Except ε β}

theorem failsOnly_pure (a : α) : FailsOnly p (pure a : Except ε α) := by
  intro cause h
  cases h

theorem failsOnly_error {cause : ε} : FailsOnly p (.error cause : Except ε α) ↔ p cause := by
  simp [FailsOnly]

/-- Of a single operation that fails with one cause, and where. -/
theorem failsOnly_iff_of_eq_error_iff {c : Prop} {given : ε}
    (h : ∀ cause, x = .error cause ↔ c ∧ cause = given) : FailsOnly p x ↔ (c → p given) := by
  simp [FailsOnly, h]

theorem failsOnly_bind :
    FailsOnly p (x >>= f) ↔ FailsOnly p x ∧ ∀ a, x = .ok a → FailsOnly p (f a) := by
  cases x with
  | error cause => simp [FailsOnly, Bind.bind, Except.bind]
  | ok a => simp [FailsOnly, Bind.bind, Except.bind]

theorem failsOnly_map (g : α → β) : FailsOnly p (g <$> x) ↔ FailsOnly p x := by
  cases x <;> simp [FailsOnly, Functor.map, Except.map]

theorem failsOnly_ite {c : Prop} [Decidable c] :
    FailsOnly p (if c then x else y) ↔ (c → FailsOnly p x) ∧ (¬ c → FailsOnly p y) := by
  by_cases h : c <;> simp [h]

end FailsOnly

theorem Logged.value_ofFormula_eq_some_iff {α : Type} {formula : Formula}
    {result : Except WideError (Option α)} {x : α} :
    (ofFormula formula result).value = some x ↔ result = .ok (some x) := by
  rw [value_ofFormula]
  cases result <;> simp [Except.toOption]

theorem Logged.value_andThen_eq_some_iff {α β : Type} {first : Logged (Option α)}
    {next : α → Logged (Option β)} {y : β} : (first.andThen next).value = some y ↔
      ∃ x, first.value = some x ∧ (next x).value = some y := by
  rw [value_andThen, Option.bind_eq_some_iff]

/-! ## Operations on natural numbers -/

theorem narrowMax_add_one : narrowMax + 1 = 2 ^ 128 := by decide

theorem wideMax_add_one : wideMax + 1 = 2 ^ 256 := by decide

theorem le_narrowMax_iff {n : Nat} : n ≤ narrowMax ↔ n < 2 ^ 128 := by
  rw [← narrowMax_add_one, Nat.lt_succ_iff]

theorem le_wideMax_iff {n : Nat} : n ≤ wideMax ↔ n < 2 ^ 256 := by
  rw [← wideMax_add_one, Nat.lt_succ_iff]

/-- A product of narrow numbers is wide at most. -/
theorem mul_le_wideMax {m n : Nat} (hm : m ≤ narrowMax) (hn : n ≤ narrowMax) :
    m * n ≤ wideMax :=
  (Nat.mul_le_mul hm hn).trans (by decide)

/-- A wide amount has few enough digits to be written. -/
theorem wideMax_lt_writeBound : wideMax < Text.writeBound := by decide +kernel

namespace Wide

instance : CanLift Nat Wide toNat (· ≤ wideMax) := ⟨fun n h => ⟨⟨n, h⟩, rfl⟩⟩

variable {u w : Wide} {n : Nat}

/-- An integer of at most 256 bits that is not negative. -/
def InRange (value : Int) : Prop := 0 ≤ value ∧ value < 2 ^ 256

instance (value : Int) : Decidable (InRange value) :=
  inferInstanceAs (Decidable (0 ≤ value ∧ value < 2 ^ 256))

theorem lt_two_pow_iff {value : Int} : value < 2 ^ 256 ↔ value ≤ wideMax := by
  have hmax : (wideMax : Int) + 1 = 2 ^ 256 := by exact_mod_cast wideMax_add_one
  omega

theorem inRange_iff {value : Int} : InRange value ↔ 0 ≤ value ∧ value ≤ wideMax :=
  and_congr_right' lt_two_pow_iff

theorem inRange_natCast_iff : InRange n ↔ n ≤ wideMax := by
  rw [inRange_iff]
  omega

theorem inRange_toNat (u : Wide) : InRange u.toNat := inRange_natCast_iff.2 u.toNat_le

theorem ofInt_natCast_eq_ok_iff : ofInt n = .ok u ↔ u.toNat = n := by
  rw [ofInt_eq_ok_iff, Int.ofNat_inj]

theorem ofInt_toNat (u : Wide) : ofInt u = .ok u := ofInt_natCast_eq_ok_iff.2 rfl

theorem add_natCast_eq_ok_iff : u.add n = .ok w ↔ w.toNat = u.toNat + n := by
  rw [add_eq_ok_iff, ← Int.natCast_add, Int.ofNat_inj]

theorem mul_natCast_eq_ok_iff : u.mul n = .ok w ↔ w.toNat = u.toNat * n := by
  rw [mul_eq_ok_iff, ← Int.natCast_mul, Int.ofNat_inj]

theorem div_natCast_eq_ok_iff : u.div n = .ok w ↔ n ≠ 0 ∧ w.toNat = u.toNat / n := by
  rw [div_eq_ok_iff, ← Int.ofNat_fdiv, Int.ofNat_inj, Ne, Int.natCast_eq_zero]

/-- The quotient rounded up exceeds the floor by one if something is left. -/
theorem ceilDiv_eq_ite {m n : Nat} (hn : 0 < n) :
    m ⌈/⌉ n = if m % n = 0 then m / n else m / n + 1 := by
  have hm := Nat.div_add_mod m n
  have hlt := Nat.mod_lt m hn
  rw [Nat.ceilDiv_eq_add_pred_div]
  -- either way the quotient lies between its own multiple of `n` and the next
  split
  · apply Nat.div_eq_of_lt_le
    · rw [Nat.mul_comm]
      omega
    · rw [Nat.add_mul, Nat.mul_comm]
      omega
  · apply Nat.div_eq_of_lt_le
    · rw [Nat.add_mul, Nat.mul_comm]
      omega
    · rw [Nat.add_mul, Nat.add_mul, Nat.mul_comm]
      omega

theorem div_le_ceilDiv (m n : Nat) : m / n ≤ m ⌈/⌉ n := by
  rw [← Nat.floorDiv_eq_div]
  exact floorDiv_le_ceilDiv

/-- What is filled up is less than a divisor. -/
theorem ceilDiv_mul_lt {m n : Nat} (hn : 0 < n) : m ⌈/⌉ n * n < m + n := by
  have hle : (m + n - 1) / n * n ≤ m + n - 1 := Nat.div_mul_le_self _ _
  rw [Nat.ceilDiv_eq_add_pred_div]
  omega

/-- Two quotients in a row, each rounded up, are one. -/
theorem ceilDiv_ceilDiv {m n k : Nat} (hn : 0 < n) (hk : 0 < k) :
    m ⌈/⌉ n ⌈/⌉ k = m ⌈/⌉ (n * k) := by
  apply eq_of_forall_ge_iff
  intro bound
  rw [ceilDiv_le_iff_le_mul hk, ceilDiv_le_iff_le_mul hn,
    ceilDiv_le_iff_le_mul (Nat.mul_pos hn hk), Nat.mul_assoc]

theorem ceilDiv_natCast_eq_ok_iff :
    u.ceilDiv n = .ok w ↔ n ≠ 0 ∧ w.toNat = u.toNat ⌈/⌉ n := by
  unfold ceilDiv
  rcases Nat.eq_zero_or_pos n with rfl | hn
  · simp
  · rw [ceilDiv_eq_ite hn, ← Int.ofNat_fmod, ← Int.ofNat_fdiv]
    simp only [Int.natCast_eq_zero, Nat.ne_of_gt hn, if_false, ne_eq, not_false_eq_true, true_and]
    split
    · exact ofInt_natCast_eq_ok_iff
    · rw [← Int.natCast_add_one, ofInt_natCast_eq_ok_iff]

theorem min_natCast_eq_ok_iff : u.min n = .ok w ↔ w.toNat = Min.min u.toNat n := by
  rw [min_eq_ok_iff]
  split <;> omega

/-! ## Operations without a result

A sum or a product of natural numbers fails by its width only, and a quotient by its
divisor only. -/

variable {cause : WideError}

theorem ofInt_natCast_eq_error_iff :
    ofInt n = .error cause ↔ wideMax < n ∧ cause = .tooWide n := by
  rw [ofInt, if_neg (Int.not_lt.2 (Int.natCast_nonneg n)), Int.toNat_natCast]
  by_cases h : wideMax < n
  · simp [h, Nat.not_le.2 h, eq_comm]
  · simp [h, Nat.not_lt.1 h]

/-- A range check never names a product. -/
theorem ofInt_ne_productTooWide (value : Int) (left : Nat) (right : Int) :
    ofInt value ≠ .error (.productTooWide left right) := by
  unfold ofInt
  split
  · simp
  · split <;> simp

theorem narrow_eq_error_iff :
    u.narrow = .error cause ↔ narrowMax < u.toNat ∧ cause = .notNarrow u.toNat := by
  unfold narrow toNarrow?
  by_cases h : narrowMax < u.toNat
  · simp [h, Nat.not_le.2 h, eq_comm]
  · simp [h, Nat.not_lt.1 h]

theorem add_natCast_eq_error_iff :
    u.add n = .error cause ↔ wideMax < u.toNat + n ∧ cause = .sumTooWide u.toNat n := by
  unfold add
  simp only [← Int.natCast_add, Int.ofNat_lt]
  by_cases h : wideMax < u.toNat + n
  · simp [h, eq_comm]
  · simp only [h, if_false, ofInt_natCast_eq_error_iff, false_and]

theorem mul_natCast_eq_error_iff :
    u.mul n = .error cause ↔ wideMax < u.toNat * n ∧ cause = .productTooWide u.toNat n := by
  unfold mul
  simp only [← Int.natCast_mul, Int.ofNat_lt]
  by_cases h : wideMax < u.toNat * n
  · simp [h, eq_comm]
  · simp only [h, if_false, ofInt_natCast_eq_error_iff, false_and]

theorem div_natCast_eq_error_iff :
    u.div n = .error cause ↔ n = 0 ∧ cause = .divisionByZero u.toNat := by
  have hle : u.toNat / n ≤ wideMax := (Nat.div_le_self _ _).trans u.toNat_le
  unfold div
  simp only [← Int.ofNat_fdiv, Int.natCast_eq_zero]
  by_cases h : n = 0
  · simp [h, eq_comm]
  · simp only [h, if_false, ofInt_natCast_eq_error_iff, Nat.not_lt.2 hle, false_and]

theorem ceilDiv_natCast_eq_error_iff :
    u.ceilDiv n = .error cause ↔ n = 0 ∧ cause = .roundedUpDivisionByZero u.toNat := by
  rcases Nat.eq_zero_or_pos n with rfl | hn
  · simp [ceilDiv, eq_comm]
  · have hle : u.toNat ⌈/⌉ n ≤ u.toNat :=
      (ceilDiv_le_iff_le_mul hn).2 (Nat.le_mul_of_pos_left _ hn)
    have hok : u.ceilDiv n = .ok ⟨u.toNat ⌈/⌉ n, hle.trans u.toNat_le⟩ :=
      ceilDiv_natCast_eq_ok_iff.2 ⟨Nat.ne_of_gt hn, rfl⟩
    simp [hok, Nat.ne_of_gt hn]

end Wide

end PegPool
