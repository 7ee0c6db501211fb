import Mathlib.Data.Rat.Floor
import PegPool.Proofs.Wording
import PegPool.Wide.Operand

/-!
# Exact results

What an operator stands for is a number over all integers: a quotient is the exact fraction,
rounded, and a remainder is what the rounded quotient leaves over. An operator on wide amounts
answers that number wherever it is in range. Where it is not, the kind of failure tells on
which side it lies, whatever the sign and the size of the operand; nothing is wrapped.
-/

namespace PegPool

/-- The operand is an integer, given as such or as a wide amount. -/
inductive Operand.Whole : Operand → Int → Prop
  | integer (value : Int) : Whole (.integer value) value
  | wide (value : Wide) : Whole (.wide value) value

namespace Wide

/-! ## Rounded quotients -/

/-- The floor of an exact quotient, also for a negative divisor. -/
theorem floor_div_eq_fdiv (m : Int) {n : Int} (hn : n ≠ 0) : ⌊(m / n : ℚ)⌋ = Int.fdiv m n := by
  rcases Int.lt_or_lt_of_ne hn with hneg | hpos
  · obtain ⟨d, hd⟩ := Int.eq_ofNat_of_zero_le (by omega : 0 ≤ -n)
    obtain rfl : n = -d := by omega
    rw [← Int.neg_fdiv_neg, Int.neg_neg, Int.fdiv_eq_ediv_of_nonneg _ (Int.natCast_nonneg d),
      ← Rat.floor_intCast_div_natCast]
    push_cast
    rw [div_neg, neg_div]
  · obtain ⟨d, rfl⟩ := Int.eq_ofNat_of_zero_le (Int.le_of_lt hpos)
    rw [Int.fdiv_eq_ediv_of_nonneg _ (Int.natCast_nonneg d), ← Rat.floor_intCast_div_natCast]
    push_cast
    rfl

theorem ceil_div_eq_ite (m : Int) {n : Int} (hn : n ≠ 0) :
    ⌈(m / n : ℚ)⌉ = if Int.fmod m n = 0 then Int.fdiv m n else Int.fdiv m n + 1 := by
  have hne : (n : ℚ) ≠ 0 := by exact_mod_cast hn
  by_cases hrest : Int.fmod m n = 0
  · have hmul := Int.mul_fdiv_cancel_of_fmod_eq_zero hrest
    have hdiv : (m / n : ℚ) = Int.fdiv m n := by
      rw [div_eq_iff hne, mul_comm]
      exact_mod_cast hmul.symm
    rw [if_pos hrest, hdiv, Int.ceil_intCast]
  · rw [if_neg hrest, ← floor_div_eq_fdiv m hn, Int.ceil_eq_floor_add_one_iff_notMem]
    rintro ⟨k, hk⟩
    -- a whole quotient would leave nothing over
    rw [eq_div_iff hne] at hk
    have hdvd : n ∣ m := ⟨k, by rw [mul_comm]; exact_mod_cast hk.symm⟩
    exact hrest (Int.fmod_eq_zero_of_dvd hdvd)

/-! ## What is asked for -/

namespace Operator

/-- The result over all integers, if there is one. -/
def result? (operator : Operator) (u x : Int) : Option Int :=
  match operator with
  | add => some (u + x)
  | sub => some (u - x)
  | mul => some (u * x)
  | div => if x = 0 then none else some ⌊(u / x : ℚ)⌋
  | mod => if x = 0 then none else some (u - x * ⌊(u / x : ℚ)⌋)
  | ceilDiv => if x = 0 then none else some ⌈(u / x : ℚ)⌉
  | min => some (Min.min u x)
  | subFrom => some (x - u)
  | divInto => if u = 0 then none else some ⌊(x / u : ℚ)⌋

/-- The operand stands before the operator. -/
def isReversed : Operator → Bool
  | subFrom | divInto => true
  | _ => false

/-- The operator for the same numbers in the other order. -/
def mirror? : Operator → Option Operator
  | add => some add
  | sub => some subFrom
  | mul => some mul
  | div => some divInto
  | _ => none

end Operator

/-- The number, if it is there and in range, or else the kind of failure. -/
def judge : Option Int → Except Failure Int
  | none => .error .divisionByZero
  | some n =>
    if n < 0 then .error .underflow else if 2 ^ 256 ≤ n then .error .overflow else .ok n

/-- What an operator owes: the exact result, if it is in range. An operand before the operator
has to be in range itself, and is judged first. -/
def Operator.outcome (operator : Operator) (u x : Int) : Except Failure Int := do
  if operator.isReversed then
    let _ ← judge (some x)
  judge (operator.result? u x)

/-- What is seen of a result: the number, or the kind of failure. -/
def seen : Except WideError Wide → Except Failure Int
  | .ok w => .ok w.toNat
  | .error cause => .error cause.failure

theorem judge_eq_ok_iff {exact : Option Int} {n : Int} :
    judge exact = .ok n ↔ exact = some n ∧ InRange n := by
  cases exact with
  | none => simp [judge]
  | some m =>
    simp only [judge, Option.some.injEq, InRange]
    split
    · simp only [reduceCtorEq, false_iff]
      omega
    · split
      · simp only [reduceCtorEq, false_iff]
        omega
      · simp only [Except.ok.injEq]
        omega

theorem judge_of_neg {n : Int} (h : n < 0) : judge (some n) = .error .underflow := if_pos h

theorem judge_of_wideMax_lt {n : Int} (h : wideMax < n) :
    judge (some n) = .error .overflow := by
  have hnonneg : ¬ n < 0 := by omega
  have hbig : 2 ^ 256 ≤ n := by
    rw [← Int.not_lt, lt_two_pow_iff]
    omega
  rw [judge, if_neg hnonneg, if_pos hbig]

/-! ## Each operator -/

theorem seen_ofInt (value : Int) : seen (ofInt value) = judge (some value) := by
  unfold ofInt
  split
  case isTrue hneg => exact (judge_of_neg hneg).symm
  case isFalse hneg =>
    split
    case isTrue hle =>
      have hnonneg : 0 ≤ value := by omega
      refine (judge_eq_ok_iff.2 ⟨?_, inRange_natCast_iff.2 hle⟩).symm
      rw [Int.toNat_of_nonneg hnonneg]
    case isFalse hlt => exact (judge_of_wideMax_lt (by omega)).symm

/-- An operator that looks at the exact result first names the failure that is due. -/
theorem seen_ite_error {c : Prop} [Decidable c] {cause : WideError} {value : Int}
    (h : c → judge (some value) = .error cause.failure) :
    seen (if c then .error cause else ofInt value) = judge (some value) := by
  by_cases hc : c
  · rw [if_pos hc, h hc]
    rfl
  · rw [if_neg hc, seen_ofInt]

/-- And one that divides looks at the divisor first. -/
theorem seen_ite_zero {x : Int} {cause : WideError} {value result : Int}
    (hcause : cause.failure = .divisionByZero) (h : x ≠ 0 → value = result) :
    seen (if x = 0 then .error cause else ofInt value)
      = judge (if x = 0 then none else some result) := by
  by_cases hx : x = 0
  · rw [if_pos hx, if_pos hx, seen, hcause, judge]
  · rw [if_neg hx, if_neg hx, seen_ofInt, h hx]

section Operators

variable (u : Wide) (x : Int)

theorem seen_add : seen (u.add x) = judge (some (u + x)) := seen_ite_error judge_of_wideMax_lt

theorem seen_sub : seen (u.sub x) = judge (some (u - x)) := seen_ite_error judge_of_neg

theorem seen_mul : seen (u.mul x) = judge (some (u * x)) := seen_ite_error judge_of_wideMax_lt

theorem seen_div : seen (u.div x) = judge (Operator.result? .div u x) :=
  seen_ite_zero rfl fun hx => (floor_div_eq_fdiv u hx).symm

theorem seen_mod : seen (u.mod x) = judge (Operator.result? .mod u x) := by
  refine seen_ite_zero rfl fun hx => ?_
  rw [floor_div_eq_fdiv u hx, Int.fmod_def]

theorem seen_ceilDiv : seen (u.ceilDiv x) = judge (Operator.result? .ceilDiv u x) := by
  unfold ceilDiv
  rw [← apply_ite ofInt]
  exact seen_ite_zero rfl fun hx => (ceil_div_eq_ite u hx).symm

theorem seen_min : seen (u.min x) = judge (some (Min.min (u : Int) x)) := by
  unfold min
  rw [seen_ofInt]
  congr 2
  split <;> omega

/-- An operand before the operator is judged by itself, and then it is a wide amount. -/
theorem seen_ofInt_bind {f : Wide → Except WideError Wide} {next : Except Failure Int}
    (h : ∀ v : Wide, (v : Int) = x → seen (f v) = next) :
    seen (ofInt x >>= f) = (do let _ ← judge (some x); next) := by
  rw [← seen_ofInt]
  cases hx : ofInt x with
  | error cause => rfl
  | ok v => exact h v (ofInt_eq_ok_iff.1 hx)

end Operators

/-- Every operator does what it owes. -/
theorem seen_apply (u : Wide) (operator : Operator) (x : Int) :
    seen (u.apply operator x) = operator.outcome u x := by
  cases operator with
  | add => exact seen_add u x
  | sub => exact seen_sub u x
  | mul => exact seen_mul u x
  | div => exact seen_div u x
  | mod => exact seen_mod u x
  | ceilDiv => exact seen_ceilDiv u x
  | min => exact seen_min u x
  | subFrom =>
    refine seen_ofInt_bind x fun v hv => ?_
    rw [seen_sub, hv]
    rfl
  | divInto =>
    refine seen_ofInt_bind x fun v hv => ?_
    rw [seen_div, hv]
    rfl

theorem seen_eq_ok_iff {result : Except WideError Wide} {w : Wide} :
    seen result = .ok (w : Int) ↔ result = .ok w := by
  cases result with
  | error cause => simp [seen]
  | ok v => simp [seen, Wide.ext_iff]

theorem Operator.outcome_eq_ok_iff {operator : Operator} {u x n : Int} :
    operator.outcome u x = .ok n ↔
      (operator.result? u x = some n ∧ InRange n) ∧ (operator.isReversed → InRange x) := by
  unfold outcome
  by_cases hreversed : operator.isReversed
  · simp [hreversed, bind_eq_ok_iff, judge_eq_ok_iff, and_comm]
  · simp [hreversed, judge_eq_ok_iff]

/-- An operator answers the exact result wherever it is in range. -/
theorem apply_eq_ok_iff {u w : Wide} {operator : Operator} {x : Int} :
    u.apply operator x = .ok w ↔
      operator.result? u x = some (w : Int) ∧ (operator.isReversed → InRange x) := by
  rw [← seen_eq_ok_iff, seen_apply, Operator.outcome_eq_ok_iff, and_iff_left w.inRange_toNat]

/-! ## The other order -/

section Mirror

variable {operator mirror : Operator} (h : operator.mirror? = some mirror)

include h

theorem Operator.result?_mirror (u x : Int) : mirror.result? u x = operator.result? x u := by
  cases operator <;> cases h
  · exact congrArg some (Int.add_comm u x)
  · rfl
  · exact congrArg some (Int.mul_comm u x)
  · rfl

/-- With a wide amount before it, an operator answers as its mirror does. -/
theorem seen_apply_mirror (u v : Wide) : seen (u.apply mirror v) = seen (v.apply operator u) := by
  have hv : judge (some (v : Int)) = .ok v := judge_eq_ok_iff.2 ⟨rfl, v.inRange_toNat⟩
  have hforward : operator.isReversed = false := by cases operator <;> cases h <;> rfl
  rw [seen_apply, seen_apply, Operator.outcome, Operator.outcome, Operator.result?_mirror h, hv,
    hforward]
  cases mirror.isReversed <;> rfl

end Mirror

/-! ## Failures in words -/

theorem tellable_ite_error {c : Prop} [Decidable c] {cause : WideError}
    {result : Except WideError Wide} (hcause : ∀ value ∈ cause.integers, Text.isWritable value)
    (hresult : Tellable result) : Tellable (if c then .error cause else result) :=
  tellable_ite.2 ⟨fun _ => tellable_error.2 hcause, fun _ => hresult⟩

/-- A sum of a wide amount and an operand of 4000 digits can be written. -/
theorem isWritable_of_natAbs_le {value : Int} (h : value.natAbs ≤ wideMax + 10 ^ 4000) :
    Text.isWritable value :=
  Text.isWritable_iff.2 (h.trans_lt (by decide +kernel))

theorem natAbs_fmod_le (m x : Int) : (Int.fmod m x).natAbs ≤ m.natAbs + x.natAbs := by
  by_cases hx : x = 0
  · simp [hx]
  · have hnonneg := Int.emod_nonneg m hx
    have hlt := Int.emod_lt m hx
    rw [Int.fmod_eq_emod]
    split <;> omega

section Tellable

variable (u : Wide) {x : Int} (hx : x.natAbs < 10 ^ 4000)

include hx

/-- And so can their product. -/
theorem isWritable_mul : Text.isWritable (u * x) := by
  have hproduct : wideMax * 10 ^ 4000 < Text.writeBound := by decide +kernel
  rw [Text.isWritable_iff, Int.natAbs_mul, Int.natAbs_natCast]
  exact (Nat.mul_le_mul u.toNat_le (Nat.le_of_lt hx)).trans_lt hproduct

theorem tellable_sub : Tellable (u.sub x) := by
  have hu := u.toNat_le
  have hoperand : Text.isWritable x := isWritable_of_natAbs_le (by omega)
  have hdifference : Text.isWritable (u - x) := isWritable_of_natAbs_le (by omega)
  exact tellable_ite_error (by simp [WideError.integers, hoperand, hdifference])
    (tellable_ofInt hdifference)

/-- Every operator can tell its failure. -/
theorem tellable_apply (operator : Operator) : Tellable (u.apply operator x) := by
  have hu := u.toNat_le
  have hoperand : Text.isWritable x := isWritable_of_natAbs_le (by omega)
  have hquotient := Int.natAbs_fdiv_le_natAbs u x
  cases operator with
  | add =>
    exact tellable_ite_error (by simp [WideError.integers, hoperand])
      (tellable_ofInt (isWritable_of_natAbs_le (by omega)))
  | sub => exact tellable_sub u hx
  | mul =>
    exact tellable_ite_error (by simp [WideError.integers, hoperand])
      (tellable_ofInt (isWritable_mul u hx))
  | div =>
    exact tellable_ite_error (by simp [WideError.integers])
      (tellable_ofInt (isWritable_of_natAbs_le (by omega)))
  | mod =>
    have hrest := natAbs_fmod_le u x
    exact tellable_ite_error (by simp [WideError.integers])
      (tellable_ofInt (isWritable_of_natAbs_le (by omega)))
  | ceilDiv =>
    refine tellable_ite_error (by simp [WideError.integers]) (tellable_ite.2 ⟨?_, ?_⟩)
    · exact fun _ => tellable_ofInt (isWritable_of_natAbs_le (by omega))
    · exact fun _ => tellable_ofInt (isWritable_of_natAbs_le (by omega))
  | min => exact tellable_min hoperand
  | subFrom =>
    have hsmall : (u : Int).natAbs < 10 ^ 4000 := hu.trans_lt (by decide +kernel)
    exact tellable_bind.2 ⟨tellable_ofInt hoperand, fun v _ => tellable_sub v hsmall⟩
  | divInto => exact tellable_bind.2 ⟨tellable_ofInt hoperand, fun v _ => tellable_div v u.toNat⟩

end Tellable

/-! ## Operands -/

section Operands

variable {u w : Wide} {operator : Operator} {x : Operand} {n : Int}

theorem applyOperand_of_whole (hx : x.Whole n) :
    u.applyOperand operator x = (u.apply operator n).mapError .range := by
  cases hx <;> rfl

theorem applyOperand_eq_ok_iff (hx : x.Whole n) :
    u.applyOperand operator x = .ok w ↔ operator.outcome u n = .ok (w : Int) := by
  rw [applyOperand_of_whole hx, ← seen_apply, seen_eq_ok_iff]
  cases u.apply operator n <;> simp [Except.mapError]

/-- Where the operator owes a failure it fails with that kind, and in words. -/
theorem exists_applyOperand_eq_error (hx : x.Whole n) (hn : n.natAbs < 10 ^ 4000)
    {failure : Failure} (h : operator.outcome u n = .error failure) :
    ∃ cause, u.applyOperand operator x = .error cause ∧ cause.failure? = some failure ∧
      cause.told = .ok cause.message := by
  rw [applyOperand_of_whole hx]
  rw [← seen_apply] at h
  have htellable := tellable_apply u hn operator
  cases hresult : u.apply operator n with
  | ok w =>
    rw [hresult] at h
    cases h
  | error cause =>
    rw [hresult] at h
    cases h
    exact ⟨.range cause, rfl, rfl, htellable cause hresult⟩

end Operands

end Wide

end PegPool
