import Mathlib.Algebra.Order.Field.Basic
import PegPool.Proofs.Wide.Exact

/-!
# Guarded operators

A guarded operator does what the operator without its guard does, except that one kind of
failure becomes an absence: too great a sum or product, too small a difference, a divisor of
zero. Every other failure stays one. So it never fails where the exact result does not lie
beyond the other end of the range, which is so for every operand that is not negative.
-/

namespace PegPool.Wide

/-! ## Guards -/

namespace Guarded

/-- The kind of failure that is guarded against. -/
def failure : Guarded → Failure
  | add | mul => .overflow
  | sub => .underflow
  | div | ceilDiv => .divisionByZero

/-- The kind of failure that is left. -/
def otherFailure : Guarded → Failure
  | sub => .overflow
  | _ => .underflow

/-- A result with an absence in place of the failure that is guarded against. -/
def absorb (guarded : Guarded) : Except OperandError Wide → Except OperandError (Option Wide)
  | .ok w => .ok (some w)
  | .error cause =>
    if cause.failure? = some guarded.failure then .ok none else .error cause

/-- The exact result does not lie beyond the end of the range to which the guard does not
look. -/
def Covers (guarded : Guarded) (exact : Int) : Prop :=
  match guarded with
  | sub => exact < 2 ^ 256
  | _ => 0 ≤ exact

theorem otherFailure_ne_failure (guarded : Guarded) : guarded.otherFailure ≠ guarded.failure := by
  cases guarded <;> decide

/-- A result is told by its absence exactly if it does not fail otherwise. -/
theorem absorb_eq_toOption_iff {guarded : Guarded} {result : Except OperandError Wide} :
    guarded.absorb result = .ok result.toOption ↔
      ∀ cause, result = .error cause → cause.failure? = some guarded.failure := by
  cases result with
  | ok w => simp [absorb, Except.toOption]
  | error cause => simp [absorb, Except.toOption]

end Guarded

/-! ## Guards and range checks -/

/-- A cause in which only the operand may be written otherwise. -/
def Faithful (wrap : WideError → OperandError) : Prop :=
  ∀ cause, (wrap cause).failure? = some cause.failure

theorem faithful_range : Faithful .range := fun _ => rfl

theorem faithful_truthRange (value : Bool) : Faithful (.truthRange · value) := fun _ => rfl

theorem failure_of_ofInt {value : Int} {cause : WideError} (h : ofInt value = .error cause) :
    value < 0 ∧ cause.failure = .underflow ∨ wideMax < value ∧ cause.failure = .overflow := by
  unfold ofInt at h
  split at h
  case isTrue hneg =>
    cases h
    exact .inl ⟨hneg, rfl⟩
  case isFalse hneg =>
    split at h
    case isTrue hle => cases h
    case isFalse hlt =>
      cases h
      exact .inr ⟨by omega, rfl⟩

section Absorb

variable {guarded : Guarded} {wrap : WideError → OperandError} (hwrap : Faithful wrap)

include hwrap

/-- A guard asks for its failure first. What the range check refuses after it is a failure
of another kind. -/
theorem absorb_ite {c : Prop} [Decidable c] {cause : WideError} {value : Int}
    (hcause : cause.failure = guarded.failure)
    (hrange : ∀ other, ¬ c → ofInt value = .error other → other.failure ≠ guarded.failure) :
    guarded.absorb ((if c then .error cause else ofInt value).mapError wrap)
      = (if c then .ok none else some <$> ofInt value).mapError wrap := by
  by_cases hc : c
  · simp [hc, Except.mapError, Guarded.absorb, hwrap cause, hcause]
  · cases hvalue : ofInt value with
    | ok w => simp [hc, Except.mapError, Guarded.absorb, Functor.map, Except.map]
    | error other =>
      have hother := hrange other hc hvalue
      simp [hc, Except.mapError, Guarded.absorb, Functor.map, Except.map, hwrap other, hother]

/-- A guard against a divisor of zero has nothing to do with the range. -/
theorem absorb_ite_zero {x : Int} {cause : WideError} {value : Int}
    (hguarded : guarded.failure = .divisionByZero) (hcause : cause.failure = .divisionByZero) :
    guarded.absorb ((if x = 0 then .error cause else ofInt value).mapError wrap)
      = (if x = 0 then .ok none else some <$> ofInt value).mapError wrap := by
  refine absorb_ite hwrap (hcause.trans hguarded.symm) fun other _ hother => ?_
  rcases failure_of_ofInt hother with ⟨-, hunder⟩ | ⟨-, hover⟩
  · simp [hunder, hguarded]
  · simp [hover, hguarded]

/-- Each guarded operator is the operator with an absence in place of one failure. -/
theorem absorb_apply (u : Wide) (x : Int) :
    guarded.absorb ((u.apply guarded.operator x).mapError wrap)
      = (u.applyGuarded guarded x).mapError wrap := by
  cases guarded with
  | add | mul =>
    refine absorb_ite hwrap rfl fun other hle hother => ?_
    rcases failure_of_ofInt hother with ⟨-, hunder⟩ | ⟨hlt, -⟩
    · simp [hunder, Guarded.failure]
    · exact absurd hlt hle
  | sub =>
    refine absorb_ite hwrap rfl fun other hle hother => ?_
    rcases failure_of_ofInt hother with ⟨hlt, -⟩ | ⟨-, hover⟩
    · exact absurd hlt hle
    · simp [hover, Guarded.failure]
  | div => exact absorb_ite_zero hwrap rfl rfl
  | ceilDiv =>
    show Guarded.ceilDiv.absorb ((u.ceilDiv x).mapError wrap) = (u.ceilDiv? x).mapError wrap
    let result := if Int.fmod u x = 0 then Int.fdiv u x else Int.fdiv u x + 1
    have hplain : u.ceilDiv x
        = if x = 0 then .error (.roundedUpDivisionByZero u.toNat) else ofInt result := by
      rw [ceilDiv, ← apply_ite ofInt]
    have hguarded : u.ceilDiv? x = if x = 0 then .ok none else some <$> ofInt result := by
      unfold ceilDiv?
      by_cases hx : x = 0
      · rw [if_pos hx, if_pos hx]
      · rw [if_neg hx, if_neg hx, hplain, if_neg hx]
    rw [hplain, hguarded]
    exact absorb_ite_zero hwrap rfl rfl

end Absorb

/-! ## Exact results under a guard -/

/-- A number is below the range, above it or in it. -/
theorem judge_cases (n : Int) :
    n < 0 ∧ judge (some n) = .error .underflow ∨
      2 ^ 256 ≤ n ∧ judge (some n) = .error .overflow ∨
      InRange n ∧ judge (some n) = .ok n := by
  by_cases hneg : n < 0
  · exact .inl ⟨hneg, judge_of_neg hneg⟩
  · by_cases hlt : n < 2 ^ 256
    · have hrange : InRange n := ⟨Int.not_lt.1 hneg, hlt⟩
      exact .inr (.inr ⟨hrange, judge_eq_ok_iff.2 ⟨rfl, hrange⟩⟩)
    · have hwide : wideMax < n := by rwa [lt_two_pow_iff, Int.not_le] at hlt
      exact .inr (.inl ⟨Int.not_lt.1 hlt, judge_of_wideMax_lt hwide⟩)

theorem judge_eq_underflow_iff {exact : Option Int} :
    judge exact = .error .underflow ↔ ∃ n, exact = some n ∧ n < 0 := by
  cases exact with
  | none => simp [judge]
  | some n =>
    simp only [Option.some.injEq, exists_eq_left']
    rcases judge_cases n with ⟨hneg, hjudge⟩ | ⟨hbig, hjudge⟩ | ⟨hrange, hjudge⟩
    · simp [hjudge, hneg]
    · rw [hjudge]
      simp only [Except.error.injEq, reduceCtorEq, false_iff]
      omega
    · rw [hjudge]
      simp only [reduceCtorEq, false_iff]
      exact Int.not_lt.2 hrange.1

theorem judge_eq_overflow_iff {exact : Option Int} :
    judge exact = .error .overflow ↔ ∃ n, exact = some n ∧ 2 ^ 256 ≤ n := by
  cases exact with
  | none => simp [judge]
  | some n =>
    simp only [Option.some.injEq, exists_eq_left']
    rcases judge_cases n with ⟨hneg, hjudge⟩ | ⟨hbig, hjudge⟩ | ⟨hrange, hjudge⟩
    · rw [hjudge]
      simp only [Except.error.injEq, reduceCtorEq, false_iff]
      omega
    · rw [hjudge]
      simp only [true_iff]
      exact hbig
    · rw [hjudge]
      simp only [reduceCtorEq, false_iff]
      exact Int.not_le.2 hrange.2

theorem failure_of_judge {n : Int} {failure : Failure} (h : judge (some n) = .error failure) :
    failure = .underflow ∨ failure = .overflow ∧ 2 ^ 256 ≤ n := by
  rcases judge_cases n with ⟨-, hjudge⟩ | ⟨hbig, hjudge⟩ | ⟨-, hjudge⟩
  · rw [hjudge] at h
    exact .inl (Except.error.inj h).symm
  · rw [hjudge] at h
    exact .inr ⟨(Except.error.inj h).symm, hbig⟩
  · rw [hjudge] at h
    cases h

/-- A quotient by a number other than zero is no greater than its dividend. -/
theorem div_le_dividend (u : Wide) {x : Int} (hx : x ≠ 0) :
    (((u.toNat : Int) : ℚ) / x) ≤ ((u.toNat : Int) : ℚ) := by
  have hu : (0 : ℚ) ≤ ((u.toNat : Int) : ℚ) := by exact_mod_cast Int.natCast_nonneg u.toNat
  rcases Int.lt_or_lt_of_ne hx with hneg | hpos
  · have hle : (x : ℚ) ≤ 0 := by exact_mod_cast Int.le_of_lt hneg
    exact (div_nonpos_of_nonneg_of_nonpos hu hle).trans hu
  · have hle : (1 : ℚ) ≤ x := by exact_mod_cast hpos
    exact div_le_self hu hle

namespace Guarded

variable {guarded : Guarded} {u : Wide} {x : Int}

/-- A guarded operator has the wide amount on its left. -/
theorem outcome_operator :
    guarded.operator.outcome u x = judge (guarded.operator.result? u x) := by
  cases guarded <;> rfl

/-- The failure that is left is owed exactly where the guard does not cover the result. -/
theorem outcome_eq_otherFailure_iff :
    guarded.operator.outcome u x = .error guarded.otherFailure ↔
      ∃ exact, guarded.operator.result? u x = some exact ∧ ¬ guarded.Covers exact := by
  rw [outcome_operator]
  cases guarded with
  | sub => simp only [otherFailure, Covers, judge_eq_overflow_iff, Int.not_lt]
  | _ => simp only [otherFailure, Covers, judge_eq_underflow_iff, Int.not_le]

/-- A quotient does not leave the range at its upper end. -/
theorem failure_of_quotient {n : Int} {failure : Failure} (hn : x ≠ 0 → n ≤ u.toNat)
    (h : judge (if x = 0 then none else some n) = .error failure) :
    failure = .divisionByZero ∨ failure = .underflow := by
  by_cases hx : x = 0
  · rw [if_pos hx] at h
    exact .inl (Except.error.inj h).symm
  · rw [if_neg hx] at h
    rcases failure_of_judge h with hunder | ⟨-, hbig⟩
    · exact .inr hunder
    · have hle := hn hx
      have hlt := u.inRange_toNat.2
      omega

/-- There is no third kind of failure. -/
theorem failure_of_outcome {failure : Failure}
    (h : guarded.operator.outcome u x = .error failure) :
    failure = guarded.failure ∨ failure = guarded.otherFailure := by
  rw [outcome_operator] at h
  cases guarded with
  | add | mul =>
    rcases failure_of_judge h with hunder | ⟨hover, -⟩
    · exact .inr hunder
    · exact .inl hover
  | sub =>
    rcases failure_of_judge h with hunder | ⟨hover, -⟩
    · exact .inl hunder
    · exact .inr hover
  | div =>
    refine failure_of_quotient (u := u) (fun hx => ?_) h
    exact (Int.floor_mono (div_le_dividend u hx)).trans_eq (Int.floor_intCast _)
  | ceilDiv => exact failure_of_quotient (u := u) (fun hx => Int.ceil_le.2 (div_le_dividend u hx)) h

/-- An operand that is not negative leads to no result beyond the other end. -/
theorem covers_of_nonneg (hx : 0 ≤ x) {exact : Int}
    (h : guarded.operator.result? u x = some exact) : guarded.Covers exact := by
  obtain ⟨hu, hlt⟩ := u.inRange_toNat
  have hquotient : (0 : ℚ) ≤ ((u.toNat : Int) : ℚ) / x :=
    div_nonneg (by exact_mod_cast hu) (by exact_mod_cast hx)
  cases guarded with
  | add =>
    cases h
    exact Int.add_nonneg hu hx
  | sub =>
    cases h
    show (u.toNat : Int) - x < 2 ^ 256
    omega
  | mul =>
    cases h
    exact Int.mul_nonneg hu hx
  | div =>
    obtain ⟨-, hexact⟩ := Option.ite_none_left_eq_some.1 h
    cases hexact
    exact Int.floor_nonneg.2 hquotient
  | ceilDiv =>
    obtain ⟨-, hexact⟩ := Option.ite_none_left_eq_some.1 h
    cases hexact
    exact Int.ceil_nonneg hquotient

end Guarded

/-! ## Operands -/

theorem ofTruth_nonneg (value : Bool) : 0 ≤ Operand.ofTruth value := by
  cases value <;> decide

theorem seen_eq_error_iff {result : Except WideError Wide} {failure : Failure} :
    seen result = .error failure ↔ ∃ cause, result = .error cause ∧ cause.failure = failure := by
  cases result <;> simp [seen]

section Operands

variable {guarded : Guarded} {u : Wide} {x : Operand} {n : Int}

/-- The operator and its guarded form agree exactly where the guard covers the result. -/
theorem absorb_eq_toOption_iff_covers (u : Wide) (guarded : Guarded) (n : Int)
    {wrap : WideError → OperandError} (hwrap : Faithful wrap) :
    guarded.absorb ((u.apply guarded.operator n).mapError wrap)
        = .ok ((u.apply guarded.operator n).mapError wrap).toOption ↔
      ∀ exact, guarded.operator.result? u n = some exact → guarded.Covers exact := by
  rw [Guarded.absorb_eq_toOption_iff]
  constructor
  · intro hfails exact hexact
    by_contra hopen
    -- the failure that is left would be the one that is guarded against
    have howed := Guarded.outcome_eq_otherFailure_iff.2 ⟨exact, hexact, hopen⟩
    rw [← seen_apply, seen_eq_error_iff] at howed
    obtain ⟨cause, happly, hother⟩ := howed
    have hfailure := hfails (wrap cause) (by rw [happly]; rfl)
    rw [hwrap, hother, Option.some.injEq] at hfailure
    exact guarded.otherFailure_ne_failure hfailure
  · intro hcovers cause hcause
    cases happly : u.apply guarded.operator n with
    | ok w =>
      rw [happly] at hcause
      cases hcause
    | error inner =>
      rw [happly] at hcause
      cases hcause
      rw [hwrap, Option.some.injEq]
      have howed : guarded.operator.outcome u n = .error inner.failure := by
        rw [← seen_apply, happly]
        rfl
      rcases Guarded.failure_of_outcome howed with hfailure | hother
      · exact hfailure
      · rw [hother] at howed
        obtain ⟨exact, hexact, hopen⟩ := Guarded.outcome_eq_otherFailure_iff.1 howed
        exact absurd (hcovers exact hexact) hopen

/-- A guarded operator answers for every operand that is not negative. -/
theorem exists_applyGuarded_of_nonneg (u : Wide) (guarded : Guarded) (hn : 0 ≤ n) :
    ∃ r, u.applyGuarded guarded n = .ok r := by
  have hagree := (absorb_eq_toOption_iff_covers u guarded n faithful_range).2
    fun exact hexact => Guarded.covers_of_nonneg hn hexact
  rw [absorb_apply faithful_range] at hagree
  cases hresult : u.applyGuarded guarded n with
  | ok r => exact ⟨r, rfl⟩
  | error cause =>
    rw [hresult] at hagree
    cases hagree

/-- An operand that counts as an integer is calculated with as that integer, by an operator
whatever the operand's kind. -/
theorem exists_applyOperand_eq_mapError (u : Wide) (guarded : Guarded)
    (hx : x.toInt? = some n) : ∃ wrap, Faithful wrap ∧
      u.applyOperand guarded.operator x = (u.apply guarded.operator n).mapError wrap := by
  cases x with
  | integer value =>
    cases hx
    exact ⟨.range, faithful_range, rfl⟩
  | wide value =>
    cases hx
    exact ⟨.range, faithful_range, rfl⟩
  | truth value =>
    cases hx
    refine ⟨(.truthRange · value), faithful_truthRange value, ?_⟩
    cases guarded <;> rfl
  | _ => cases hx

/-- A fraction leads to a guarded failure exactly where its kind is guarded against. -/
theorem isGuarded_iff_of_applyFraction {value : Double} {cause : OperandError}
    (h : u.applyFraction guarded.operator value = .error cause) :
    isGuarded cause ↔ cause.failure? = some guarded.failure := by
  cases guarded <;> simp only [Guarded.operator, applyFraction] at h <;> split at h <;> cases h <;>
    simp [isGuarded, OperandError.failure?, Guarded.failure, WideError.failure]

theorem failure?_refuseRepeated (kind : ValueKind) (length : Nat) :
    (u.refuseRepeated kind length).failure? = none := by
  unfold refuseRepeated
  split
  · rfl
  · split
    · rfl
    · split <;> rfl

/-- A value that is no number is refused alike with and without a guard. -/
theorem absorb_refuse (x : Operand) : guarded.absorb (.error (u.refuse guarded.operator x))
    = .error (u.refuse guarded.operator x) := by
  have hnone : (u.refuse guarded.operator x).failure? = none := by
    cases guarded with
    | mul =>
      cases x with
      | text value => exact failure?_refuseRepeated _ _
      | emptyList => exact failure?_refuseRepeated _ _
      | _ => rfl
    | _ => rfl
  simp [Guarded.absorb, hnone]

/-- A guarded operator is the operator with an absence in place of one failure, whatever the
operand. -/
theorem applyGuardedOperand_eq (u : Wide) (guarded : Guarded) (x : Operand) :
    u.applyGuardedOperand guarded x = guarded.absorb (u.applyOperand guarded.operator x) := by
  cases x with
  | integer value => exact (absorb_apply faithful_range u value).symm
  | wide value => exact (absorb_apply faithful_range u value).symm
  | truth value =>
    obtain ⟨wrap, hwrap, happly⟩ := exists_applyOperand_eq_mapError u guarded
      (rfl : (Operand.truth value).toInt? = some (Operand.ofTruth value))
    obtain ⟨r, hr⟩ := exists_applyGuarded_of_nonneg u guarded (ofTruth_nonneg value)
    rw [happly, absorb_apply hwrap, hr]
    show (u.applyGuarded guarded (Operand.ofTruth value)).mapError OperandError.range = .ok r
    rw [hr]
    rfl
  | fraction value =>
    show (match u.applyFraction guarded.operator value with
      | .ok w => Except.ok (some w)
      | .error cause => if isGuarded cause then .ok none else .error cause)
        = guarded.absorb (u.applyFraction guarded.operator value)
    cases hresult : u.applyFraction guarded.operator value with
    | ok w => rfl
    | error cause => simp only [Guarded.absorb, isGuarded_iff_of_applyFraction hresult]
  | text value => exact (absorb_refuse _).symm
  | null => exact (absorb_refuse _).symm
  | emptyList => exact (absorb_refuse _).symm

/-- With and without a guard an integer leads to the same, except for what is guarded
against, exactly where the guard covers the exact result. -/
theorem applyGuardedOperand_eq_toOption_iff (hx : x.toInt? = some n) :
    u.applyGuardedOperand guarded x = .ok (u.applyOperand guarded.operator x).toOption ↔
      ∀ exact, guarded.operator.result? u n = some exact → guarded.Covers exact := by
  obtain ⟨wrap, hwrap, happly⟩ := exists_applyOperand_eq_mapError u guarded hx
  rw [applyGuardedOperand_eq, happly]
  exact absorb_eq_toOption_iff_covers u guarded n hwrap

/-- Where the guard does not cover the exact result, the failure of the operator goes past
it, in words. -/
theorem exists_applyGuardedOperand_eq_error (hx : x.toInt? = some n) (hn : n.natAbs < 10 ^ 4000)
    {exact : Int} (hexact : guarded.operator.result? u n = some exact)
    (hopen : ¬ guarded.Covers exact) :
    ∃ cause, u.applyGuardedOperand guarded x = .error cause ∧
      u.applyOperand guarded.operator x = .error cause ∧
      cause.failure? = some guarded.otherFailure ∧ cause.told = .ok cause.message := by
  have howed := Guarded.outcome_eq_otherFailure_iff.2 ⟨exact, hexact, hopen⟩
  have hwhole : x.Whole n := by
    cases x with
    | integer value =>
      cases hx
      exact .integer _
    | wide value =>
      cases hx
      exact .wide _
    | truth value =>
      cases hx
      -- a truth value is no negative number, so it is covered
      exact absurd (Guarded.covers_of_nonneg (ofTruth_nonneg value) hexact) hopen
    | _ => cases hx
  obtain ⟨cause, happly, hfailure, htold⟩ := exists_applyOperand_eq_error hwhole hn howed
  refine ⟨cause, ?_, happly, hfailure, htold⟩
  have hne : ¬ some guarded.otherFailure = some guarded.failure := by
    simp [guarded.otherFailure_ne_failure]
  rw [applyGuardedOperand_eq, happly, Guarded.absorb, hfailure, if_neg hne]

end Operands

/-! ## Every guard -/

/-- A guarded operator is the operator with an absence in place of the failure that is guarded
against, and nothing else is changed, whatever the operand. So for an operand that counts as an
integer it never fails, and is absent exactly where the operator fails, if and only if the exact
result does not lie beyond the other end of the range. That is so for every operand that is not
negative. Beyond the other end both fail alike. -/
theorem guarded_outcome (u : Wide) (guarded : Guarded) (x : Operand) :
    u.applyGuardedOperand guarded x = guarded.absorb (u.applyOperand guarded.operator x) ∧
      ∀ n, x.toInt? = some n →
        (u.applyGuardedOperand guarded x = .ok (u.applyOperand guarded.operator x).toOption ↔
          ∀ exact, guarded.operator.result? u n = some exact → guarded.Covers exact) ∧
        (0 ≤ n →
          u.applyGuardedOperand guarded x = .ok (u.applyOperand guarded.operator x).toOption) ∧
        ∀ exact, guarded.operator.result? u n = some exact → ¬ guarded.Covers exact →
          n.natAbs < 10 ^ 4000 →
          ∃ cause, u.applyGuardedOperand guarded x = .error cause ∧
            u.applyOperand guarded.operator x = .error cause ∧
            cause.failure? = some guarded.otherFailure ∧ cause.told = .ok cause.message := by
  refine ⟨applyGuardedOperand_eq u guarded x, fun n hx => ⟨?_, fun hn => ?_, ?_⟩⟩
  · exact applyGuardedOperand_eq_toOption_iff hx
  · exact (applyGuardedOperand_eq_toOption_iff hx).2 fun exact => Guarded.covers_of_nonneg hn
  · intro exact hexact hopen hn
    exact exists_applyGuardedOperand_eq_error hx hn hexact hopen

/-- From 7, `2 ^ 256` cannot be added, and -8 can be divided by upwards; the guarded operators
answer nothing and zero. With -8 added the sum is negative, and the guard does not help. -/
theorem guarded_outcome_seven :
    let u : Wide := ⟨7, by decide⟩
    let zero : Wide := ⟨0, by decide⟩
    ((Operand.integer (2 ^ 256)).toInt? = some (2 ^ 256) ∧ (0 : Int) ≤ 2 ^ 256 ∧
      u.applyGuardedOperand .add (.integer (2 ^ 256)) = .ok none) ∧
    ((Operand.integer (-8)).toInt? = some (-8) ∧
      u.applyGuardedOperand .ceilDiv (.integer (-8)) = .ok (some zero)) ∧
    (Guarded.add.operator.result? u (-8) = some (-1) ∧ ¬ Guarded.add.Covers (-1) ∧
      (-8 : Int).natAbs < 10 ^ 4000 ∧
      ∃ cause, u.applyGuardedOperand .add (.integer (-8)) = .error cause ∧
        u.applyOperand .add (.integer (-8)) = .error cause ∧
        cause.failure? = some .underflow ∧ cause.told = .ok cause.message) := by
  intro u zero
  obtain ⟨-, hwide⟩ := guarded_outcome u .add (.integer (2 ^ 256))
  obtain ⟨hceil, -⟩ := guarded_outcome u .ceilDiv (.integer (-8))
  obtain ⟨-, hsum⟩ := guarded_outcome u .add (.integer (-8))
  have habsent : (u.applyOperand .add (.integer (2 ^ 256))).toOption = none := by decide +kernel
  have hzero : u.applyOperand .ceilDiv (.integer (-8)) = .ok zero := by decide +kernel
  have hopen : ¬ Guarded.add.Covers (-1) := by simp [Guarded.Covers]
  have hsmall : (-8 : Int).natAbs < 10 ^ 4000 := by decide +kernel
  refine ⟨⟨rfl, by decide +kernel, ?_⟩, ⟨rfl, ?_⟩, rfl, hopen, hsmall, ?_⟩
  · rw [← habsent]
    exact (hwide _ rfl).2.1 (by decide +kernel)
  · rw [hceil]
    show Guarded.ceilDiv.absorb (u.applyOperand .ceilDiv (.integer (-8))) = _
    rw [hzero]
    rfl
  · exact (hsum _ rfl).2.2 (-1) rfl hopen hsmall

/-- A guarded operator may fail: a negative number is added to one. -/
theorem guarded_may_fail :
    ¬ ∀ (u : Wide) (guarded : Guarded) (x : Operand) (n : Int), x.Whole n → n.natAbs < 10 ^ 4000 →
      u.applyGuardedOperand guarded x = .ok (u.applyOperand guarded.operator x).toOption := by
  intro h
  have hagree := h ⟨1, by decide⟩ .add (.integer (-2)) (-2) (.integer _) (by decide +kernel)
  have hfails : Wide.applyGuardedOperand ⟨1, by decide⟩ .add (.integer (-2))
      = .error (.range (.negative (-1))) := rfl
  rw [hfails] at hagree
  cases hagree

end PegPool.Wide
