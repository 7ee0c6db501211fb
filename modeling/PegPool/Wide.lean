import PegPool.Limits

/-!
# Wide amounts

A wide amount is a natural number of at most 256 bits. Every operation
computes the exact integer first and then either returns it as a wide amount
or names the reason why it has none; nothing ever wraps. The right operand is
any integer, so it may be negative or wider than 256 bits.
-/

namespace PegPool

/-- A natural number of at most 256 bits. -/
structure Wide where
  toNat : Nat
  toNat_le : toNat ≤ wideMax
  deriving DecidableEq

/-- Why an operation on wide amounts has no result. -/
inductive WideError where
  | negative (value : Int)
  | tooWide (value : Int)
  | sumTooWide (left : Nat) (right : Int)
  | productTooWide (left : Nat) (right : Int)
  | differenceNegative (left : Nat) (right : Int)
  | divisionByZero (dividend : Nat)
  | remainderByZero (dividend : Nat)
  | roundedUpDivisionByZero (dividend : Nat)
  | notNarrow (value : Nat)
  deriving DecidableEq, Repr

namespace WideError

/-- The wording of each cause, in which `write` writes the right operand. -/
def messageWith (write : Int → String) : WideError → String
  | negative value => s!"Negative value cannot be uint256: {value}"
  | tooWide value => s!"Value exceeds uint256 max: {value}"
  | sumTooWide left right => s!"Overflow: {left} + {write right}"
  | productTooWide left right => s!"Overflow: {left} * {write right}"
  | differenceNegative left right =>
    s!"Underflow: {left} - {write right} = {(left : Int) - right}"
  | divisionByZero dividend => s!"Division by zero: {dividend} // 0"
  | remainderByZero dividend => s!"Modulo by zero: {dividend} % 0"
  | roundedUpDivisionByZero dividend => s!"Ceiling division by zero: {dividend}"
  | notNarrow value => s!"Value exceeds u128 max: {value}"

/-- The wording of each cause. -/
def message (cause : WideError) : String := cause.messageWith fun right => toString right

/-- The integers that the wording of a cause tells. -/
def integers : WideError → List Int
  | negative value | tooWide value => [value]
  | sumTooWide left right | productTooWide left right => [left, right]
  | differenceNegative left right => [left, right, left - right]
  | divisionByZero dividend | remainderByZero dividend
  | roundedUpDivisionByZero dividend => [dividend]
  | notNarrow value => [value]

end WideError

namespace Wide

instance : Coe Wide Int := ⟨fun u => u.toNat⟩

@[ext] theorem ext {u v : Wide} (h : u.toNat = v.toNat) : u = v := by
  cases u; cases v; cases h; rfl

/-- The written form of a wide amount. -/
def describe (u : Wide) : String := s!"U256({u.toNat})"

/-! ## Range check -/

/-- The wide amount equal to an integer. -/
def ofInt (value : Int) : Except WideError Wide :=
  if value < 0 then .error (.negative value)
  else if h : value.toNat ≤ wideMax then .ok ⟨value.toNat, h⟩
  else .error (.tooWide value)

theorem ofInt_eq_ok_iff {value : Int} {u : Wide} :
    ofInt value = .ok u ↔ (u.toNat : Int) = value := by
  have hu := u.toNat_le
  unfold ofInt
  split
  · simp only [reduceCtorEq, false_iff]
    omega
  · split
    · simp only [Except.ok.injEq, Wide.ext_iff]
      omega
    · simp only [reduceCtorEq, false_iff]
      omega

/-- The same number as an answer of at most 128 bits, if it is that small. -/
def toNarrow? (u : Wide) : Option Nat :=
  if u.toNat ≤ narrowMax then some u.toNat else none

/-- The same number as an answer of at most 128 bits. -/
def narrow (u : Wide) : Except WideError Nat :=
  match u.toNarrow? with
  | some value => .ok value
  | none => .error (.notNarrow u.toNat)

theorem narrow_eq_ok_iff {u : Wide} {n : Nat} :
    u.narrow = .ok n ↔ u.toNat = n ∧ n ≤ narrowMax := by
  unfold narrow toNarrow?
  split <;> rename_i h <;> split at h <;> simp_all <;> omega

/-! ## Arithmetic -/

/-- The exact sum. -/
def add (u : Wide) (x : Int) : Except WideError Wide :=
  if (wideMax : Int) < u + x then .error (.sumTooWide u.toNat x) else ofInt (u + x)

/-- The exact difference. -/
def sub (u : Wide) (x : Int) : Except WideError Wide :=
  if (u : Int) - x < 0 then .error (.differenceNegative u.toNat x) else ofInt (u - x)

/-- The exact product. -/
def mul (u : Wide) (x : Int) : Except WideError Wide :=
  if (wideMax : Int) < u * x then .error (.productTooWide u.toNat x) else ofInt (u * x)

/-- The quotient, rounded towards minus infinity. -/
def div (u : Wide) (x : Int) : Except WideError Wide :=
  if x = 0 then .error (.divisionByZero u.toNat) else ofInt (Int.fdiv u x)

/-- What the rounded quotient leaves over; it has the sign of the divisor. -/
def mod (u : Wide) (x : Int) : Except WideError Wide :=
  if x = 0 then .error (.remainderByZero u.toNat) else ofInt (Int.fmod u x)

/-- The quotient, rounded towards plus infinity. It is formed from the floor
and the remainder, so no sum larger than the result arises. -/
def ceilDiv (u : Wide) (x : Int) : Except WideError Wide :=
  if x = 0 then .error (.roundedUpDivisionByZero u.toNat)
  else if Int.fmod u x = 0 then ofInt (Int.fdiv u x)
  else ofInt (Int.fdiv u x + 1)

/-- The smaller of the two numbers. -/
def min (u : Wide) (x : Int) : Except WideError Wide :=
  ofInt (if x < u then x else u)

/-- The exact difference with the wide amount on the right. -/
def subFrom (u : Wide) (x : Int) : Except WideError Wide := do
  (← ofInt x).sub u

/-- The quotient with the wide amount on the right. -/
def divInto (u : Wide) (x : Int) : Except WideError Wide := do
  (← ofInt x).div u

/-! The exact result decides: an operation succeeds with a number exactly when
that number is the result over the integers. -/

theorem add_eq_ok_iff {u w : Wide} {x : Int} :
    u.add x = .ok w ↔ (w.toNat : Int) = u.toNat + x := by
  have hw := w.toNat_le
  unfold add
  split
  · simp only [reduceCtorEq, false_iff]
    omega
  · exact ofInt_eq_ok_iff

theorem sub_eq_ok_iff {u w : Wide} {x : Int} :
    u.sub x = .ok w ↔ (w.toNat : Int) = u.toNat - x := by
  unfold sub
  split
  · simp only [reduceCtorEq, false_iff]
    omega
  · exact ofInt_eq_ok_iff

theorem mul_eq_ok_iff {u w : Wide} {x : Int} :
    u.mul x = .ok w ↔ (w.toNat : Int) = u.toNat * x := by
  have hw := w.toNat_le
  unfold mul
  split
  · simp only [reduceCtorEq, false_iff]
    omega
  · exact ofInt_eq_ok_iff

theorem div_eq_ok_iff {u w : Wide} {x : Int} :
    u.div x = .ok w ↔ x ≠ 0 ∧ (w.toNat : Int) = Int.fdiv u.toNat x := by
  unfold div
  split
  · simp [*]
  · simp [*, ofInt_eq_ok_iff]

theorem mod_eq_ok_iff {u w : Wide} {x : Int} :
    u.mod x = .ok w ↔ x ≠ 0 ∧ (w.toNat : Int) = Int.fmod u.toNat x := by
  unfold mod
  split
  · simp [*]
  · simp [*, ofInt_eq_ok_iff]

theorem min_eq_ok_iff {u w : Wide} {x : Int} :
    u.min x = .ok w ↔ (w.toNat : Int) = if x < u.toNat then x else u.toNat :=
  ofInt_eq_ok_iff

/-! ## Arithmetic with absence

Each operation answers `none` for the one failure that it guards against. The
range check that follows can still fail for another reason, for instance when
a negative number is added. -/

/-- The exact sum, `none` if it is too wide. -/
def add? (u : Wide) (x : Int) : Except WideError (Option Wide) :=
  if (wideMax : Int) < u + x then .ok none else some <$> ofInt (u + x)

/-- The exact difference, `none` if it is negative. -/
def sub? (u : Wide) (x : Int) : Except WideError (Option Wide) :=
  if (u : Int) - x < 0 then .ok none else some <$> ofInt (u - x)

/-- The exact product, `none` if it is too wide. -/
def mul? (u : Wide) (x : Int) : Except WideError (Option Wide) :=
  if (wideMax : Int) < u * x then .ok none else some <$> ofInt (u * x)

/-- The quotient rounded down, `none` for a zero divisor. -/
def div? (u : Wide) (x : Int) : Except WideError (Option Wide) :=
  if x = 0 then .ok none else some <$> ofInt (Int.fdiv u x)

/-- The quotient rounded up, `none` for a zero divisor. -/
def ceilDiv? (u : Wide) (x : Int) : Except WideError (Option Wide) :=
  if x = 0 then .ok none else some <$> u.ceilDiv x

end Wide

end PegPool
