import PegPool.Decimal.Arithmetic
import PegPool.Decimal.Shortest
import PegPool.Failure
import PegPool.Text.Written
import PegPool.Value
import PegPool.Wide.Operator

/-!
# Operands of any kind

On the other side of an operator may stand any value. An integer is taken as it
is, a truth value counts as one or zero, and a fraction is calculated with but
never makes a wide amount. Every other value is refused, first by what the
operator itself asks of it.
-/

namespace PegPool

/-- A value on the other side of an operator. -/
inductive Operand where
  | integer (value : Int)
  | wide (value : Wide)
  | truth (value : Bool)
  | fraction (value : Double)
  | text (value : String)
  | null
  | emptyList
  deriving DecidableEq

namespace Operand

/-- What kind of value an operand is. -/
def kind : Operand → ValueKind
  | integer _ => .integer
  | wide _ => .wide
  | truth _ => .bool
  | fraction _ => .float
  | text _ => .text
  | null => .null
  | emptyList => .list

/-- The operand as a value that is offered where an integer is expected. -/
def offered : Operand → Offered
  | integer value => .integer value
  | operand => .other operand.kind

/-- The integer that a truth value counts as. -/
def ofTruth (value : Bool) : Int := if value then 1 else 0

/-- The integer that an operand counts as, if it is one. -/
def toInt? : Operand → Option Int
  | integer value => some value
  | wide value => some value
  | truth value => some (ofTruth value)
  | _ => none

end Operand

/-- Why an operator has no result for an operand. -/
inductive OperandError where
  /-- Only an integer makes a wide amount. -/
  | notAnInteger (kind : ValueKind)
  /-- The operator does not take such a value at all. -/
  | kinds (cause : KindError)
  /-- The exact result for an integer is out of range. -/
  | range (cause : WideError)
  /-- The exact result for a truth value is out of range. -/
  | truthRange (cause : WideError) (operand : Bool)
  | sumTooWide (left : Nat) (right : Double)
  | productTooWide (left : Nat) (right : Double)
  | differenceNegative (left : Nat) (right difference : Double)
  /-- No sequence is repeated so often. -/
  | countTooLarge
  /-- No text has so many characters. -/
  | textTooLong
  /-- There is no room for so many characters. -/
  | noRoom
  deriving DecidableEq, Repr

namespace OperandError

/-- The wording of each cause. -/
def message : OperandError → String
  | notAnInteger kind => (OfferError.notAnInteger kind).message
  | kinds cause => cause.message
  | range cause => cause.message
  | truthRange cause operand => cause.messageWith fun _ => truthWord operand
  | sumTooWide left right => s!"Overflow: {left} + {right.text}"
  | productTooWide left right => s!"Overflow: {left} * {right.text}"
  | differenceNegative left right difference =>
    s!"Underflow: {left} - {right.text} = {difference.text}"
  | countTooLarge => "cannot fit 'int' into an index-sized integer"
  | textTooLong => "repeated string is too long"
  | noRoom => ""

/-- The wording of each cause, or the complaint about an integer in it. -/
def told (cause : OperandError) : Except String String :=
  match cause with
  | range cause => Text.tell cause.integers cause.message
  | cause => .ok cause.message

/-- The kind of failure, where the result is out of range. -/
def failure? : OperandError → Option Failure
  | range cause | truthRange cause _ => some cause.failure
  | sumTooWide _ _ | productTooWide _ _ => some .overflow
  | differenceNegative _ _ _ => some .underflow
  | _ => none

end OperandError

namespace Wide

/-! ## Truth values -/

/-- The result for a truth value. It makes no wide amount by itself, so it can
neither be the smaller number nor stand before the operator. -/
def applyTruth (u : Wide) (operator : Operator) (value : Bool) : Except OperandError Wide :=
  let x := Operand.ofTruth value
  match operator with
  | .subFrom | .divInto => .error (.notAnInteger .bool)
  | .min => if x < u then .error (.notAnInteger .bool) else .ok u
  | operator => (u.apply operator x).mapError (.truthRange · value)

/-! ## Fractions -/

/-- The result for a fraction: none, unless the wide amount is the smaller of
the two. The sum, the difference and the product are compared with the limits
first, and a divisor with zero. -/
def applyFraction (u : Wide) (operator : Operator) (x : Double) : Except OperandError Wide :=
  let left := Double.ofNat u.toNat
  let refused := .error (.notAnInteger .float)
  match operator with
  | .add => if (left.add x).gtInt wideMax then .error (.sumTooWide u.toNat x) else refused
  | .sub =>
    let difference := left.sub x
    if difference.ltInt 0 then .error (.differenceNegative u.toNat x difference) else refused
  | .mul => if (left.mul x).gtInt wideMax then .error (.productTooWide u.toNat x) else refused
  | .div => if x.isZero then .error (.range (.divisionByZero u.toNat)) else refused
  | .mod => if x.isZero then .error (.range (.remainderByZero u.toNat)) else refused
  | .ceilDiv =>
    if x.isZero then .error (.range (.roundedUpDivisionByZero u.toNat)) else refused
  | .min => if x.ltInt u then refused else .ok u
  | .subFrom | .divInto => refused

/-- Whether a guarded operator answers `none` for what a fraction leads to. -/
def isGuarded : OperandError → Bool
  | .sumTooWide .. | .differenceNegative .. | .productTooWide .. | .range _ => true
  | _ => false

/-! ## Values that are no numbers -/

/-- The most often that a sequence is repeated, and the most characters of a
text. -/
def sequenceMax : Nat := Nat.pow 2 63 - 1

/-- The most characters for which there is room. -/
def roomMax : Nat := Nat.pow 2 40

/-- Why a sequence has no product: it is repeated as often as told, and the
outcome has no order with numbers. -/
def refuseRepeated (u : Wide) (kind : ValueKind) (length : Nat) : OperandError :=
  if sequenceMax < u.toNat then .countTooLarge
  else if sequenceMax < u.toNat * length then .textTooLong
  else if roomMax < u.toNat * length then .noRoom
  else .kinds (.unordered ">" kind .integer)

/-- Why an operator has no result for a value that is no number. -/
def refuse (u : Wide) (operator : Operator) (x : Operand) : OperandError :=
  match operator, x with
  | .subFrom, x | .divInto, x => .notAnInteger x.kind
  | .min, x => .kinds (.unordered operator.symbol x.kind .integer)
  | .mul, .text value => u.refuseRepeated x.kind value.length
  | .mul, .emptyList => u.refuseRepeated x.kind 0
  | operator, x => .kinds (.noOperator operator.symbol .integer x.kind)

/-! ## All operands -/

/-- The result of an operator for an operand of any kind. -/
def applyOperand (u : Wide) (operator : Operator) (x : Operand) : Except OperandError Wide :=
  match x with
  | .integer value => (u.apply operator value).mapError .range
  | .wide value => (u.apply operator value).mapError .range
  | .truth value => u.applyTruth operator value
  | .fraction value => u.applyFraction operator value
  | x => .error (u.refuse operator x)

/-- The result of a guarded operator for an operand of any kind. -/
def applyGuardedOperand (u : Wide) (guarded : Guarded) (x : Operand) :
    Except OperandError (Option Wide) :=
  match x.toInt?, x with
  | some value, _ => (u.applyGuarded guarded value).mapError .range
  | none, .fraction value =>
    match u.applyFraction guarded.operator value with
    | .ok w => .ok (some w)
    | .error cause => if isGuarded cause then .ok none else .error cause
  | none, x => .error (u.refuse guarded.operator x)

/-- Whether a comparison holds with an operand of any kind. -/
def compareOperand (u : Wide) (relation : Relation) (x : Operand) : Except OperandError Bool :=
  match x.toInt?, x with
  | some value, _ => .ok (relation.holds (compare (u : Int) value))
  | none, .fraction value =>
    .ok ((value.compareInt u).any fun order => relation.holds order.swap)
  | none, x => .error (.kinds (.unordered relation.symbol .integer x.kind))

/-- Whether a wide amount equals an operand of any kind. A fraction never does,
nor does a value that is no number. -/
def equalsOperand (u : Wide) (x : Operand) : Bool := x.toInt? == some (u : Int)

end Wide

end PegPool
