import PegPool.Wide

/-!
# Operators on wide amounts

Each operator has a result for an integer on its other side, or a cause why it
has none. Five of them also come guarded: they answer `none` for the failure
that they guard against.
-/

namespace PegPool.Wide

/-- An operator whose result is a wide amount. -/
inductive Operator where
  | add
  | sub
  | mul
  | div
  | mod
  | ceilDiv
  | min
  | subFrom
  | divInto
  deriving DecidableEq, Repr

/-- The sign that stands for an operator in complaints. -/
def Operator.symbol : Operator → String
  | add => "+"
  | sub | subFrom => "-"
  | mul => "*"
  | div | divInto => "//"
  | mod => "%"
  | ceilDiv => "divmod()"
  | min => "<"

/-- The result of an operator. -/
def apply (u : Wide) (operator : Operator) (x : Int) : Except WideError Wide :=
  match operator with
  | .add => u.add x
  | .sub => u.sub x
  | .mul => u.mul x
  | .div => u.div x
  | .mod => u.mod x
  | .ceilDiv => u.ceilDiv x
  | .min => u.min x
  | .subFrom => u.subFrom x
  | .divInto => u.divInto x

/-- An operator that guards against one failure. -/
inductive Guarded where
  | add
  | sub
  | mul
  | div
  | ceilDiv
  deriving DecidableEq, Repr

/-- The operator without its guard. -/
def Guarded.operator : Guarded → Operator
  | add => .add
  | sub => .sub
  | mul => .mul
  | div => .div
  | ceilDiv => .ceilDiv

/-- The result of a guarded operator. -/
def applyGuarded (u : Wide) (guarded : Guarded) (x : Int) : Except WideError (Option Wide) :=
  match guarded with
  | .add => u.add? x
  | .sub => u.sub? x
  | .mul => u.mul? x
  | .div => u.div? x
  | .ceilDiv => u.ceilDiv? x

/-- A comparison. -/
inductive Relation where
  | lt
  | le
  | gt
  | ge
  deriving DecidableEq, Repr

namespace Relation

/-- The sign that stands for a comparison in complaints. -/
def symbol : Relation → String
  | lt => "<"
  | le => "<="
  | gt => ">"
  | ge => ">="

/-- The comparison holds between two values in this order. -/
def holds : Relation → Ordering → Bool
  | lt, order => order.isLT
  | le, order => order.isLE
  | gt, order => order.isGT
  | ge, order => order.isGE

end Relation

end PegPool.Wide
