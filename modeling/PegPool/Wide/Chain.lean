import PegPool.Wide.Operator

/-!
# Chains of wide operations

Operations are applied one after the other to a wide amount; the first that
has no result ends the chain.
-/

namespace PegPool.Wide

/-- An operator with the integer on its other side. -/
structure Operation where
  operator : Operator
  operand : Int
  deriving DecidableEq, Repr

/-- The result of a chain of operations. -/
def applyAll (u : Wide) (operations : List Operation) : Except WideError Wide :=
  operations.foldlM (fun v operation => v.apply operation.operator operation.operand) u

end PegPool.Wide
