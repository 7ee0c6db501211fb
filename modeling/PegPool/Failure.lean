import PegPool.Wide

/-!
# Kinds of failure

Failures are grouped: a kind may belong to a broader one, and a caller may
treat all kinds of a group alike. The two widest groups are failures of curve
operations and failures of wide arithmetic.
-/

namespace PegPool

/-- A kind of failure. -/
inductive Failure where
  | swapError
  | invalidCurve
  | emptySupply
  | missingTimestamp
  | calculationFailure
  | rateDurationExceeded
  | invalidRho
  | rhoInFuture
  | rhoDecreased
  | invalidSsr
  | ssrBelowRay
  | ssrAboveMax
  | invalidChi
  | chiDecreased
  | chiGrowthExceeded
  | invalidCurveData
  | invalidCurveType
  | wideIntError
  | divisionByZero
  | underflow
  | overflow
  deriving DecidableEq, Repr

namespace Failure

/-- All kinds. -/
def all : List Failure :=
  [swapError, invalidCurve, emptySupply, missingTimestamp, calculationFailure,
    rateDurationExceeded, invalidRho, rhoInFuture, rhoDecreased, invalidSsr, ssrBelowRay,
    ssrAboveMax, invalidChi, chiDecreased, chiGrowthExceeded, invalidCurveData,
    invalidCurveType, wideIntError, divisionByZero, underflow, overflow]

/-- The name of a kind in reports. -/
def name : Failure → String
  | swapError => "SwapError"
  | invalidCurve => "InvalidCurve"
  | emptySupply => "EmptySupply"
  | missingTimestamp => "MissingTimestamp"
  | calculationFailure => "CalculationFailure"
  | rateDurationExceeded => "RateDurationExceeded"
  | invalidRho => "InvalidRho"
  | rhoInFuture => "RhoInFuture"
  | rhoDecreased => "RhoDecreased"
  | invalidSsr => "InvalidSsr"
  | ssrBelowRay => "SsrBelowRay"
  | ssrAboveMax => "SsrAboveMax"
  | invalidChi => "InvalidChi"
  | chiDecreased => "ChiDecreased"
  | chiGrowthExceeded => "ChiGrowthExceeded"
  | invalidCurveData => "InvalidCurveData"
  | invalidCurveType => "InvalidCurveType"
  | wideIntError => "WideIntError"
  | divisionByZero => "DivisionByZero"
  | underflow => "Underflow"
  | overflow => "Overflow"

/-- The kind with a given name. -/
def ofName? (text : String) : Option Failure :=
  all.find? (·.name = text)

/-- The group that a kind belongs to. -/
def group? : Failure → Option Failure
  | swapError | wideIntError => none
  | rhoInFuture | rhoDecreased => some invalidRho
  | ssrBelowRay | ssrAboveMax => some invalidSsr
  | chiDecreased | chiGrowthExceeded => some invalidChi
  | divisionByZero | underflow | overflow => some wideIntError
  | _ => some swapError

/-- A kind and the groups that hold it, from the narrowest on. Groups are
nested at most twice. -/
def lineage (kind : Failure) : List Failure :=
  match kind.group? with
  | none => [kind]
  | some group => kind :: group :: group.group?.toList

theorem mem_all (kind : Failure) : kind ∈ all := by
  cases kind <;> decide

end Failure

/-- The kind of each cause for which wide arithmetic has no result. -/
def WideError.failure : WideError → Failure
  | negative _ | differenceNegative _ _ => .underflow
  | tooWide _ | sumTooWide _ _ | productTooWide _ _ | notNarrow _ => .overflow
  | divisionByZero _ | remainderByZero _ | roundedUpDivisionByZero _ => .divisionByZero

end PegPool
