import PegPool.Failure
import PegPool.Parameters.Problem
import PegPool.Text.Written

/-!
# Why a curve operation fails

Every operation on a curve that can fail names one of these causes. Each
cause has a kind, by which callers tell failures apart, and a wording.
-/

namespace PegPool

/-- Why an operation on a curve has no result. -/
inductive CurveError where
  /-- A fixed price of zero. -/
  | zeroPrice
  /-- The price depends on the time, and none was given. -/
  | noTimestamp
  /-- The unit of the index is zero. -/
  | zeroRay
  /-- The index has no value at this time. -/
  | noProjection (timestamp : Int)
  /-- The index is zero. -/
  | zeroConversionRate
  /-- The last checkpoint lies further back than the bound. -/
  | durationExceeded (bound : Int)
  /-- A new pool without any of token A. -/
  | noTokenA
  | rhoInFuture (rho now : Int)
  | ssrBelowRay (ssr : Int) (ray : Nat)
  | ssrAboveMax (ssr : Int) (maxSsr : Nat)
  | rhoDecreased (rho : Int) (last : Nat)
  | chiDecreased (chi : Int) (last : Nat)
  /-- The greatest growth over this many seconds is too wide. -/
  | growthTooWide (seconds : Int)
  | chiGrowthExceeded (chi : Int) (greatest : Nat)
  /-- A field of a record that is no integer. -/
  | fieldKind (field : String) (kind : ValueKind)
  /-- A field of a record that is not narrow. -/
  | fieldRange (field : String) (value : Int)
  /-- Fewer bytes than a record has. -/
  | tooShort (needed : Int) (size : Nat)
  /-- The first byte of a record is the tag of no kind. -/
  | unknownTag (tag : Nat)
  /-- The tag named beside a record is not the one of its kind. -/
  | tagMismatch (kind : CurveKind) (named : NamedTag)
  /-- The curve has no index. -/
  | noRate (kind : CurveKind)
  /-- Parameters that do not describe a curve. -/
  | badParameters (problems : List Problem)
  deriving DecidableEq, Repr

namespace CurveError

/-- The kind of each cause. -/
def failure : CurveError → Failure
  | zeroPrice | zeroRay | zeroConversionRate => .invalidCurve
  | noTimestamp => .missingTimestamp
  | noProjection _ | growthTooWide _ => .calculationFailure
  | durationExceeded _ => .rateDurationExceeded
  | noTokenA => .emptySupply
  | rhoInFuture _ _ => .rhoInFuture
  | ssrBelowRay _ _ => .ssrBelowRay
  | ssrAboveMax _ _ => .ssrAboveMax
  | rhoDecreased _ _ => .rhoDecreased
  | chiDecreased _ _ => .chiDecreased
  | chiGrowthExceeded _ _ => .chiGrowthExceeded
  | fieldKind _ _ | fieldRange _ _ | tooShort _ _ | badParameters _ => .invalidCurveData
  | unknownTag _ | tagMismatch _ _ | noRate _ => .invalidCurveType

/-- The wording of each cause. -/
def message : CurveError → String
  | zeroPrice => "Constant price curve has a zero token B price"
  | noTimestamp => "Redemption rate curve requires a timestamp"
  | zeroRay => "Redemption rate curve has a zero ray"
  | noProjection timestamp => s!"Cannot project conversion rate to {timestamp}"
  | zeroConversionRate => "Redemption rate curve has a zero conversion rate"
  | durationExceeded bound => s!"More than {bound}s since the last checkpoint"
  | noTokenA => "Pool requires a non-zero token A supply"
  | rhoInFuture rho now => s!"rho {rho} is after current timestamp {now}"
  | ssrBelowRay ssr ray => s!"ssr {ssr} is below ray {ray}"
  | ssrAboveMax ssr maxSsr => s!"ssr {ssr} exceeds max_ssr {maxSsr}"
  | rhoDecreased rho last => s!"rho {rho} is before last checkpoint {last}"
  | chiDecreased chi last => s!"chi {chi} is below last index {last}"
  | growthTooWide seconds => s!"max_ssr growth over {seconds}s overflows uint256"
  | chiGrowthExceeded chi greatest => s!"chi {chi} exceeds max reachable {greatest}"
  | fieldKind field kind => s!"{field} must be an int, got {kind.name}"
  | fieldRange field value => s!"{field} out of u128 range: {value}"
  | tooShort needed size => s!"Expected at least {needed} bytes, got {size}"
  | unknownTag tag => s!"Unknown curve type {tag}"
  | tagMismatch kind named =>
    s!"{kind.recordName} does not match curve type {named.describe}"
  | noRate kind => s!"{kind.name} curve has no redemption rate"
  | badParameters _ => "Invalid curve parameters"

/-- The integers of any size that the wording of a cause tells. -/
def integers : CurveError → List Int
  | noProjection value | durationExceeded value | ssrBelowRay value _ | ssrAboveMax value _
  | rhoDecreased value _ | chiDecreased value _ | growthTooWide value
  | chiGrowthExceeded value _ | fieldRange _ value | tooShort value _
  | tagMismatch _ (.number value) => [value]
  | rhoInFuture rho now => [rho, now]
  | _ => []

/-- The wording of each cause, or the complaint about an integer in it. -/
def told (cause : CurveError) : Except String String :=
  Text.tell cause.integers cause.message

end CurveError

end PegPool
