import PegPool.Curve.Error
import PegPool.Trade

/-!
# Events

What happens inside an operation is reported as events. They carry the
numbers with which the operation was called, so a refusal can be understood
without repeating it.
-/

namespace PegPool

/-- How much an event matters. -/
inductive Level where
  | debug
  | info
  | warning
  | error
  deriving DecidableEq, Repr

namespace Level

/-- The name of a level. -/
def name : Level → String
  | debug => "debug"
  | info => "info"
  | warning => "warning"
  | error => "error"

/-- The rank of a level, the least for what matters least. -/
def rank : Level → Nat
  | debug => 0
  | info => 1
  | warning => 2
  | error => 3

end Level

/-- The formulas whose wide arithmetic may fail as a whole. -/
inductive Formula where
  | power
  | scaledIndex
  | swap
  | poolTokens
  | normalizedValue
  | reserveShare
  | valueShare
  deriving DecidableEq, Repr

/-- The name of a formula in reports. -/
def Formula.name : Formula → String
  | power => "_rpow"
  | scaledIndex => "_scale_index"
  | swap => "swap_at_price"
  | poolTokens => "trading_tokens_to_pool_tokens"
  | normalizedValue => "normalized_value_at_price"
  | reserveShare => "ConstantPriceCurve.pool_tokens_to_trading_tokens"
  | valueShare => "RedemptionRateCurve._value_to_trading_tokens"

/-- A value that an event carries. -/
inductive Event.Field where
  | absent
  | integer (value : Int)
  | text (value : String)
  | emptyList
  deriving DecidableEq, Repr

/-- Something that is reported. -/
inductive Event where
  /-- The arithmetic of a formula failed, first for this cause. -/
  | formulaFailed (formula : Formula) (cause : WideError)
  | swapFailed (kind : CurveKind) (source : Int) (direction : Direction)
      (timestamp : Event.Field)
  | depositFailed (kind : CurveKind) (source supply : Int) (direction : Direction)
  | withdrawalFailed (kind : CurveKind) (source supply : Int) (direction : Direction)
  | shareFailed (kind : CurveKind) (poolTokens supply : Int)
  | durationExceeded (kind : CurveKind) (rho : Nat) (timestamp bound : Int)
  | ratesRejected (cause : CurveError) (ssr rho chi now : Int)
  | ratesCommitted (ssr rho chi : Int) (last : Nat)
  | curveParsed (kind : CurveKind)
  | parametersRejected (count : Nat)
  | curveFileMissing (path : String)
  | curveRejected (message : String)
  | swapRejected (amount : Int) (direction : Direction)
  deriving DecidableEq, Repr

namespace Event

open PegPool.Event.Field

/-- How much each event matters. -/
def level : Event → Level
  | formulaFailed .. | swapFailed .. | depositFailed .. | withdrawalFailed ..
  | shareFailed .. | durationExceeded .. | curveParsed .. => .debug
  | ratesRejected .. | ratesCommitted .. => .info
  | parametersRejected .. => .warning
  | curveFileMissing .. | curveRejected .. | swapRejected .. => .error

/-- The name of an event in reports. -/
def name : Event → String
  | formulaFailed .. => "checked_math_failed"
  | swapFailed .. => "swap_failed"
  | depositFailed .. => "deposit_failed"
  | withdrawalFailed .. => "withdraw_failed"
  | shareFailed .. => "pool_token_conversion_failed"
  | durationExceeded .. => "rate_duration_exceeded"
  | ratesRejected .. => "rate_update_rejected"
  | ratesCommitted .. => "rate_update_committed"
  | curveParsed .. => "curve_parsed"
  | parametersRejected .. => "curve_params_invalid"
  | curveFileMissing .. => "curve_file_not_found"
  | curveRejected .. => "curve_invalid"
  | swapRejected .. => "swap_rejected"

/-- A number that may be absent, as a field. -/
def Field.ofInt? : Option Int → Field
  | none => absent
  | some value => integer value

/-- The fields that tell of a single-sided deposit or withdrawal. -/
def singleSided (kind : CurveKind) (source supply : Int) (direction : Direction) :
    List (String × Field) :=
  [("curve_type", text kind.name), ("source_amount", integer source),
    ("pool_supply", integer supply), ("direction", text direction.word)]

/-- The named values that an event carries. -/
def fields : Event → List (String × Field)
  | formulaFailed formula cause =>
    [("operation", text formula.name), ("error", text cause.message)]
  | swapFailed kind source direction timestamp =>
    [("curve_type", text kind.name), ("source_amount", integer source),
      ("direction", text direction.word), ("timestamp", timestamp)]
  | depositFailed kind source supply direction
  | withdrawalFailed kind source supply direction => singleSided kind source supply direction
  | shareFailed kind poolTokens supply =>
    [("curve_type", text kind.name), ("pool_tokens", integer poolTokens),
      ("pool_token_supply", integer supply)]
  | durationExceeded kind rho timestamp bound =>
    [("curve_type", text kind.name), ("rho", integer rho), ("timestamp", integer timestamp),
      ("max_rate_duration", integer bound)]
  | ratesRejected cause ssr rho chi now =>
    [("reason", text cause.failure.name), ("ssr", integer ssr), ("rho", integer rho),
      ("chi", integer chi), ("current_timestamp", integer now)]
  | ratesCommitted ssr rho chi last =>
    [("ssr", integer ssr), ("rho", integer rho), ("chi", integer chi),
      ("previous_rho", integer last)]
  | curveParsed kind => [("curve_type", text kind.name)]
  | parametersRejected count => [("errors", integer count)]
  | curveFileMissing path => [("path", text path)]
  | curveRejected message => [("error", text message)]
  | swapRejected amount direction =>
    [("amount", integer amount), ("direction", text direction.word)]

/-- The text of a field. -/
def Field.show : Field → String
  | absent => "None"
  | integer value => toString value
  | text value => value
  | emptyList => "[]"

/-- An event as a line of text. -/
def line (event : Event) : String :=
  let shown := event.fields.map fun (name, value) => name ++ "=" ++ value.show
  String.intercalate " " (event.level.name :: event.name :: shown)

end Event

end PegPool
