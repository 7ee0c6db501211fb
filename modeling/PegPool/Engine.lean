import PegPool.Record

/-!
# Engine

An engine answers the questions that a pool is asked, under one condition: an
index is not projected further past its checkpoint than the engine's bound.
What is refused is reported, and a new checkpoint makes a new engine.
-/

namespace PegPool

/-- How an engine is set up. -/
structure Engine.Config where
  /-- The most seconds to project an index, if there is a bound. -/
  maxRateDuration : Option Int
  /-- Whether refusals are reported. -/
  logFailures : Bool
  deriving DecidableEq, Repr

/-- No bound, and refusals are reported. -/
def Engine.Config.standard : Engine.Config where
  maxRateDuration := none
  logFailures := true

/-- A curve that answers under a condition. -/
structure Engine where
  curve : Curve
  config : Engine.Config
  deriving DecidableEq

namespace Engine

/-- The rounding of a withdrawal for which none is chosen: what is burnt is
rounded up. -/
def withdrawalRounding : Rounding := .ceiling

/-- The written form of an engine. -/
def describe (engine : Engine) : String := s!"SwapEngine({engine.curve.describe})"

/-! ## The condition -/

/-- Reports an event where the engine is set up to report refusals. -/
def reportFailure (engine : Engine) (event : Event) : Logged Unit :=
  Logged.reportIf engine.config.logFailures event

/-- Whether an index may be projected to a time that may be unknown. -/
def checkDuration (engine : Engine) (timestamp : Option Int) :
    Logged (Except CurveError Unit) :=
  match engine.curve, engine.config.maxRateDuration, timestamp with
  | .redemptionRate record, some bound, some time =>
    if time - record.rho.toNat ≤ bound then pure (.ok ())
    else do
      engine.reportFailure
        (.durationExceeded engine.curve.kind record.rho.toNat time bound)
      return .error (.durationExceeded bound)
  | _, _, _ => pure (.ok ())

/-- An answer under the condition, and the event to report if it is missing
although the condition holds. -/
def ask {α : Type} (engine : Engine) (timestamp : Option Int)
    (answer : Logged (Option α)) (refusal : Option Event) : Logged (Option α) := do
  match ← engine.checkDuration timestamp with
  | .error _ => return none
  | .ok () =>
    let result ← answer
    match result, refusal with
    | none, some event => engine.reportFailure event
    | _, _ => pure ()
    return result

/-! ## Questions -/

/-- What a swap of an offered amount takes and pays. -/
def swap (engine : Engine) (source : Int) (direction : Direction)
    (timestamp : Option Int) : Logged (Option SwapAmounts) :=
  engine.ask timestamp (engine.curve.swap source direction timestamp)
    (some (.swapFailed engine.curve.kind source direction (.ofInt? timestamp)))

/-- The pool tokens minted for an amount of one token. -/
def deposit (engine : Engine) (source reserveA reserveB supply : Int)
    (direction : Direction) (timestamp : Option Int) : Logged (Option Nat) :=
  engine.ask timestamp
    (engine.curve.deposit source reserveA reserveB supply direction timestamp)
    (some (.depositFailed engine.curve.kind source supply direction))

/-- The pool tokens burnt to take out exactly an amount of one token. -/
def withdraw (engine : Engine) (source reserveA reserveB supply : Int)
    (direction : Direction) (rounding : Rounding) (timestamp : Option Int) :
    Logged (Option Nat) :=
  engine.ask timestamp
    (engine.curve.withdraw source reserveA reserveB supply direction rounding timestamp)
    (some (.withdrawalFailed engine.curve.kind source supply direction))

/-- The amounts of both tokens that pool tokens stand for. -/
def share (engine : Engine) (poolTokens supply reserveA reserveB : Int)
    (rounding : Rounding) (timestamp : Option Int) : Logged (Option TokenAmounts) :=
  engine.ask timestamp
    (engine.curve.share poolTokens supply reserveA reserveB rounding timestamp)
    (some (.shareFailed engine.curve.kind poolTokens supply))

/-- Half the worth of both reserves, counted in token A. -/
def normalizedValue (engine : Engine) (reserveA reserveB : Int) (timestamp : Option Int) :
    Logged (Option Nat) :=
  engine.ask timestamp (engine.curve.normalizedValue reserveA reserveB timestamp) none

/-- The record of a curve with an index. -/
def rateRecord (engine : Engine) : Except CurveError RedemptionRate :=
  match engine.curve.rateRecord? with
  | some record => .ok record
  | none => .error (.noRate engine.curve.kind)

/-- The index at a time. -/
def conversionRate (engine : Engine) (timestamp : Int) :
    Logged (Except CurveError (Option Nat)) :=
  match engine.rateRecord with
  | .error cause => pure (.error cause)
  | .ok record => .ok <$> engine.ask (some timestamp) (record.conversionRate timestamp) none

/-- Whether the engine can price trades at a time. -/
def validate (engine : Engine) (timestamp : Option Int) :
    Logged (Except CurveError Unit) := do
  match ← engine.checkDuration timestamp with
  | .error cause => return .error cause
  | .ok () => engine.curve.validate timestamp

/-! ## Checkpoints -/

/-- The engine after a new checkpoint, or the first rule that it breaks. -/
def updateRates (engine : Engine) (ssr rho chi now : Int) :
    Logged (Except CurveError Engine) :=
  match engine.rateRecord with
  | .error cause => pure (.error cause)
  | .ok record => do
    match ← record.setRates ssr rho chi now with
    | .error cause =>
      Logged.report (.ratesRejected cause ssr rho chi now)
      return .error cause
    | .ok updated =>
      Logged.report (.ratesCommitted ssr rho chi record.rho.toNat)
      return .ok { engine with curve := .redemptionRate updated }

/-! ## Stored engines -/

/-- The stored curve of an engine. -/
def pack (engine : Engine) : List UInt8 := engine.curve.pack

/-- The engine of a stored curve. -/
def unpack (bytes : List UInt8) (config : Config) : Except CurveError Engine := do
  return ⟨← Curve.unpack bytes, config⟩

/-- A stored curve after a new checkpoint. -/
def updateStored (bytes : List UInt8) (ssr rho chi now : Int) :
    Logged (Except CurveError (List UInt8)) :=
  match unpack bytes .standard with
  | .error cause => pure (.error cause)
  | .ok engine => do
    return (← engine.updateRates ssr rho chi now).map pack

end Engine

end PegPool
