import PegPool.Engine
import PegPool.Parameters

/-!
# Sessions

A session is a list of requests to one engine. A new checkpoint or a stored
curve replaces the engine for the requests that follow; a request that fails
leaves it as it was.
-/

namespace PegPool

/-- A request to an engine. -/
inductive Request where
  | swap (source : Int) (direction : Direction) (timestamp : Option Int)
  | deposit (source reserveA reserveB supply : Int) (direction : Direction)
      (timestamp : Option Int)
  | withdraw (source reserveA reserveB supply : Int) (direction : Direction)
      (rounding : Rounding) (timestamp : Option Int)
  | share (poolTokens supply reserveA reserveB : Int) (rounding : Rounding)
      (timestamp : Option Int)
  | normalizedValue (reserveA reserveB : Int) (timestamp : Option Int)
  | conversionRate (timestamp : Int)
  | validate (timestamp : Option Int)
  | validateSupply (tokenA : Int)
  | newSupply
  | updateRates (ssr rho chi now : Int)
  | unpack (bytes : List UInt8)
  | pack
  | describe
  | parameters
  deriving DecidableEq, Repr

/-- What a request is answered. -/
inductive Answer where
  | swap (amounts : Option SwapAmounts)
  | tokens (amounts : Option TokenAmounts)
  | amount (value : Option Nat)
  | done
  | curve (curve : Curve)
  | bytes (bytes : List UInt8)
  | text (text : String)
  | parameters (entries preferred : List (String × Document)) (reread : Curve)

namespace Engine

/-- The answer to a request, and the engine for the next one if it is another. -/
def reply (engine : Engine) : Request → Logged (Except CurveError (Answer × Option Engine))
  | .swap source direction timestamp => do
    return .ok (.swap (← engine.swap source direction timestamp), none)
  | .deposit source reserveA reserveB supply direction timestamp => do
    let minted ← engine.deposit source reserveA reserveB supply direction timestamp
    return .ok (.amount minted, none)
  | .withdraw source reserveA reserveB supply direction rounding timestamp => do
    let burnt ← engine.withdraw source reserveA reserveB supply direction rounding timestamp
    return .ok (.amount burnt, none)
  | .share poolTokens supply reserveA reserveB rounding timestamp => do
    let amounts ← engine.share poolTokens supply reserveA reserveB rounding timestamp
    return .ok (.tokens amounts, none)
  | .normalizedValue reserveA reserveB timestamp => do
    return .ok (.amount (← engine.normalizedValue reserveA reserveB timestamp), none)
  | .conversionRate timestamp => do
    return (← engine.conversionRate timestamp).map fun rate => (.amount rate, none)
  | .validate timestamp => do
    return (← engine.validate timestamp).map fun _ => (.done, none)
  | .validateSupply tokenA =>
    return (Curve.validateSupply tokenA).map fun _ => (.done, none)
  | .newSupply => return .ok (.amount (some firstSupply), none)
  | .updateRates ssr rho chi now => do
    return (← engine.updateRates ssr rho chi now).map fun next =>
      (.curve next.curve, some next)
  | .unpack bytes =>
    return (unpack bytes engine.config).map fun next => (.curve next.curve, some next)
  | .pack => return .ok (.bytes engine.pack, none)
  | .describe => return .ok (.text engine.describe, none)
  | .parameters => do
    let entries := Parameters.write (·.name) engine.curve
    let preferred := Parameters.write (·.preferred) engine.curve
    return (← Parameters.parse entries).map fun curve =>
      (.parameters entries preferred curve, none)

/-- The answer to a request, and the engine for the next one. -/
def step (engine : Engine) (request : Request) :
    Logged (Except CurveError Answer) × Engine :=
  let result := engine.reply request
  match result.value with
  | .ok (answer, next) => (⟨.ok answer, result.events⟩, next.getD engine)
  | .error cause => (⟨.error cause, result.events⟩, engine)

/-- The answers to requests, one after the other, and the engine at the end. -/
def run (engine : Engine) : List Request → List (Logged (Except CurveError Answer)) × Engine
  | [] => ([], engine)
  | request :: rest =>
    let (answer, next) := engine.step request
    let (answers, last) := next.run rest
    (answer :: answers, last)

end Engine

end PegPool
