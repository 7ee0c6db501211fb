import PegPool.Engine
import PegPool.Parameters
import PegPool.Quote.Options

/-!
# Quotes

A quote tells what one swap would move and what the pool would be worth before
and after it. The curve comes from a parameter file.
-/

namespace PegPool

namespace Quote

/-- What stands under a path. -/
inductive Source where
  | missing
  | directory
  | tooLong
  | document (value : Document)

/-- What stands under a path, seen from a directory in which there is at most
one file, given by its name and what it holds. -/
def Source.seenFrom (file : Option (String × Document)) (path : Path) : Source :=
  match path.follow (file.map (·.1)), file with
  | .nothing, _ | .file, none => missing
  | .directory, _ => directory
  | .tooLong, _ => tooLong
  | .file, some (_, value) => document value

/-- A quote. -/
structure Report where
  kind : CurveKind
  /-- The index, where the curve has one. -/
  conversionRate : Option (Option Nat)
  amounts : SwapAmounts
  valueBefore : Option Nat
  valueAfter : Option Nat
  deriving DecidableEq, Repr

/-- Why there is no quote although it was asked for properly. -/
inductive Refusal where
  | fileMissing (path : Path)
  | badCurve (cause : CurveError)
  | noSwap (amount : Int) (direction : Direction)
  deriving DecidableEq, Repr

/-- The event that reports a refusal. -/
def Refusal.event : Refusal → Event
  | fileMissing path => .curveFileMissing path.toText
  | badCurve cause => .curveRejected cause.message
  | noSwap amount direction => .swapRejected amount direction

/-- Why not even a refusal is possible. -/
inductive Fault where
  /-- The empty list is given for the path. -/
  | noPath
  /-- The empty list is given for the direction. -/
  | noDirection
  | pathTooLong (path : Path)
  | directory (path : Path)
  | document (cause : Parameters.DocumentError)
  /-- The empty list is given for an amount that is swapped. -/
  | noAmount
  /-- The empty list is given for a number that is calculated with. -/
  | kinds (cause : KindError)
  /-- A number to be told has too many digits. -/
  | unwritable
  deriving DecidableEq, Repr

/-- The wording of each fault. -/
def Fault.message : Fault → String
  | noPath => noMember ValueKind.list.name "exists"
  | noDirection => Direction.refusalOf "[]"
  | pathTooLong path => s!"[Errno 36] File name too long: {Text.quoted path.toText}"
  | directory path => s!"[Errno 21] Is a directory: {Text.quoted path.toText}"
  | document cause => cause.message
  | noAmount => (OfferError.notAnInteger .list).message
  | kinds cause => cause.message
  | unwritable => Text.tooManyDigits

/-- A run so far: a fault ends it, and events are reported on the way. -/
abbrev Run := ExceptT Fault Logged

/-- A run that answers without a fault. -/
def Run.ofLogged {α : Type} (answer : Logged α) : Run α := ExceptT.mk (.ok <$> answer)

/-! ## Making a quote -/

/-- Whether the engine can price trades at a time. Only an index is projected;
an empty list in place of a number is found out when it is first subtracted
from or compared. -/
def validate (engine : Engine) (maxDuration : Option (Given Int)) (time : Given Int) :
    Run (Except CurveError Unit) :=
  match engine.curve, maxDuration, time with
  | .constantPrice record, _, _ => pure record.validate
  | .redemptionRate _, some _, .emptyList => throw (.kinds (.noOperator "-" .list .integer))
  | .redemptionRate _, some .emptyList, .value _ =>
    throw (.kinds (.unordered "<=" .integer .list))
  | .redemptionRate record, none, .emptyList =>
    if record.ray.toNat = 0 then pure (.error .zeroRay)
    else throw (.kinds (.unordered "<" .list .integer))
  | .redemptionRate _, _, .value timestamp => Run.ofLogged (engine.validate (some timestamp))

/-- What a swap of an offered amount takes and pays. A fixed price is the same
at no time at all, but a refusal tells what was given for the time. -/
def swap (engine : Engine) (source : Int) (direction : Direction) (time : Given Int) :
    Logged (Option SwapAmounts) :=
  match time with
  | .value timestamp => engine.swap source direction (some timestamp)
  | .emptyList =>
    engine.ask none (engine.curve.swap source direction none)
      (some (.swapFailed engine.curve.kind source direction .emptyList))

/-- The fault of adding to a reserve for which the empty list is given. -/
def noReserveAdded : Fault := .kinds (.notJoined .integer)

/-- The fault of taking from a reserve for which the empty list is given. -/
def noReserveTaken : Fault := .kinds (.noOperator "-" .list .integer)

/-- The reserves before and after a swap. They are not held above zero. -/
def reserves (options : Options) (direction : Direction) (amounts : SwapAmounts) :
    Except Fault ((Int × Int) × (Int × Int)) :=
  match options.reserveA, options.reserveB, direction with
  | .value a, .value b, .aToB => .ok ((a, b), (a + amounts.taken, b - amounts.paid))
  | .value a, .value b, .bToA => .ok ((a, b), (a - amounts.paid, b + amounts.taken))
  | .emptyList, _, .aToB | .value _, .emptyList, .bToA => .error noReserveAdded
  | .emptyList, _, .bToA | .value _, .emptyList, .aToB => .error noReserveTaken

/-- The first reserve that is no wide amount. The pool has no value then, for a
cause that tells this reserve. -/
def toldReserve? (reserves : Int × Int) : Option Int :=
  [reserves.1, reserves.2].find? fun reserve => (Wide.ofInt reserve).toOption.isNone

/-- Half the worth of the reserves, unless they cannot even be told. -/
def valueOf (engine : Engine) (reserves : Int × Int) (time : Given Int) : Run (Option Nat) :=
  if (toldReserve? reserves).all Text.isWritable then
    Run.ofLogged (engine.normalizedValue reserves.1 reserves.2 time.toOption)
  else throw .unwritable

/-- The index at a time, where the curve has one. -/
def conversionRate (engine : Engine) : Given Int → Logged (Option (Option Nat))
  | .value timestamp => do return (← engine.conversionRate timestamp).toOption
  | .emptyList => pure none

/-- The quote of a swap that the engine has made. -/
def reportOf (options : Options) (engine : Engine) (direction : Direction) (time : Given Int)
    (amounts : SwapAmounts) : Run Report := do
  let (before, after) ← ExceptT.mk (pure (reserves options direction amounts))
  let conversionRate ← Run.ofLogged (conversionRate engine time)
  let valueBefore ← valueOf engine before time
  let valueAfter ← valueOf engine after time
  return { kind := engine.curve.kind, conversionRate, amounts, valueBefore, valueAfter }

/-- The quote on a curve at a time. -/
def ofCurve (options : Options) (direction : Direction) (curve : Curve) (time : Given Int) :
    Run (Except Refusal Report) := do
  let maxRateDuration := options.maxDuration.bind (·.toOption)
  let engine : Engine := { curve, config := { Engine.Config.standard with maxRateDuration } }
  match ← validate engine options.maxDuration time with
  | .error cause => return .error (.badCurve cause)
  | .ok () =>
    match options.amount with
    | .emptyList => throw .noAmount
    | .value amount =>
      match ← Run.ofLogged (swap engine amount direction time) with
      | none => return .error (.noSwap amount direction)
      | some amounts => .ok <$> reportOf options engine direction time amounts

/-- The quote that is asked for, at the time of the clock unless another time
is given. The path is followed before the direction is looked at, and both
before the file is read. -/
def ofSource (options : Options) (path : Path) (source : Source) (clock : Int) :
    Run (Except Refusal Report) :=
  match source, options.direction with
  | .missing, _ => return .error (.fileMissing path)
  | .tooLong, _ => throw (.pathTooLong path)
  | _, .emptyList => throw .noDirection
  | .directory, .value _ => throw (.directory path)
  | .document document, .value direction => do
    match ← Run.ofLogged (Parameters.parseDocument document) with
    | .error (.curve cause) => return .error (.badCurve cause)
    | .error cause => throw (.document cause)
    | .ok curve => ofCurve options direction curve (options.timestamp.getD (.value clock))

/-! ## Telling a quote -/

/-- The text of an amount that may be missing. -/
def showAmount : Option Nat → String
  | none => "None"
  | some amount => toString amount

/-- The line above and below a quote. -/
def rule : String := String.ofList (List.replicate 60 '=')

/-- The lines of a quote. -/
def Report.lines (report : Report) : List String :=
  [rule, s!"Curve type:        {report.kind.name}"]
    ++ (report.conversionRate.map fun rate =>
        s!"Conversion rate:   {showAmount rate}").toList
    ++ [s!"Source used:       {report.amounts.taken}",
        s!"Destination paid:  {report.amounts.paid}",
        s!"Value before:      {showAmount report.valueBefore}",
        s!"Value after:       {showAmount report.valueAfter}",
        rule]

/-- What a run leaves behind: a code for whoever started it, and the lines of a quote, if
there is one. -/
structure Outcome where
  exitCode : Nat
  lines : List String
  deriving DecidableEq, Repr

/-- The outcome of arguments that ask for no quote. -/
def Stop.outcome : Stop → Outcome
  | .help => ⟨0, []⟩
  | .usage => ⟨2, []⟩

/-- The outcome of a quote or a refusal. -/
def outcomeOf : Except Refusal Report → Outcome
  | .ok report => ⟨0, report.lines⟩
  | .error _ => ⟨1, []⟩

/-- What is reported matters enough to be shown. -/
def isShown (verbose : Bool) (event : Event) : Bool :=
  verbose || Level.info.rank ≤ event.level.rank

/-- Answers what is asked for, and reports a refusal. Details are shown only
if asked for. -/
def answer (options : Options) (path : Path) (source : Source) (clock : Int) :
    Logged (Except Fault Outcome) :=
  let result : Logged (Except Fault Outcome) := ExceptT.run do
    let quote ← ofSource options path source clock
    match quote with
    | .error refusal => Run.ofLogged (Logged.report refusal.event)
    | .ok _ => pure ()
    return outcomeOf quote
  { result with events := result.events.filter (isShown options.verbose) }

/-- Runs the arguments of a command line. -/
def run (arguments : List String) (sourceOf : Path → Source) (clock : Int) :
    Logged (Except Fault Outcome) :=
  match Options.parse arguments with
  | .error stop => pure (.ok stop.outcome)
  | .ok options =>
    match options.path with
    | .emptyList => pure (.error .noPath)
    | .value path => answer options path (sourceOf path) clock

/-- What is printed of a run: a line for each event that is shown, and the lines of a quote.
A fault is told elsewhere. -/
def printed (result : Logged (Except Fault Outcome)) : List String :=
  result.events.map Event.line ++
    match result.value with
    | .ok outcome => outcome.lines
    | .error _ => []

end Quote

end PegPool
