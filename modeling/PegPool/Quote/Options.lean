import PegPool.Quote.Given
import PegPool.Quote.Path
import PegPool.Text.Numeral
import PegPool.Trade

/-!
# Options of a quote

A quote is asked for by a list of arguments. Each argument is first sorted:
it names an option or it is a plain value. An option that needs a value takes
the plain one after it, or what stands after an equals sign in the same
argument. Long names may be shortened as long as one option is meant, and
options of one letter that need no value may share a dash.
-/

namespace PegPool.Quote

/-- An option. -/
inductive Flag where
  | help
  | curve
  | amount
  | direction
  | reserveA
  | reserveB
  | timestamp
  | maxDuration
  | verbose
  deriving DecidableEq, Repr

namespace Flag

/-- The ways to write each option. -/
def spellings : List (String × Flag) :=
  [("-h", help), ("--help", help), ("--curve", curve), ("--amount", amount),
    ("--direction", direction), ("--reserve-a", reserveA), ("--reserve-b", reserveB),
    ("--timestamp", timestamp), ("--max-duration", maxDuration), ("--verbose", verbose),
    ("-v", verbose)]

/-- The option needs a value. -/
def takesValue : Flag → Bool
  | help | verbose => false
  | _ => true

/-- The option that a text writes out in full. -/
def ofSpelling? (text : String) : Option Flag := spellings.lookup text

end Flag

/-- Why no quote is made: help was asked for, or the arguments make no sense. -/
inductive Stop where
  | help
  | usage
  deriving DecidableEq, Repr

/-- What is asked for. -/
structure Options where
  path : Given Path
  amount : Given Int
  direction : Given Direction
  reserveA : Given Int
  reserveB : Given Int
  timestamp : Option (Given Int)
  maxDuration : Option (Given Int)
  verbose : Bool
  deriving DecidableEq, Repr

namespace Options

/-! ## Sorting arguments -/

/-- What an argument is. -/
inductive Argument where
  | plain (text : String)
  /-- An option without anything attached. -/
  | option (flag : Flag)
  /-- An option with what follows its equals sign. -/
  | assigned (flag : Flag) (value : String)
  /-- A one-letter option with further letters. -/
  | cluster (flag : Flag) (letters : List Char)
  /-- Something that looks like an option. -/
  | unknown

/-- The text before the first equals sign and the one after it. -/
def splitAssignment (text : List Char) : List Char × Option (List Char) :=
  match text.dropWhile (· != '=') with
  | [] => (text, none)
  | _ :: value => (text.takeWhile (· != '='), some value)

/-- An option with what may be assigned to it. -/
def withAssignment (flag : Flag) : Option (List Char) → Argument
  | none => .option flag
  | some value => .assigned flag (String.ofList value)

/-- An option written out in full with what is assigned to it. After a single
letter these are further letters. -/
def withFullAssignment (flag : Flag) (name value : List Char) : Argument :=
  if name.length = 2 ∧ value ≠ [] then .cluster flag value
  else .assigned flag (String.ofList value)

/-- Digits, with a point before the last of them or without. -/
def isDecimal (text : List Char) : Bool :=
  let (whole, rest) := (text.takeWhile Text.isDigit, text.dropWhile Text.isDigit)
  match rest with
  | [] => !whole.isEmpty
  | '.' :: digits => !digits.isEmpty && digits.all Text.isDigit
  | _ => false

/-- The text is a number below zero. It may end its line. -/
def isNegativeNumber : List Char → Bool
  | '-' :: text =>
    isDecimal text || (text.getLast? == some '\n' && isDecimal text.dropLast)
  | _ => false

/-- The options whose spelling a text begins. -/
def abbreviated (text : List Char) : List Flag :=
  (Flag.spellings.filter fun (spelling, _) => text.isPrefixOf spelling.toList).map (·.2)

/-- The options that an argument which is none in full may mean. After two
dashes a name may be shortened; after one dash a letter may be followed by
others. -/
def meanings (text : List Char) : List Argument :=
  match text with
  | '-' :: '-' :: _ =>
    let (name, value) := splitAssignment text
    (abbreviated name).map (withAssignment · value)
  | dash :: letter :: letters =>
    (Flag.ofSpelling? (String.ofList [dash, letter])).toList.map (.cluster · letters)
  | _ => []

/-- What an argument is, unless it may be several options. -/
def classify (argument : String) : Except Stop Argument :=
  let text := argument.toList
  if text.head? ≠ some '-' ∨ text.length = 1 then .ok (.plain argument)
  else
    let (name, value) := splitAssignment text
    match Flag.ofSpelling? argument, value, Flag.ofSpelling? (String.ofList name) with
    | some flag, _, _ => .ok (.option flag)
    | none, some value, some flag => .ok (withFullAssignment flag name value)
    | _, _, _ =>
      match meanings text with
      | [meaning] => .ok meaning
      | [] =>
        if isNegativeNumber text || text.contains ' ' then .ok (.plain argument)
        else .ok .unknown
      | _ => .error .usage

/-- What each argument is. Two dashes end the options. -/
def classifyAll : List String → Except Stop (List Argument)
  | [] => .ok []
  | argument :: rest =>
    if argument = "--" then .ok [.unknown]
    else do
      let first ← classify argument
      return first :: (← classifyAll rest)

/-! ## Help -/

/-- How options are written. -/
def usage : List String := [
    "usage: quote_curve --curve PATH --amount N --reserve-a N --reserve-b N",
    "         [--direction a_to_b|b_to_a] [--timestamp N] [--max-duration N]",
    "         [--verbose] [--help]"]

/-! ## Taking options -/

/-- The options taken so far. -/
structure Draft where
  path : Option (Given Path)
  amount : Option (Given Int)
  direction : Given Direction
  reserveA : Option (Given Int)
  reserveB : Option (Given Int)
  timestamp : Option (Given Int)
  maxDuration : Option (Given Int)
  verbose : Bool
  /-- Something stood where no option takes it. -/
  surplus : Bool

/-- Nothing taken yet. -/
def Draft.empty : Draft where
  path := none
  amount := none
  direction := .value .aToB
  reserveA := none
  reserveB := none
  timestamp := none
  maxDuration := none
  verbose := false
  surplus := false

/-- The integer that a value writes. -/
def integer (value : String) : Except Stop Int :=
  match Text.parseInt value.toList with
  | some number => .ok number
  | none => .error .usage

/-- The direction that a value chooses. -/
def chosenDirection (value : String) : Except Stop Direction :=
  match Direction.ofWord? value with
  | some direction => .ok direction
  | none => .error .usage

/-- The options after one more with what is given for it. The last counts. -/
def Draft.assign (draft : Draft) (flag : Flag) (given : Given String) : Except Stop Draft := do
  match flag with
  | .curve => return { draft with path := some (← given.read fun text => .ok (Path.ofText text)) }
  | .amount => return { draft with amount := some (← given.read integer) }
  | .direction => return { draft with direction := ← given.read chosenDirection }
  | .reserveA => return { draft with reserveA := some (← given.read integer) }
  | .reserveB => return { draft with reserveB := some (← given.read integer) }
  | .timestamp => return { draft with timestamp := some (← given.read integer) }
  | .maxDuration => return { draft with maxDuration := some (← given.read integer) }
  | .help | .verbose => .error .usage

/-- The options after one more without a value. -/
def Draft.raise (draft : Draft) : Flag → Except Stop Draft
  | .help => .error .help
  | .verbose => .ok { draft with verbose := true }
  | _ => .error .usage

/-- The options that a cluster of letters stands for. Every letter must be one,
before any of them is taken. -/
def expandCluster (flag : Flag) : List Char → Except Stop (List Flag)
  | [] => .ok [flag]
  | letter :: letters =>
    match Flag.ofSpelling? (String.ofList ['-', letter]) with
    | none => .error .usage
    | some next => do return flag :: (← expandCluster next letters)

/-- Takes the options among arguments, in their order. -/
def take : Draft → List Argument → Except Stop Draft
  | draft, [] => .ok draft
  | draft, .plain _ :: rest | draft, .unknown :: rest => take { draft with surplus := true } rest
  | draft, .assigned flag value :: rest => do
    take (← draft.assign flag (.ofText value)) rest
  | draft, .cluster flag letters :: rest => do
    take (← (← expandCluster flag letters).foldlM Draft.raise draft) rest
  | draft, [.option flag] => if flag.takesValue then .error .usage else draft.raise flag
  | draft, .option flag :: next :: rest =>
    if flag.takesValue then
      match next with
      | .plain text => do take (← draft.assign flag (.value text)) rest
      | _ => .error .usage
    else do take (← draft.raise flag) (next :: rest)

/-- The options once all arguments are taken: none is missing, and nothing is
left over. -/
def Draft.finish (draft : Draft) : Except Stop Options :=
  match draft.path, draft.amount, draft.reserveA, draft.reserveB with
  | some path, some amount, some reserveA, some reserveB =>
    if draft.surplus then .error .usage
    else
      .ok { path, amount, direction := draft.direction, reserveA, reserveB,
            timestamp := draft.timestamp, maxDuration := draft.maxDuration,
            verbose := draft.verbose }
  | _, _, _, _ => .error .usage

/-- The options that arguments write. -/
def parse (arguments : List String) : Except Stop Options := do
  let draft ← take .empty (← classifyAll arguments)
  draft.finish

end Options

end PegPool.Quote
