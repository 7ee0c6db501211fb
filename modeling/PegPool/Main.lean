import PegPool.Document.Reader
import PegPool.Quote
import Std.Time.DateTime.Timestamp

/-!
# Command line

Reads the parameter file and the clock, and prints the events and the quote. A fault
and the usage after wrong arguments are told beside them.
-/

namespace PegPool.Quote

/-- What stands under a path. Nothing can be opened where a part of the path is
no directory; a directory is opened and then cannot be read; a path that is too
long is no argument at all. -/
def load (path : Path) : IO Source := do
  try
    match Document.parse (← IO.FS.readFile path.toText) with
    | some value => return .document value
    | none => throw (.userError s!"{path.toText} is not a document")
  catch error =>
    match error with
    | .noFileOrDirectory .. | .inappropriateType (some _) .. => return .missing
    | .inappropriateType none .. => return .directory
    | .invalidArgument .. => return .tooLong
    | _ => throw error

/-- Seconds since the beginning of 1970. -/
def now : IO Int := do
  return (← Std.Time.Timestamp.now).toSecondsSinceUnixEpoch.val

/-- Prints what is printed of a run, and answers its exit code. -/
def finish (result : Logged (Except Fault Outcome)) : IO UInt32 := do
  for line in printed result do
    IO.println line
  match result.value with
  | .error fault =>
    IO.eprintln fault.message
    return 1
  | .ok outcome => return UInt32.ofNat outcome.exitCode

/-- Tells how to ask for a quote: where it is asked for, or beside that where the arguments
are wrong. -/
def tellUsage (stop : Stop) : IO Unit := do
  for line in Options.usage do
    match stop with
    | .help => IO.println line
    | .usage => IO.eprintln line

/-- Quotes the swap that arguments ask for. -/
def execute (arguments : List String) : IO UInt32 := do
  match Options.parse arguments with
  | .error stop =>
    tellUsage stop
    finish (pure (.ok stop.outcome))
  | .ok options =>
    match options.path with
    | .emptyList => finish (pure (.error .noPath))
    | .value path => finish (answer options path (← load path) (← now))

end PegPool.Quote

def main (arguments : List String) : IO UInt32 := PegPool.Quote.execute arguments
