import PegPool.Text.Blank
import PegPool.Text.Digit

/-!
# Integer numerals

A numeral is an optional sign followed by digits of any script. Single
underscores may part the digits, and blanks may surround the whole. More than
4300 digits are refused.
-/

namespace PegPool.Text

/-- The most digits that a numeral may have. -/
def maxDigits : Nat := 4300

/-- The digits of a text in which single underscores may stand between two
digits; nothing else may occur, and one digit must. -/
def parseDigits : List Char → Option (List Nat)
  | [] => none
  | [c] => (digitValue? c).map ([·])
  | c :: '_' :: rest => do
    let digit ← digitValue? c
    let digits ← parseDigits rest
    some (digit :: digits)
  | c :: rest => do
    let digit ← digitValue? c
    let digits ← parseDigits rest
    some (digit :: digits)

/-- The number that digits denote, the most significant first. -/
def ofDigits (digits : List Nat) : Nat :=
  digits.foldl (fun number digit => 10 * number + digit) 0

/-- The number that digits and underscores denote. -/
def parseMagnitude (text : List Char) : Option Nat := do
  let digits ← parseDigits text
  if digits.length ≤ maxDigits then some (ofDigits digits) else none

/-- The integer that a numeral without surrounding blanks denotes. -/
def parseSigned : List Char → Option Int
  | '-' :: rest => (parseMagnitude rest).map fun n => -(n : Int)
  | '+' :: rest => (parseMagnitude rest).map fun n => (n : Int)
  | text => (parseMagnitude text).map fun n => (n : Int)

/-- The characters that are blanks around a numeral: in a text of plain
characters only the plain blanks. -/
def blanksOf (text : List Char) : Char → Bool :=
  if text.all (·.toNat < 128) then isPlainBlank else isBlank

/-- The integer that a numeral denotes. -/
def parseInt (text : List Char) : Option Int :=
  parseSigned (trim (blanksOf text) text)

end PegPool.Text
