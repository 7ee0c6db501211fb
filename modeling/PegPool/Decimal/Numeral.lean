import PegPool.Decimal.Double
import PegPool.Text.Numeral

/-!
# Decimal numerals

A numeral of a document: a whole part without leading zeros, then possibly a
fraction and an exponent. Without both it denotes an integer.
-/

namespace PegPool.Decimal

/-- A decimal digit of the plain alphabet. -/
def isPlainDigit (c : Char) : Bool := '0' ≤ c ∧ c ≤ '9'

/-- The number that plain digits denote. -/
def ofPlainDigits (digits : List Char) : Nat :=
  digits.foldl (fun number c => 10 * number + (c.toNat - '0'.toNat)) 0

/-- A numeral, cut into its parts. -/
structure Numeral where
  negative : Bool
  whole : List Char
  fraction : Option (List Char)
  exponent : Option Int

/-- Digits at the start of a text, and the rest. -/
def splitDigits (text : List Char) : List Char × List Char :=
  (text.takeWhile isPlainDigit, text.dropWhile isPlainDigit)

/-- The fraction at the start of a text, if there is one, and the rest. -/
def splitFraction : List Char → Option (List Char) × List Char
  | '.' :: text =>
    let (digits, rest) := splitDigits text
    if digits.isEmpty then (none, '.' :: text) else (some digits, rest)
  | text => (none, text)

/-- The sign at the start of an exponent, and the rest. -/
def splitSign : List Char → Bool × List Char
  | '-' :: rest => (true, rest)
  | '+' :: rest => (false, rest)
  | text => (false, text)

/-- The exponent at the start of a text, if there is one, and the rest. -/
def splitExponent : List Char → Option Int × List Char
  | [] => (none, [])
  | c :: text =>
    if c = 'e' ∨ c = 'E' then
      let (negative, unsigned) := splitSign text
      let (digits, rest) := splitDigits unsigned
      if digits.isEmpty then (none, c :: text)
      else
        let size : Int := ofPlainDigits digits
        (some (if negative then -size else size), rest)
    else (none, c :: text)

/-- The numeral at the start of a text, and the rest. -/
def splitNumeral? (text : List Char) : Option (Numeral × List Char) :=
  let (negative, unsigned) :=
    match text with
    | '-' :: rest => (true, rest)
    | text => (false, text)
  let (digits, rest) := splitDigits unsigned
  if digits.isEmpty then none
  else
    let (whole, rest) := if digits.head? = some '0' then (['0'], digits.tail ++ rest)
      else (digits, rest)
    let (fraction, rest) := splitFraction rest
    let (exponent, rest) := splitExponent rest
    some (⟨negative, whole, fraction, exponent⟩, rest)

namespace Numeral

/-- The integer that a numeral denotes, if it has neither fraction nor
exponent. -/
def toInt? (numeral : Numeral) : Option Int :=
  if numeral.fraction.isNone && numeral.exponent.isNone then
    let size : Int := ofPlainDigits numeral.whole
    some (if numeral.negative then -size else size)
  else none

/-- The double nearest to what a numeral denotes. -/
def toDouble (numeral : Numeral) : Double :=
  let fraction := numeral.fraction.getD []
  let digits := (numeral.whole ++ fraction).dropWhile (· == '0')
  Double.ofDecimal numeral.negative (ofPlainDigits digits) digits.length
    (numeral.exponent.getD 0 - fraction.length)

end Numeral

/-! ## Numerals outside documents

There a numeral may have blanks around it, a plus sign, leading zeros, no whole
part or no fraction, digits of any script, and single underscores between
digits. A word stands for a value outside the number line. -/

/-- A digit of any script in the plain alphabet; another character as it is. -/
def toPlainDigit (c : Char) : Char :=
  match Text.digitValue? c with
  | some value => Char.ofNat ('0'.toNat + value)
  | none => c

/-- The text without underscores, which must all stand between two digits. -/
def dropUnderscores? : List Char → Option (List Char)
  | [] => some []
  | c :: '_' :: rest =>
    if isPlainDigit c && rest.head?.any isPlainDigit then (c :: ·) <$> dropUnderscores? rest
    else none
  | c :: rest => if c = '_' then none else (c :: ·) <$> dropUnderscores? rest

/-- The digits after a point, if there is one, and the rest. -/
def splitPoint : List Char → List Char × List Char
  | '.' :: rest => splitDigits rest
  | text => ([], text)

/-- The numeral that a whole text writes. -/
def parseNumeral? (text : List Char) : Option Numeral :=
  let (negative, unsigned) := splitSign text
  let (whole, rest) := splitDigits unsigned
  let (fraction, rest) := splitPoint rest
  match whole ++ fraction, splitExponent rest with
  | _ :: _, (exponent, []) => some ⟨negative, whole, some fraction, exponent⟩
  | _, _ => none

/-- The double that a text denotes. -/
def parseDouble (text : String) : Option Double :=
  let trimmed := (Text.trim (Text.blanksOf text.toList) text.toList).map toPlainDigit
  let (negative, unsigned) := splitSign trimmed
  match String.ofList (unsigned.map Char.toLower) with
  | "nan" => some .undefined
  | "inf" | "infinity" => some (.infinite negative)
  | _ => do return (← parseNumeral? (← dropUnderscores? trimmed)).toDouble

end PegPool.Decimal
