import PegPool.Decimal.Numeral
import PegPool.Document

/-!
# Reading documents

A document is read from the notation in which parameter files are written:
texts between double quotes, lists in brackets, objects in braces. Each reader
takes what it reads off the start of a text and answers the rest.
-/

namespace PegPool.Document

/-! ## Blanks and words -/

/-- A character that may stand between the parts of a document. -/
def isGap (c : Char) : Bool := c = ' ' ∨ c = '\t' ∨ c = '\n' ∨ c = '\r'

/-- The text from its first part on. -/
def skipGap (input : List Char) : List Char := input.dropWhile isGap

/-- The text after a word, if it starts with it. -/
def afterWord? : List Char → List Char → Option (List Char)
  | [], input => some input
  | _ :: _, [] => none
  | c :: word, d :: input => if c = d then afterWord? word input else none

/-- The words of a document and their values. -/
def words : List (String × Document) :=
  [("null", null), ("true", bool true), ("false", bool false),
    ("NaN", float .undefined), ("Infinity", float (.infinite false)),
    ("-Infinity", float (.infinite true))]

/-- The word at the start of a text. -/
def readWord? (input : List Char) : Option (Document × List Char) :=
  words.findSome? fun (word, value) =>
    (afterWord? word.toList input).map fun rest => (value, rest)

/-- The number at the start of a text. -/
def readNumber? (input : List Char) : Option (Document × List Char) :=
  (Decimal.splitNumeral? input).map fun (numeral, rest) =>
    match numeral.toInt? with
    | some value => (integer value, rest)
    | none => (float numeral.toDouble, rest)

/-! ## Texts -/

/-- The value of a hexadecimal digit. -/
def hexValue? (c : Char) : Option Nat :=
  if Decimal.isPlainDigit c then some (c.toNat - '0'.toNat)
  else if 'a' ≤ c ∧ c ≤ 'f' then some (c.toNat - 'a'.toNat + 10)
  else if 'A' ≤ c ∧ c ≤ 'F' then some (c.toNat - 'A'.toNat + 10)
  else none

/-- The code that four hexadecimal digits denote. -/
def hexCode? (a b c d : Char) : Option Nat := do
  let a ← hexValue? a
  let b ← hexValue? b
  let c ← hexValue? c
  let d ← hexValue? d
  return ((a * 16 + b) * 16 + c) * 16 + d

/-- The code of the character that a short escape denotes. -/
def shortEscape? : Char → Option Nat
  | '"' => some 0x22
  | '\\' => some 0x5C
  | '/' => some 0x2F
  | 'b' => some 0x08
  | 'f' => some 0x0C
  | 'n' => some 0x0A
  | 'r' => some 0x0D
  | 't' => some 0x09
  | _ => none

/-- The codes of a text up to its closing quote. -/
def readCodes? : List Char → Option (List Nat × List Char)
  | [] => none
  | '"' :: rest => some ([], rest)
  | '\\' :: 'u' :: a :: b :: c :: d :: rest => do
    let code ← hexCode? a b c d
    let (codes, rest) ← readCodes? rest
    return (code :: codes, rest)
  | '\\' :: c :: rest => do
    let code ← shortEscape? c
    let (codes, rest) ← readCodes? rest
    return (code :: codes, rest)
  | c :: rest =>
    if c.toNat < 0x20 then none
    else do
      let (codes, rest) ← readCodes? rest
      return (c.toNat :: codes, rest)

/-- The characters of codes. Two halves of a pair stand for one character; a
half alone has none and is replaced. -/
def ofCodes : List Nat → List Char
  | [] => []
  | [code] => [if 0xD800 ≤ code ∧ code < 0xE000 then '\uFFFD' else Char.ofNat code]
  | high :: low :: rest =>
    if 0xD800 ≤ high ∧ high < 0xDC00 ∧ 0xDC00 ≤ low ∧ low < 0xE000 then
      Char.ofNat (0x10000 + (high - 0xD800) * 0x400 + (low - 0xDC00)) :: ofCodes rest
    else
      (if 0xD800 ≤ high ∧ high < 0xE000 then '\uFFFD' else Char.ofNat high)
        :: ofCodes (low :: rest)

/-- The text after an opening quote. -/
def readText? (input : List Char) : Option (String × List Char) :=
  (readCodes? input).map fun (codes, rest) => (String.ofList (ofCodes codes), rest)

/-! ## Trees -/

mutual

/-- The value at the start of a text. The fuel bounds the nesting and the
number of parts. -/
def readValue? : Nat → List Char → Option (Document × List Char)
  | 0, _ => none
  | fuel + 1, input =>
    match input with
    | '"' :: rest => (readText? rest).map fun (value, rest) => (.text value, rest)
    | '[' :: rest =>
      match skipGap rest with
      | ']' :: rest => some (.list [], rest)
      | rest => (readItems? fuel rest).map fun (items, rest) => (.list items, rest)
    | '\x7b' :: rest =>
      match skipGap rest with
      | '\x7d' :: rest => some (.object [], rest)
      | rest => (readEntries? fuel [] rest).map fun (entries, rest) => (.object entries, rest)
    | other => (readWord? other).or (readNumber? other)

/-- The items of a list up to its closing bracket. -/
def readItems? : Nat → List Char → Option (List Document × List Char)
  | 0, _ => none
  | fuel + 1, input => do
    let (item, rest) ← readValue? fuel input
    match skipGap rest with
    | ',' :: rest =>
      let (items, rest) ← readItems? fuel (skipGap rest)
      return (item :: items, rest)
    | ']' :: rest => return ([item], rest)
    | _ => none

/-- The entries of an object up to its closing brace, after those read so far. -/
def readEntries? : Nat → List (String × Document) → List Char →
    Option (List (String × Document) × List Char)
  | fuel + 1, entries, '"' :: input => do
    let (name, rest) ← readText? input
    match skipGap rest with
    | ':' :: rest =>
      let (value, rest) ← readValue? fuel (skipGap rest)
      let entries := Document.insert entries name value
      match skipGap rest with
      | ',' :: rest => readEntries? fuel entries (skipGap rest)
      | '\x7d' :: rest => return (entries, rest)
      | _ => none
    | _ => none
  | _, _, _ => none

end

/-- The document that a text holds. -/
def parse (input : String) : Option Document :=
  let chars := input.toList
  match readValue? (2 * chars.length + 2) (skipGap chars) with
  | some (value, rest) => if (skipGap rest).isEmpty then some value else none
  | none => none

end PegPool.Document
