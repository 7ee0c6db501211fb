/-!
# Blanks

The characters that may stand around a numeral.
-/

namespace PegPool.Text

/-- A blank of the plain alphabet: a space, a tab, or a line or page end. -/
def isPlainBlank (c : Char) : Bool :=
  c = ' ' ∨ 9 ≤ c.toNat ∧ c.toNat ≤ 13

/-- The blanks outside the plain alphabet. -/
def wideBlanks : List Nat := [
    0x85, 0xA0, 0x1680, 0x2000, 0x2001, 0x2002, 0x2003, 0x2004, 0x2005, 0x2006, 0x2007,
    0x2008, 0x2009, 0x200A, 0x2028, 0x2029, 0x202F, 0x205F, 0x3000]

/-- A blank of any script. -/
def isBlank (c : Char) : Bool :=
  isPlainBlank c || wideBlanks.contains c.toNat

/-- The text without the characters of a class at its start and end. -/
def trim (drops : Char → Bool) (text : List Char) : List Char :=
  ((text.dropWhile drops).reverse.dropWhile drops).reverse

end PegPool.Text
