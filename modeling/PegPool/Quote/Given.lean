/-!
# Given values

What is given for an option is usually a text that stands for a value. Two
dashes stand for the empty list instead, whatever the option asks for. It is
found out only where the value is used.
-/

namespace PegPool.Quote

/-- What is given for an option. -/
inductive Given (α : Type) where
  | value (value : α)
  | emptyList
  deriving DecidableEq, Repr

namespace Given

/-- What a text after an equals sign gives. -/
def ofText (text : String) : Given String :=
  if text = "--" then emptyList else value text

/-- Reads the value, where one is given. -/
def read {α β ε : Type} (f : α → Except ε β) : Given α → Except ε (Given β)
  | value x => value <$> f x
  | emptyList => .ok emptyList

/-- The value, where one is given. -/
def toOption {α : Type} : Given α → Option α
  | value x => some x
  | emptyList => none

end Given

end PegPool.Quote
