import PegPool.Text.Quoted

/-!
# Trades

A pool holds two tokens. Token A is the reference in which prices are told,
token B is what they price.
-/

namespace PegPool

/-- Which token is handed in, and which one is paid out for it. -/
inductive Direction where
  | aToB
  | bToA
  deriving DecidableEq, Repr

namespace Direction

/-- The direction that undoes a trade. -/
def opposite : Direction → Direction
  | aToB => bToA
  | bToA => aToB

/-- The name of a direction. -/
def name : Direction → String
  | aToB => "A_TO_B"
  | bToA => "B_TO_A"

/-- The word by which a direction is chosen and reported. -/
def word : Direction → String
  | aToB => "a_to_b"
  | bToA => "b_to_a"

/-- The direction that a word chooses. -/
def ofWord? (text : String) : Option Direction :=
  if text = aToB.word then some aToB
  else if text = bToA.word then some bToA
  else none

/-- Said of a value that stands for no direction, given as it is written. -/
def refusalOf (written : String) : String := written ++ " is not a valid TradeDirection"

/-- Said of a text that is no word for a direction. -/
def refusal (text : String) : String := refusalOf (Text.quoted text)

theorem ofWord?_word (d : Direction) : ofWord? d.word = some d := by
  cases d <;> decide

end Direction

/-- Who bears the fraction that a whole amount cannot express. Rounding down
favours the pool when it pays out, rounding up when it takes in. -/
inductive Rounding where
  | floor
  | ceiling
  deriving DecidableEq, Repr

namespace Rounding

/-- The name of a rounding. -/
def name : Rounding → String
  | floor => "FLOOR"
  | ceiling => "CEILING"

/-- The word by which a rounding is chosen. -/
def word : Rounding → String
  | floor => "floor"
  | ceiling => "ceiling"

/-- The rounding that a word chooses. -/
def ofWord? (text : String) : Option Rounding :=
  if text = floor.word then some floor
  else if text = ceiling.word then some ceiling
  else none

/-- Said of a text that is no word for a rounding. -/
def refusal (text : String) : String :=
  Text.quoted text ++ " is not a valid RoundDirection"

theorem ofWord?_word (r : Rounding) : ofWord? r.word = some r := by
  cases r <;> decide

end Rounding

/-- What a swap moves: the amount taken of one token and the amount paid of
the other. -/
structure SwapAmounts where
  taken : Nat
  paid : Nat
  deriving DecidableEq, Repr

/-- An amount of each token. -/
structure TokenAmounts where
  tokenA : Nat
  tokenB : Nat
  deriving DecidableEq, Repr

/-- The amount, unless nothing would move. -/
def nonzero? {α : Type} [OfNat α 0] [DecidableEq α] (amount : α) : Option α :=
  if amount = 0 then none else some amount

end PegPool
