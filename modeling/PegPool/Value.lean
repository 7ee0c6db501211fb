import PegPool.Wide

/-!
# Offered values

Where an integer is expected, a value of another kind may be offered. Such a
value is refused by its kind alone, so nothing else is kept of it. Likewise an
operation is refused by the kinds of the values that it meets.
-/

namespace PegPool

/-- What kind of value something is. -/
inductive ValueKind where
  | null
  | bool
  | integer
  | float
  | text
  | list
  | object
  | wide
  deriving DecidableEq, Repr

/-- The name of a kind in messages. -/
def ValueKind.name : ValueKind → String
  | null => "NoneType"
  | bool => "bool"
  | integer => "int"
  | float => "float"
  | text => "str"
  | list => "list"
  | object => "dict"
  | wide => "U256"

/-- Said of a value of a named sort that lacks a member it is asked for. -/
def noMember (sort member : String) : String :=
  s!"'{sort}' object has no attribute '{member}'"

/-- The word for a truth value. -/
def truthWord (value : Bool) : String := if value then "True" else "False"

/-! ## Kinds that do not go together -/

/-- Why an operation has no result for values of these kinds. -/
inductive KindError where
  /-- The operator is not defined for them. -/
  | noOperator (symbol : String) (left right : ValueKind)
  /-- They have no order. -/
  | unordered (symbol : String) (left right : ValueKind)
  /-- A list is followed by a list only. -/
  | notJoined (right : ValueKind)
  deriving DecidableEq, Repr

/-- The wording of each cause. -/
def KindError.message : KindError → String
  | noOperator symbol left right =>
    s!"unsupported operand type(s) for {symbol}: '{left.name}' and '{right.name}'"
  | unordered symbol left right =>
    s!"'{symbol}' not supported between instances of '{left.name}' and '{right.name}'"
  | notJoined right => s!"can only concatenate list (not \"{right.name}\") to list"

/-! ## Offers -/

/-- A value offered where an integer is expected. -/
inductive Offered where
  | integer (value : Int)
  | other (kind : ValueKind)
  deriving DecidableEq, Repr

instance : Coe Int Offered := ⟨Offered.integer⟩

/-- Why an offered value has no wide amount. -/
inductive OfferError where
  | notAnInteger (kind : ValueKind)
  | range (cause : WideError)
  deriving DecidableEq, Repr

/-- The wording of each cause. -/
def OfferError.message : OfferError → String
  | notAnInteger kind => s!"U256 requires int, got {kind.name}"
  | range cause => cause.message

/-- The wide amount equal to an offered value. -/
def Wide.ofOffered : Offered → Except OfferError Wide
  | .integer value => (Wide.ofInt value).mapError .range
  | .other kind => .error (.notAnInteger kind)

/-- Why there is no exact quotient: only rounded ones are whole. -/
def Wide.exactDivisionMessage : String :=
  "U256 does not support true division, use // or ceil_div()"

end PegPool
