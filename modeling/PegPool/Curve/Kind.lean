/-!
# Kinds of curve
-/

namespace PegPool

/-- How the price of token B comes about: it is fixed, or it is an index that
compounds with time. -/
inductive CurveKind where
  | constantPrice
  | redemptionRate
  deriving DecidableEq, Repr

namespace CurveKind

/-- All kinds, in the order of their tags. -/
def all : List CurveKind := [constantPrice, redemptionRate]

/-- The first byte of a stored curve. -/
def tag : CurveKind → Nat
  | constantPrice => 0
  | redemptionRate => 1

/-- The kind with a given tag. -/
def ofTag? (tag : Int) : Option CurveKind :=
  if tag = 0 then some constantPrice
  else if tag = 1 then some redemptionRate
  else none

/-- The name of a kind. -/
def name : CurveKind → String
  | constantPrice => "CONSTANT_PRICE"
  | redemptionRate => "REDEMPTION_RATE"

/-- The word that names a kind among curve parameters. -/
def word : CurveKind → String
  | constantPrice => "constant_price"
  | redemptionRate => "redemption_rate"

/-- The kind that a word names. -/
def ofWord? (text : String) : Option CurveKind :=
  if text = constantPrice.word then some constantPrice
  else if text = redemptionRate.word then some redemptionRate
  else none

/-- The name of the record that holds the numbers of a curve of this kind. -/
def recordName : CurveKind → String
  | constantPrice => "ConstantPriceCurve"
  | redemptionRate => "RedemptionRateCurve"

/-- The written form of a kind. -/
def describe (kind : CurveKind) : String :=
  s!"<CurveType.{kind.name}: {kind.tag}>"

theorem ofTag?_tag (kind : CurveKind) : ofTag? kind.tag = some kind := by
  cases kind <;> decide

theorem ofWord?_word (kind : CurveKind) : ofWord? kind.word = some kind := by
  cases kind <;> decide

end CurveKind

/-- The tag that is named for a curve: by a number, which need not be a tag at
all, or by a kind. -/
inductive NamedTag where
  | number (value : Int)
  | kind (kind : CurveKind)
  deriving DecidableEq, Repr

namespace NamedTag

/-- The kind that a named tag stands for. -/
def kind? : NamedTag → Option CurveKind
  | number value => CurveKind.ofTag? value
  | kind k => some k

/-- The written form of a named tag. -/
def describe : NamedTag → String
  | number value => toString value
  | kind k => k.describe

end NamedTag

end PegPool
