import PegPool.Curve.Kind
import PegPool.Text.Template
import PegPool.Value

/-!
# Problems with parameters

What can be wrong with the parameters of a curve. Several fields may be wrong
at once, and each is reported with its place.
-/

namespace PegPool

/-- Why a value is not a number that a record can hold. -/
inductive NumberError where
  | bool
  | notANumeral (text : String)
  | wrongKind (kind : ValueKind)
  | negative (value : Int)
  | tooLarge (value : Int)
  deriving DecidableEq, Repr

/-- The wording of each cause. -/
def NumberError.message : NumberError → String
  | bool => "U128 cannot be a boolean"
  | notANumeral text => s!"U128 must be a decimal integer string: '{text}'"
  | wrongKind kind => s!"U128 must be string or int, got {kind.name}"
  | negative value => s!"U128 cannot be negative: {value}"
  | tooLarge value => s!"U128 overflow: {value} > 2^128-1"

/-- One thing that is wrong with the parameters of a curve. -/
inductive Problem where
  /-- No kind of curve has this word. -/
  | unknownKind (word : String)
  /-- The field has no value and no default. -/
  | missing (kind : CurveKind) (field : String)
  /-- The field has a value that is no number for a record. -/
  | badNumber (kind : CurveKind) (field : String) (cause : NumberError)
  deriving DecidableEq, Repr

namespace Problem

/-- The kind of a problem. -/
def type : Problem → String
  | unknownKind _ => "union_tag_invalid"
  | missing _ _ => "missing"
  | badNumber _ _ _ => "value_error"

/-- Where the problem lies: the word of the curve's kind, then the field. -/
def location : Problem → List String
  | unknownKind _ => []
  | missing kind field | badNumber kind field _ => [kind.word, field]

/-- The words by which a kind of curve can be chosen, as they are listed. -/
def knownWords : String :=
  String.intercalate ", " (CurveKind.all.map fun kind => "'" ++ kind.word ++ "'")

/-- What is said of a word for no kind of curve, with a hole for the word and
one for the words that there are. -/
def unknownKindTemplate : String :=
  "Input tag '\x7btag\x7d' found using _get_curve_type() does not match "
    ++ "any of the expected tags: \x7bexpected_tags\x7d"

/-- The wording of a problem. The hole for the known words is filled last, so
its name in an unknown word is filled with them too. -/
def message : Problem → String
  | unknownKind word =>
    Text.fill (Text.fill unknownKindTemplate "tag" word) "expected_tags" knownWords
  | missing _ _ => "Field required"
  | badNumber _ _ cause => s!"Value error, {cause.message}"

end Problem

end PegPool
