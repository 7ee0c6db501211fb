import PegPool.Document
import PegPool.Logged
import PegPool.Curve
import PegPool.Text.Numeral

/-!
# Curve parameters

A curve can be told as an object: a word for its kind, and its numbers by
name. A number is an integer or a numeral, since not every reader of such
files keeps all digits of a large integer. All fields are looked at before the
object is refused, so that every problem is reported at once.
-/

namespace PegPool

/-! ## Numbers -/

/-- The narrow number equal to an integer. -/
def Narrow.ofParameter (value : Int) : Except NumberError Narrow :=
  match Narrow.ofInt? value with
  | some number => .ok number
  | none => .error (if value < 0 then .negative value else .tooLarge value)

/-- The narrow number that a value stands for. -/
def Narrow.ofDocument : Document → Except NumberError Narrow
  | .bool _ => .error .bool
  | .text text =>
    match Text.parseInt text.toList with
    | some value => Narrow.ofParameter value
    | none => .error (.notANumeral text)
  | .integer value => Narrow.ofParameter value
  | other => .error (.wrongKind other.kind)

namespace Parameters

/-! ## Fields -/

/-- A field: its name, the name preferred in files, and the number it has when
neither is given. -/
structure Field where
  name : String
  preferred : String
  default : Option Narrow

/-- A field with a single name and no default. -/
def Field.plain (name : String) : Field := ⟨name, name, none⟩

/-- The price of a constant price curve. -/
def tokenBPrice : Field := ⟨"token_b_price", "tokenBPrice", none⟩

/-- The unit of an index; one ray unless told otherwise. -/
def ray : Field := ⟨"ray", "ray", some .oneRay⟩

/-- The greatest factor per second; no bound unless told otherwise. -/
def maxSsr : Field := ⟨"max_ssr", "maxSsr", some .zero⟩

/-- The factor per second. -/
def ssr : Field := .plain "ssr"

/-- The second of the last checkpoint. -/
def rho : Field := .plain "rho"

/-- The index at the last checkpoint. -/
def chi : Field := .plain "chi"

/-- The fields of each kind of curve, in the order of its record. -/
def fields : CurveKind → List Field
  | .constantPrice => [tokenBPrice]
  | .redemptionRate => [ray, maxSsr, ssr, rho, chi]

/-- The value given for a field, after the name under which it stands. The
preferred name goes before the other. -/
def Field.given? (field : Field) (entries : List (String × Document)) :
    Option (String × Document) :=
  [field.preferred, field.name].findSome? fun name =>
    (Document.lookup? entries name).map fun value => (name, value)

/-- The number of a field. A wrong value is reported under the name under which
it stands, a missing one under the preferred name. -/
def Field.read (field : Field) (kind : CurveKind) (entries : List (String × Document)) :
    Except Problem Narrow :=
  match field.given? entries, field.default with
  | some (name, value), _ => (Narrow.ofDocument value).mapError (.badNumber kind name)
  | none, some number => .ok number
  | none, none => .error (.missing kind field.preferred)

/-- What is wrong with fields. -/
def problems (numbers : List (Except Problem Narrow)) : List Problem :=
  numbers.filterMap fun
    | .ok _ => none
    | .error problem => some problem

/-! ## Reading -/

/-- The word for the kind of curve: the text under the first of two names that
is there. -/
def kindWord (entries : List (String × Document)) : String :=
  match Document.lookup? entries "curve_type" <|> Document.lookup? entries "curveType" with
  | some value => value.display
  | none => ""

/-- The curve of a kind that entries tell, or all that is wrong with them. -/
def readAs (kind : CurveKind) (entries : List (String × Document)) :
    Except (List Problem) Curve :=
  match kind with
  | .constantPrice =>
    match tokenBPrice.read kind entries with
    | .ok price => .ok (.constantPrice ⟨price⟩)
    | .error problem => .error [problem]
  | .redemptionRate =>
    match ray.read kind entries, maxSsr.read kind entries, ssr.read kind entries,
      rho.read kind entries, chi.read kind entries with
    | .ok ray, .ok maxSsr, .ok ssr, .ok rho, .ok chi =>
      .ok (.redemptionRate { ray, maxSsr, ssr, rho, chi })
    | ray, maxSsr, ssr, rho, chi => .error (problems [ray, maxSsr, ssr, rho, chi])

/-- The curve that entries tell, or all that is wrong with them. -/
def read (entries : List (String × Document)) : Except (List Problem) Curve :=
  let word := kindWord entries
  match CurveKind.ofWord? word with
  | some kind => readAs kind entries
  | none => .error [.unknownKind word]

/-- The curve that entries tell. What comes of reading them is reported. -/
def parse (entries : List (String × Document)) : Logged (Except CurveError Curve) :=
  match read entries with
  | .ok curve => do
    Logged.report (.curveParsed curve.kind)
    return .ok curve
  | .error problems => do
    Logged.report (.parametersRejected problems.length)
    return .error (.badParameters problems)

/-- Why a document tells no curve. -/
inductive DocumentError where
  | notAnObject (kind : ValueKind)
  | curve (cause : CurveError)
  deriving DecidableEq, Repr

/-- The wording of each cause. -/
def DocumentError.message : DocumentError → String
  | notAnObject kind => noMember kind.name "curve_type"
  | curve cause => cause.message

/-- The curve that a document tells. -/
def parseDocument : Document → Logged (Except DocumentError Curve)
  | .object entries => do
    return (← parse entries).mapError .curve
  | other => pure (.error (.notAnObject other.kind))

/-! ## Writing -/

/-- The numbers of a curve, in the order of its fields. -/
def numbers : Curve → List Narrow
  | .constantPrice record => [record.tokenBPrice]
  | .redemptionRate record => [record.ray, record.maxSsr, record.ssr, record.rho, record.chi]

/-- The entries that tell a curve, each number under the name that is chosen. -/
def write (nameOf : Field → String) (curve : Curve) : List (String × Document) :=
  ("curve_type", .text curve.kind.word) ::
    (fields curve.kind).zipWith (fun field number => (nameOf field, .integer number.toNat))
      (numbers curve)

end Parameters

end PegPool
