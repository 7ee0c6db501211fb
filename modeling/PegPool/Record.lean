import PegPool.Curve
import PegPool.Record.Field

/-!
# Stored curves

A curve is stored in 81 bytes: the tag of its kind, then the fields of its
record, then zeros up to the size of the largest record. Reading looks at no
byte past the fields.
-/

namespace PegPool

/-! ## Records without a tag -/

namespace ConstantPrice

/-- Bytes of a record. -/
def size : Nat := Record.fieldSize

/-- The bytes of a record. -/
def pack (curve : ConstantPrice) : List UInt8 := Record.packField curve.tokenBPrice

/-- The record at the start of a row of bytes. -/
def unpack (bytes : List UInt8) : Except CurveError ConstantPrice :=
  if bytes.length < size then .error (.tooShort size bytes.length)
  else .ok ⟨Record.fieldAt bytes 0⟩

end ConstantPrice

namespace RedemptionRate

/-- Bytes of a record. -/
def size : Nat := 5 * Record.fieldSize

/-- The bytes of a record. -/
def pack (curve : RedemptionRate) : List UInt8 :=
  Record.packFields [curve.ray, curve.maxSsr, curve.ssr, curve.rho, curve.chi]

/-- The record at the start of a row of bytes. -/
def unpack (bytes : List UInt8) : Except CurveError RedemptionRate :=
  if bytes.length < size then .error (.tooShort size bytes.length)
  else
    let field := Record.fieldAt bytes
    .ok { ray := field 0, maxSsr := field 1, ssr := field 2, rho := field 3, chi := field 4 }

end RedemptionRate

namespace Curve

/-- The bytes of a curve's record. -/
def packRecord : Curve → List UInt8
  | constantPrice record => record.pack
  | redemptionRate record => record.pack

/-- The curve of a kind whose record stands at the start of a row of bytes. -/
def unpackRecord (kind : CurveKind) (bytes : List UInt8) : Except CurveError Curve :=
  match kind with
  | .constantPrice => constantPrice <$> ConstantPrice.unpack bytes
  | .redemptionRate => redemptionRate <$> RedemptionRate.unpack bytes

/-! ## Records with a tag -/

/-- Bytes for the record of a stored curve of any kind. -/
def recordSize : Nat := max ConstantPrice.size RedemptionRate.size

/-- Bytes of a stored curve. -/
def size : Nat := 1 + recordSize

/-- A stored curve. -/
def pack (curve : Curve) : List UInt8 :=
  UInt8.ofNat curve.kind.tag :: curve.packRecord.rightpad recordSize 0

/-- The curve stored at the start of a row of bytes. Missing bytes are noticed
before the tag is looked at. -/
def unpack (bytes : List UInt8) : Except CurveError Curve :=
  match bytes with
  | [] => .error (.tooShort size 0)
  | tag :: rest =>
    if bytes.length < size then .error (.tooShort size bytes.length)
    else
      match CurveKind.ofTag? tag.toNat with
      | none => .error (.unknownTag tag.toNat)
      | some kind => unpackRecord kind (rest.take recordSize)

end Curve

end PegPool
