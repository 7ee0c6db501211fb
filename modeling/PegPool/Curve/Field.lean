import PegPool.Curve.Error
import PegPool.Narrow

/-!
# Fields of a record

A record is built from offered values, which become narrow numbers or are
refused under the field's name.
-/

namespace PegPool

/-- The narrow number offered for a field. -/
def Narrow.ofOffered (field : String) : Offered → Except CurveError Narrow
  | .other kind => .error (.fieldKind field kind)
  | .integer value =>
    match Narrow.ofInt? value with
    | some number => .ok number
    | none => .error (.fieldRange field value)

/-- The narrow numbers offered for named fields, in their order. -/
def Narrow.ofOfferedFields (fields : List (String × Offered)) :
    Except CurveError (List Narrow) :=
  fields.mapM fun (field, value) => Narrow.ofOffered field value

theorem Narrow.ofOffered_toNat (field : String) (n : Narrow) :
    Narrow.ofOffered field (.integer n.toNat) = .ok n := by
  simp [Narrow.ofOffered, Narrow.ofInt?_toNat]

end PegPool
