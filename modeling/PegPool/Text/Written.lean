import PegPool.Text.Numeral

/-!
# Written integers

No more digits are written than a numeral may have. A wording that would need
more is not said at all; a complaint is said in its place.
-/

namespace PegPool.Text

/-- The least number that has too many digits to be written. -/
def writeBound : Nat := Nat.pow 10 maxDigits

/-- The integer has few enough digits to be written. -/
def isWritable (value : Int) : Bool := value.natAbs < writeBound

/-- The complaint about an integer with too many digits. -/
def tooManyDigits : String :=
  s!"Exceeds the limit ({maxDigits} digits) for integer string conversion; "
    ++ "use sys.set_int_max_str_digits() to increase the limit"

/-- A wording in which integers are told, or the complaint about one of them. -/
def tell (integers : List Int) (wording : String) : Except String String :=
  if integers.all isWritable then .ok wording else .error tooManyDigits

theorem all_isWritable_iff {integers : List Int} :
    integers.all isWritable = true ↔ ∀ value ∈ integers, value.natAbs < writeBound := by
  simp [isWritable]

theorem tell_eq_ok_iff {integers : List Int} {wording told : String} :
    tell integers wording = .ok told
      ↔ (∀ value ∈ integers, value.natAbs < writeBound) ∧ wording = told := by
  rw [← all_isWritable_iff, tell]
  by_cases h : integers.all isWritable = true <;> simp [h]

end PegPool.Text
