import PegPool.Curve.Error
import PegPool.Narrow

/-!
# Fields as bytes

A number of a record takes sixteen bytes, the least significant first. Fields
follow each other without a gap.
-/

namespace PegPool.Record

/-- Bytes of one field. -/
def fieldSize : Nat := 16

/-! ## One number -/

/-- The lowest `width` bytes of a number, the least significant first. -/
def toBytes : Nat → Nat → List UInt8
  | 0, _ => []
  | width + 1, n => UInt8.ofNat (n % 256) :: toBytes width (n / 256)

/-- The number with the given bytes, the least significant first. -/
def ofBytes : List UInt8 → Nat
  | [] => 0
  | byte :: rest => byte.toNat + 256 * ofBytes rest

/-- How many numbers a count of bytes can tell apart. -/
def capacity : Nat → Nat
  | 0 => 1
  | width + 1 => 256 * capacity width

theorem capacity_fieldSize : capacity fieldSize = narrowMax + 1 := by decide

theorem capacity_mono {m n : Nat} (h : m ≤ n) : capacity m ≤ capacity n := by
  induction h with
  | refl => exact Nat.le_refl _
  | step _ ih => rw [capacity]; omega

theorem length_toBytes (width n : Nat) : (toBytes width n).length = width := by
  induction width generalizing n with
  | zero => rfl
  | succ width ih => simp [toBytes, ih]

theorem ofBytes_lt (bytes : List UInt8) : ofBytes bytes < capacity bytes.length := by
  induction bytes with
  | nil => exact Nat.zero_lt_one
  | cons byte rest ih =>
    have := byte.toNat_lt
    rw [ofBytes, List.length_cons, capacity]
    omega

theorem ofBytes_toBytes (width n : Nat) :
    ofBytes (toBytes width n) = n % capacity width := by
  induction width generalizing n with
  | zero => rw [toBytes, ofBytes, capacity, Nat.mod_one]
  | succ width ih =>
    rw [toBytes, ofBytes, ih, UInt8.toNat_ofNat', capacity, Nat.mod_mul]
    omega

/-! ## Fields in a row -/

/-- The bytes of a field. -/
def packField (number : Narrow) : List UInt8 := toBytes fieldSize number.toNat

/-- The bytes of fields in a row. -/
def packFields (numbers : List Narrow) : List UInt8 := numbers.flatMap packField

/-- The field at a position. Bytes that are not there count as zero. -/
def fieldAt (bytes : List UInt8) (position : Nat) : Narrow where
  toNat := ofBytes ((bytes.drop (position * fieldSize)).take fieldSize)
  toNat_le := by
    have hlt := ofBytes_lt ((bytes.drop (position * fieldSize)).take fieldSize)
    have hle : capacity ((bytes.drop (position * fieldSize)).take fieldSize).length
        ≤ capacity fieldSize := capacity_mono (List.length_take_le _ _)
    rw [capacity_fieldSize] at hle
    omega

/-- The first fields of a row, unless bytes are missing. A count below zero
stands for no field. -/
def unpackFields (bytes : List UInt8) (count : Int) : Except CurveError (List Narrow) :=
  let needed := count * fieldSize
  if bytes.length < needed then .error (.tooShort needed bytes.length)
  else .ok ((List.range count.toNat).map (fieldAt bytes))

/-! ## Unchecked numbers -/

/-- Why an integer has no field. -/
inductive FieldError where
  | negative
  | tooLarge
  deriving DecidableEq, Repr

/-- The wording of each cause. -/
def FieldError.message : FieldError → String
  | negative => "can't convert negative int to unsigned"
  | tooLarge => "int too big to convert"

/-- The bytes of the field that an integer has. -/
def packInt (value : Int) : Except FieldError (List UInt8) :=
  match Narrow.ofInt? value with
  | some number => .ok (packField number)
  | none => .error (if value < 0 then .negative else .tooLarge)

/-- The bytes of the fields that integers have. -/
def packInts (values : List Int) : Except FieldError (List UInt8) := do
  return (← values.mapM packInt).flatten

end PegPool.Record
