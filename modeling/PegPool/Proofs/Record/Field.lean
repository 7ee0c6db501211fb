import PegPool.Record.Field

/-!
# Fields read back

A field is read back from where it was written, and what is written from a
field are the bytes that it was read from. Both carry over to fields in a row,
whatever bytes follow them.
-/

namespace PegPool.Record

/-! ## One number -/

theorem toBytes_ofBytes (bytes : List UInt8) : toBytes bytes.length (ofBytes bytes) = bytes := by
  induction bytes with
  | nil => rfl
  | cons byte rest ih =>
    have hbyte := byte.toNat_lt
    have hlow : (byte.toNat + 256 * ofBytes rest) % 256 = byte.toNat := by omega
    have hhigh : (byte.toNat + 256 * ofBytes rest) / 256 = ofBytes rest := by omega
    rw [List.length_cons, ofBytes, toBytes, hlow, hhigh, ih, UInt8.ofNat_toNat]

/-! ## One field -/

theorem length_packField (number : Narrow) : (packField number).length = fieldSize :=
  length_toBytes _ _

theorem toNat_fieldAt (bytes : List UInt8) (position : Nat) : (fieldAt bytes position).toNat
    = ofBytes ((bytes.drop (position * fieldSize)).take fieldSize) := rfl

theorem fieldAt_zero (number : Narrow) (rest : List UInt8) :
    fieldAt (packField number ++ rest) 0 = number := by
  have hlt : number.toNat < capacity fieldSize := by
    rw [capacity_fieldSize]
    exact Nat.lt_succ_of_le number.toNat_le
  have htake : (packField number ++ rest).take fieldSize = packField number := by
    rw [← length_packField number, List.take_left]
  apply Narrow.ext
  rw [toNat_fieldAt, Nat.zero_mul, List.drop_zero, htake, packField, ofBytes_toBytes,
    Nat.mod_eq_of_lt hlt]

theorem fieldAt_succ (number : Narrow) (rest : List UInt8) (position : Nat) :
    fieldAt (packField number ++ rest) (position + 1) = fieldAt rest position := by
  have hskip : (position + 1) * fieldSize = (packField number).length + position * fieldSize := by
    rw [length_packField, Nat.succ_mul, Nat.add_comm]
  apply Narrow.ext
  rw [toNat_fieldAt, toNat_fieldAt, hskip, List.drop_length_add_append]

theorem packField_fieldAt {bytes : List UInt8} {position : Nat}
    (h : (position + 1) * fieldSize ≤ bytes.length) :
    packField (fieldAt bytes position) = (bytes.drop (position * fieldSize)).take fieldSize := by
  have hlength : ((bytes.drop (position * fieldSize)).take fieldSize).length = fieldSize := by
    rw [Nat.succ_mul] at h
    rw [List.length_take, List.length_drop]
    omega
  have hback := toBytes_ofBytes ((bytes.drop (position * fieldSize)).take fieldSize)
  rwa [hlength] at hback

/-! ## Fields in a row -/

@[simp] theorem packFields_cons (number : Narrow) (numbers : List Narrow) :
    packFields (number :: numbers) = packField number ++ packFields numbers := rfl

theorem packFields_append (first second : List Narrow) :
    packFields (first ++ second) = packFields first ++ packFields second :=
  List.flatMap_append

theorem length_packFields (numbers : List Narrow) :
    (packFields numbers).length = numbers.length * fieldSize := by
  induction numbers with
  | nil => rw [packFields, List.flatMap_nil, List.length_nil, List.length_nil, Nat.zero_mul]
  | cons number numbers ih =>
    rw [packFields_cons, List.length_append, length_packField, ih, List.length_cons, Nat.succ_mul,
      Nat.add_comm]

theorem fieldAt_packFields (numbers : List Narrow) (rest : List UInt8) {position : Nat}
    (h : position < numbers.length) :
    fieldAt (packFields numbers ++ rest) position = numbers[position] := by
  induction numbers generalizing position with
  | nil => exact absurd h (Nat.not_lt_zero _)
  | cons number numbers ih =>
    rw [packFields_cons, List.append_assoc]
    cases position with
    | zero => exact fieldAt_zero number _
    | succ position =>
      rw [fieldAt_succ, ih (Nat.lt_of_succ_lt_succ h), List.getElem_cons_succ]

theorem packFields_fieldAt {bytes : List UInt8} {count : Nat}
    (h : count * fieldSize ≤ bytes.length) :
    packFields ((List.range count).map (fieldAt bytes)) = bytes.take (count * fieldSize) := by
  induction count with
  | zero => rw [Nat.zero_mul, List.take_zero]; rfl
  | succ count ih =>
    have hcount : count * fieldSize ≤ bytes.length :=
      Nat.le_trans (Nat.mul_le_mul_right _ (Nat.le_succ count)) h
    rw [List.range_succ, List.map_append, packFields_append, ih hcount, List.map_singleton,
      packFields_cons, packField_fieldAt h, Nat.succ_mul, List.take_add]
    exact congrArg _ (List.append_nil _)

/-! ## Integers as fields -/

theorem packInt_toNat (number : Narrow) : packInt number.toNat = .ok (packField number) := by
  rw [packInt, Narrow.ofInt?_toNat]

theorem packInts_toNat (numbers : List Narrow) :
    packInts (numbers.map fun number => (number.toNat : Int)) = .ok (packFields numbers) := by
  have hfields : (numbers.map fun number => (number.toNat : Int)).mapM packInt
      = .ok (numbers.map packField) := by
    induction numbers with
    | nil => rfl
    | cons number numbers ih =>
      rw [List.map_cons, List.mapM_cons, packInt_toNat, ih]
      rfl
  rw [packInts, hfields, packFields, List.flatMap_def]
  rfl

end PegPool.Record
