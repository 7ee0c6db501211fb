import PegPool.Proofs.Record.Field
import PegPool.Proofs.Wide
import PegPool.Record

/-!
# Stored curves read back

A stored curve is read back as it was, whatever bytes follow it. The other way
round only the bytes that a curve of its kind has are kept: a fixed price
leaves the rest of the largest record unread, and it is stored as zeros.
-/

namespace PegPool

open Record

/-! ## Records without a tag -/

namespace ConstantPrice

variable {curve : ConstantPrice} {bytes : List UInt8}

theorem length_pack (curve : ConstantPrice) : curve.pack.length = size :=
  length_packField _

theorem unpack_of_size_le (h : size ≤ bytes.length) : unpack bytes = .ok ⟨fieldAt bytes 0⟩ := by
  rw [unpack, if_neg (Nat.not_lt.2 h)]

theorem unpack_pack_append (curve : ConstantPrice) (rest : List UInt8) :
    unpack (curve.pack ++ rest) = .ok curve := by
  have hsize : size ≤ (curve.pack ++ rest).length := by
    rw [List.length_append, length_pack]
    exact Nat.le_add_right _ _
  rw [unpack_of_size_le hsize, pack, fieldAt_zero]

theorem pack_of_unpack (h : unpack bytes = .ok curve) : curve.pack = bytes.take size := by
  unfold unpack at h
  split at h
  · cases h
  · rename_i hsize
    cases h
    have hfield : (0 + 1) * fieldSize ≤ bytes.length := Nat.not_lt.1 hsize
    exact packField_fieldAt hfield

end ConstantPrice

namespace RedemptionRate

variable {curve : RedemptionRate} {bytes : List UInt8}

theorem length_pack (curve : RedemptionRate) : curve.pack.length = size :=
  length_packFields _

theorem unpack_of_size_le (h : size ≤ bytes.length) : unpack bytes = .ok
    { ray := fieldAt bytes 0, maxSsr := fieldAt bytes 1, ssr := fieldAt bytes 2,
      rho := fieldAt bytes 3, chi := fieldAt bytes 4 } := by
  rw [unpack, if_neg (Nat.not_lt.2 h)]

theorem unpack_pack_append (curve : RedemptionRate) (rest : List UInt8) :
    unpack (curve.pack ++ rest) = .ok curve := by
  have hsize : size ≤ (curve.pack ++ rest).length := by
    rw [List.length_append, length_pack]
    exact Nat.le_add_right _ _
  have hfield (position : Nat) (h : position < 5) : fieldAt (curve.pack ++ rest) position
      = [curve.ray, curve.maxSsr, curve.ssr, curve.rho, curve.chi][position] :=
    fieldAt_packFields _ rest h
  rw [unpack_of_size_le hsize, hfield 0 (by decide), hfield 1 (by decide), hfield 2 (by decide),
    hfield 3 (by decide), hfield 4 (by decide)]
  rfl

theorem pack_of_unpack (h : unpack bytes = .ok curve) : curve.pack = bytes.take size := by
  unfold unpack at h
  split at h
  · cases h
  · rename_i hsize
    cases h
    have hfields : 5 * fieldSize ≤ bytes.length := Nat.not_lt.1 hsize
    exact packFields_fieldAt hfields

end RedemptionRate

/-! ## Records of either kind -/

/-- Bytes of a record of a kind. -/
def CurveKind.recordSize : CurveKind → Nat
  | constantPrice => ConstantPrice.size
  | redemptionRate => RedemptionRate.size

theorem CurveKind.recordSize_le (kind : CurveKind) : kind.recordSize ≤ Curve.recordSize := by
  cases kind <;> decide

namespace Curve

variable {curve : Curve} {kind : CurveKind} {bytes : List UInt8}

theorem length_packRecord (curve : Curve) : curve.packRecord.length = curve.kind.recordSize := by
  cases curve with
  | constantPrice record => exact record.length_pack
  | redemptionRate record => exact record.length_pack

theorem unpackRecord_packRecord_append (curve : Curve) (rest : List UInt8) :
    unpackRecord curve.kind (curve.packRecord ++ rest) = .ok curve := by
  cases curve with
  | constantPrice record => exact map_eq_ok_iff.2 ⟨record, record.unpack_pack_append rest, rfl⟩
  | redemptionRate record => exact map_eq_ok_iff.2 ⟨record, record.unpack_pack_append rest, rfl⟩

theorem exists_unpackRecord (kind : CurveKind) (h : recordSize ≤ bytes.length) :
    ∃ curve, unpackRecord kind bytes = .ok curve := by
  have hsize := kind.recordSize_le.trans h
  cases kind with
  | constantPrice => exact ⟨_, map_eq_ok_iff.2 ⟨_, ConstantPrice.unpack_of_size_le hsize, rfl⟩⟩
  | redemptionRate => exact ⟨_, map_eq_ok_iff.2 ⟨_, RedemptionRate.unpack_of_size_le hsize, rfl⟩⟩

theorem packRecord_of_unpackRecord (h : unpackRecord kind bytes = .ok curve) :
    curve.kind = kind ∧ curve.packRecord = bytes.take kind.recordSize := by
  cases kind with
  | constantPrice =>
    obtain ⟨record, hrecord, rfl⟩ := map_eq_ok_iff.1 h
    exact ⟨rfl, ConstantPrice.pack_of_unpack hrecord⟩
  | redemptionRate =>
    obtain ⟨record, hrecord, rfl⟩ := map_eq_ok_iff.1 h
    exact ⟨rfl, RedemptionRate.pack_of_unpack hrecord⟩

end Curve

/-! ## Tags as bytes -/

namespace CurveKind

variable {tag : UInt8}

/-- The kinds are told apart by the two least bytes. -/
theorem ofTag?_toNat (tag : UInt8) : ofTag? tag.toNat =
    if tag = 0 then some constantPrice else if tag = 1 then some redemptionRate else none := by
  have hzero : (tag.toNat : Int) = 0 ↔ tag = 0 := by
    rw [← UInt8.toNat_inj, UInt8.toNat_zero]
    omega
  have hone : (tag.toNat : Int) = 1 ↔ tag = 1 := by
    rw [← UInt8.toNat_inj, UInt8.toNat_one]
    omega
  simp only [ofTag?, hzero, hone]

theorem ofTag?_toNat_eq_some_iff {kind : CurveKind} :
    ofTag? tag.toNat = some kind ↔ tag = UInt8.ofNat kind.tag := by
  rw [ofTag?_toNat]
  cases kind with
  | constantPrice =>
    change _ ↔ tag = 0
    grind
  | redemptionRate =>
    change _ ↔ tag = 1
    grind

theorem ofTag?_toNat_eq_none_iff : ofTag? tag.toNat = none ↔ tag ≠ 0 ∧ tag ≠ 1 := by
  rw [ofTag?_toNat]
  grind

end CurveKind

/-! ## Records with a tag -/

namespace Curve

variable {curve : Curve} {bytes rest : List UInt8} {tag : UInt8}

theorem length_pack (curve : Curve) : curve.pack.length = size := by
  have hle := curve.kind.recordSize_le
  rw [← length_packRecord] at hle
  rw [pack, List.length_cons, List.length_rightpad, Nat.max_eq_left hle, size, Nat.add_comm]

theorem unpack_of_length_lt (h : bytes.length < size) :
    unpack bytes = .error (.tooShort size bytes.length) := by
  cases bytes with
  | nil => rfl
  | cons tag rest => rw [unpack, if_pos h]

theorem unpack_of_unknown_tag (h : size ≤ (tag :: rest).length)
    (htag : CurveKind.ofTag? tag.toNat = none) :
    unpack (tag :: rest) = .error (.unknownTag tag.toNat) := by
  rw [unpack, if_neg (Nat.not_lt.2 h), htag]

theorem unpack_of_tag {kind : CurveKind} (h : size ≤ (tag :: rest).length)
    (htag : CurveKind.ofTag? tag.toNat = some kind) :
    unpack (tag :: rest) = unpackRecord kind (rest.take recordSize) := by
  rw [unpack, if_neg (Nat.not_lt.2 h), htag]

theorem unpack_pack_append (curve : Curve) (rest : List UInt8) :
    unpack (curve.pack ++ rest) = .ok curve := by
  have hle : curve.packRecord.length ≤ recordSize :=
    (length_packRecord curve).trans_le curve.kind.recordSize_le
  have hsize : size ≤ (curve.pack ++ rest).length := by
    rw [List.length_append, length_pack]
    exact Nat.le_add_right _ _
  have htake : (curve.packRecord.rightpad recordSize 0 ++ rest).take recordSize
      = curve.packRecord.rightpad recordSize 0 := by
    rw [List.take_left' (by rw [List.length_rightpad, Nat.max_eq_left hle])]
  rw [pack, List.cons_append] at hsize ⊢
  rw [unpack_of_tag hsize (CurveKind.ofTag?_toNat_eq_some_iff.2 rfl), htake, List.rightpad]
  exact unpackRecord_packRecord_append curve _

theorem unpack_pack (curve : Curve) : unpack curve.pack = .ok curve := by
  rw [← List.append_nil curve.pack]
  exact unpack_pack_append curve []

theorem exists_unpack (h : size ≤ (tag :: rest).length) {kind : CurveKind}
    (htag : CurveKind.ofTag? tag.toNat = some kind) :
    ∃ curve, unpack (tag :: rest) = .ok curve := by
  have hrest : recordSize ≤ (rest.take recordSize).length := by
    rw [List.length_cons, size] at h
    rw [List.length_take]
    omega
  rw [unpack_of_tag h htag]
  exact exists_unpackRecord kind hrest

/-- A curve is stored as the tag and the fields that it was read from, and then
zeros. -/
theorem pack_of_unpack (h : size ≤ (tag :: rest).length) {kind : CurveKind}
    (htag : CurveKind.ofTag? tag.toNat = some kind) (hcurve : unpack (tag :: rest) = .ok curve) :
    curve.kind = kind ∧ curve.pack = (tag :: rest).take (1 + kind.recordSize)
      ++ List.replicate (recordSize - kind.recordSize) 0 := by
  rw [unpack_of_tag h htag] at hcurve
  obtain ⟨hkind, hrecord⟩ := packRecord_of_unpackRecord hcurve
  rw [List.take_take, Nat.min_eq_left kind.recordSize_le] at hrecord
  refine ⟨hkind, ?_⟩
  rw [pack, List.rightpad, length_packRecord, hrecord, hkind,
    ← CurveKind.ofTag?_toNat_eq_some_iff.1 htag, Nat.add_comm 1, List.take_succ_cons,
    List.cons_append]

/-! ## The outcome of reading -/

/-- What reading bytes comes to. Their number is looked at first, then the tag,
and nothing else can go wrong. -/
inductive Reading (bytes : List UInt8) : Except CurveError Curve → Prop where
  | tooShort (short : bytes.length < size) :
    Reading bytes (.error (.tooShort size bytes.length))
  | unknownTag {tag : UInt8} (enough : size ≤ bytes.length) (first : bytes[0]? = some tag)
    (zero : tag ≠ 0) (one : tag ≠ 1) : Reading bytes (.error (.unknownTag tag.toNat))
  | curve {curve : Curve} (enough : size ≤ bytes.length)
    (first : bytes[0]? = some (UInt8.ofNat curve.kind.tag))
    (stored : curve.pack = bytes.take (1 + curve.kind.recordSize)
      ++ List.replicate (recordSize - curve.kind.recordSize) 0) : Reading bytes (.ok curve)

theorem reading (bytes : List UInt8) : Reading bytes (unpack bytes) := by
  rcases Nat.lt_or_ge bytes.length size with hshort | hsize
  · rw [unpack_of_length_lt hshort]
    exact .tooShort hshort
  cases bytes with
  | nil => exact absurd hsize (by decide)
  | cons tag rest =>
    cases htag : CurveKind.ofTag? tag.toNat with
    | none =>
      obtain ⟨hzero, hone⟩ := CurveKind.ofTag?_toNat_eq_none_iff.1 htag
      rw [unpack_of_unknown_tag hsize htag]
      exact .unknownTag hsize rfl hzero hone
    | some kind =>
      obtain ⟨curve, hcurve⟩ := exists_unpack hsize htag
      obtain ⟨rfl, hstored⟩ := pack_of_unpack hsize htag hcurve
      rw [hcurve]
      refine .curve hsize ?_ hstored
      rw [← CurveKind.ofTag?_toNat_eq_some_iff.1 htag]
      rfl

theorem size_eq : size = 81 := by decide

/-- Enough bytes after the tag of an index are one, and are kept when it is
stored. -/
theorem unpack_of_first_eq_one (henough : 81 ≤ bytes.length) (hone : bytes[0]? = some 1) :
    ∃ record, unpack bytes = .ok (.redemptionRate record) ∧
      (redemptionRate record).pack = bytes.take 81 := by
  have hreading := reading bytes
  generalize unpack bytes = outcome at hreading
  cases hreading with
  | tooShort short =>
    rw [size_eq] at short
    omega
  | unknownTag enough first zero one =>
    rw [first, Option.some.injEq] at hone
    exact absurd hone one
  | @curve curve enough first stored =>
    cases curve with
    | constantPrice record =>
      rw [first] at hone
      cases hone
    | redemptionRate record =>
      -- no zeros follow, as this is the largest record
      have hstored : (redemptionRate record).pack = bytes.take 81 ++ [] := stored
      rw [List.append_nil] at hstored
      exact ⟨record, rfl, hstored⟩

/-! ## The stored form -/

/-- Bytes read as a curve and stored again. -/
def repack (bytes : List UInt8) : Except CurveError (List UInt8) := pack <$> unpack bytes

/-- Reading undoes storing, whatever follows. Storing undoes reading up to the
size of a record, and for a fixed price up to its one field. -/
theorem stored_form_exact :
    (∀ (curve : Curve) (rest : List UInt8),
      curve.pack.length = 81 ∧ unpack (curve.pack ++ rest) = .ok curve) ∧
    (∀ bytes : List UInt8,
      ((∃ cause, unpack bytes = .error cause ∧ cause.failure = .invalidCurveData) ↔
        bytes.length < 81) ∧
      ((∃ cause, unpack bytes = .error cause ∧ cause.failure = .invalidCurveType) ↔
        81 ≤ bytes.length ∧ bytes[0]? ≠ some 0 ∧ bytes[0]? ≠ some 1) ∧
      ((∃ curve, unpack bytes = .ok curve) ↔
        81 ≤ bytes.length ∧ (bytes[0]? = some 0 ∨ bytes[0]? = some 1)) ∧
      ∀ curve, unpack bytes = .ok curve → curve.pack = if bytes[0]? = some 1
        then bytes.take 81 else bytes.take 17 ++ List.replicate 64 0) ∧
    Function.Injective pack ∧
    ∀ bytes once, repack bytes = .ok once → repack once = .ok once := by
  refine ⟨fun curve rest => ⟨length_pack curve, unpack_pack_append curve rest⟩, ?_, ?_, ?_⟩
  · intro bytes
    have hreading := reading bytes
    generalize unpack bytes = outcome at hreading
    cases hreading with
    | tooShort short =>
      rw [size_eq] at short
      simp [CurveError.failure, short, Nat.not_le.2 short]
    | unknownTag enough first zero one =>
      rw [size_eq] at enough
      simp [CurveError.failure, enough, Nat.not_lt.2 enough, first, zero, one]
    | @curve curve enough first stored =>
      rw [size_eq] at enough
      cases curve with
      | constantPrice record =>
        have hfirst : bytes[0]? = some 0 := first
        have hstored : (constantPrice record).pack = bytes.take 17 ++ List.replicate 64 0 := stored
        simp [enough, Nat.not_lt.2 enough, hfirst, hstored]
      | redemptionRate record =>
        have hfirst : bytes[0]? = some 1 := first
        have hstored : (redemptionRate record).pack = bytes.take 81 ++ [] := stored
        simp [enough, Nat.not_lt.2 enough, hfirst, hstored]
  · intro first second h
    have hsecond := unpack_pack second
    rw [← h, unpack_pack first, Except.ok.injEq] at hsecond
    exact hsecond
  · intro bytes once h
    obtain ⟨curve, -, rfl⟩ := map_eq_ok_iff.1 h
    exact map_eq_ok_iff.2 ⟨curve, unpack_pack curve, rfl⟩

/-- Of a row of sevens after the tag of a fixed price the first sixteen make the
price. The others are zeros once it is stored, and stay so. -/
theorem stored_form_exact_sevens :
    let bytes : List UInt8 := 0 :: List.replicate 90 7
    let once := bytes.take 17 ++ List.replicate 64 0
    ∃ curve, unpack bytes = .ok curve ∧ curve.pack = once ∧ repack bytes = .ok once ∧
      repack once = .ok once := by
  intro bytes once
  obtain ⟨-, hbytes, -, hrepack⟩ := stored_form_exact
  obtain ⟨-, -, hread, hstored⟩ := hbytes bytes
  obtain ⟨curve, hcurve⟩ := hread.2 ⟨by decide, .inl rfl⟩
  have hpack : curve.pack = once := hstored curve hcurve
  have honce : repack bytes = .ok once := map_eq_ok_iff.2 ⟨curve, hcurve, hpack⟩
  exact ⟨curve, hcurve, hpack, honce, hrepack bytes once honce⟩

end Curve

end PegPool
