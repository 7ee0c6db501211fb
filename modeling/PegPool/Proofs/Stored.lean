import PegPool.Proofs.History
import PegPool.Proofs.Record

/-!
# Stored curves over time

A checkpoint can be proposed to a record, to an engine, and to the bytes of a
stored curve. The three are in step: the bytes go through the stored forms of
the records, and what refuses a proposal is the same everywhere. On the bytes a
checkpoint replaces three fields and touches nothing before them.
-/

namespace PegPool

/-! ## The fields of a stored index -/

namespace Curve

open Record

theorem pack_redemptionRate (record : RedemptionRate) : (redemptionRate record).pack
    = (1 :: packFields [record.ray, record.maxSsr])
      ++ packFields [record.ssr, record.rho, record.chi] := by
  have hpad : recordSize - record.pack.length = 0 := by
    rw [RedemptionRate.length_pack]
    rfl
  rw [pack, packRecord, List.rightpad, hpad, List.replicate_zero, List.append_nil,
    List.cons_append, ← packFields_append]
  rfl

/-- Bytes of the tag, the unit and the bound. -/
theorem length_fixed (record : RedemptionRate) :
    ((1 : UInt8) :: packFields [record.ray, record.maxSsr]).length = 33 := by
  rw [List.length_cons, length_packFields]
  rfl

theorem take_pack_redemptionRate (record : RedemptionRate) :
    (redemptionRate record).pack.take 33 = 1 :: packFields [record.ray, record.maxSsr] := by
  rw [pack_redemptionRate, List.take_left' (length_fixed record)]

theorem drop_pack_redemptionRate (record : RedemptionRate) :
    (redemptionRate record).pack.drop 33 = packFields [record.ssr, record.rho, record.chi] := by
  rw [pack_redemptionRate, List.drop_left' (length_fixed record)]

end Curve

namespace RedemptionRate

variable {old new : RedemptionRate} {p : Proposal}

/-- A checkpoint touches neither the tag nor the unit nor the bound. -/
theorem Follows.take_pack (h : Follows old p new) :
    (Curve.redemptionRate new).pack.take 33 = (Curve.redemptionRate old).pack.take 33 := by
  rw [Curve.take_pack_redemptionRate, Curve.take_pack_redemptionRate, h.ray_eq, h.maxSsr_eq]

/-- A checkpoint is stored as its three numbers. -/
theorem Follows.drop_pack (h : Follows old p new) : Record.packInts [p.ssr, p.rho, p.chi]
    = .ok ((Curve.redemptionRate new).pack.drop 33) := by
  rw [Curve.drop_pack_redemptionRate, ← h.ssr_eq, ← h.rho_eq, ← h.chi_eq]
  exact Record.packInts_toNat [new.ssr, new.rho, new.chi]

end RedemptionRate

/-! ## Proposals to an engine and to bytes -/

namespace Engine

open RedemptionRate

variable {bytes : List UInt8} {cause : CurveError} {record : RedemptionRate}

/-- The engine after a proposal, or what refuses it. -/
def propose (engine : Engine) (p : Proposal) : Except CurveError Engine :=
  (engine.updateRates p.ssr p.rho p.chi p.now).value

/-- The stored curve after a proposal, or what refuses it. -/
def proposeStored (bytes : List UInt8) (p : Proposal) : Except CurveError (List UInt8) :=
  (updateStored bytes p.ssr p.rho p.chi p.now).value

/-- A refused proposal leaves the bytes as they were. -/
def storedAfter (bytes : List UInt8) (p : Proposal) : List UInt8 :=
  match proposeStored bytes p with
  | .ok updated => updated
  | .error _ => bytes

/-- The bytes after proposals, one after the other. -/
def storedAfterAll (bytes : List UInt8) (ps : List Proposal) : List UInt8 :=
  ps.foldl storedAfter bytes

theorem propose_redemptionRate (record : RedemptionRate) (config : Config) (p : Proposal) :
    (⟨.redemptionRate record, config⟩ : Engine).propose p
      = (fun updated => ⟨.redemptionRate updated, config⟩) <$> record.propose p := by
  unfold propose updateRates RedemptionRate.propose
  simp only [rateRecord, Curve.rateRecord?, Logged.value_bind]
  cases (record.setRates p.ssr p.rho p.chi p.now).value <;> rfl

/-- Bytes are read, updated as an engine and stored again. -/
theorem proposeStored_eq (bytes : List UInt8) (p : Proposal) : proposeStored bytes p = (do
    let curve ← Curve.unpack bytes
    pack <$> (⟨curve, .standard⟩ : Engine).propose p) := by
  unfold proposeStored updateStored unpack propose
  cases Curve.unpack bytes with
  | error cause => rfl
  | ok curve => rfl

theorem proposeStored_of_error (h : Curve.unpack bytes = .error cause) (p : Proposal) :
    proposeStored bytes p = .error cause := by
  rw [proposeStored_eq, h]
  rfl

theorem proposeStored_of_constantPrice {record : ConstantPrice}
    (h : Curve.unpack bytes = .ok (.constantPrice record)) (p : Proposal) :
    proposeStored bytes p = .error (.noRate .constantPrice) := by
  rw [proposeStored_eq, h]
  rfl

theorem proposeStored_of_redemptionRate (h : Curve.unpack bytes = .ok (.redemptionRate record))
    (p : Proposal) : proposeStored bytes p
      = (fun updated => (Curve.redemptionRate updated).pack) <$> record.propose p := by
  rw [proposeStored_eq, h]
  change pack <$> (⟨.redemptionRate record, .standard⟩ : Engine).propose p = _
  rw [propose_redemptionRate]
  cases record.propose p <;> rfl

/-! ## In step -/

/-- Bytes that are read as a record are read as its successor after a proposal. -/
theorem unpack_storedAfter (h : Curve.unpack bytes = .ok (.redemptionRate record))
    (p : Proposal) :
    Curve.unpack (storedAfter bytes p) = .ok (.redemptionRate (record.after p)) := by
  rw [storedAfter, proposeStored_of_redemptionRate h, after]
  cases record.propose p with
  | error cause => exact h
  | ok updated => exact Curve.unpack_pack (.redemptionRate updated)

theorem unpack_storedAfterAll (h : Curve.unpack bytes = .ok (.redemptionRate record))
    (ps : List Proposal) :
    Curve.unpack (storedAfterAll bytes ps) = .ok (.redemptionRate (record.afterAll ps)) := by
  induction ps generalizing bytes record with
  | nil => exact h
  | cons p ps ih => exact ih (unpack_storedAfter h p)

/-- The stored form of an engine goes with the engine, whether or not its curve
takes proposals at all. -/
theorem storedAfter_pack (engine : Engine) (p : Proposal) :
    storedAfter engine.pack p = (engine.step (ofProposal p)).2.pack := by
  obtain ⟨curve, config⟩ := engine
  have hread := Curve.unpack_pack curve
  cases curve with
  | constantPrice record =>
    rw [storedAfter, pack, proposeStored_of_constantPrice hread]
    rfl
  | redemptionRate record =>
    rw [storedAfter, pack, proposeStored_of_redemptionRate hread, step_ofProposal, after]
    cases record.propose p <;> rfl

theorem storedAfterAll_pack (engine : Engine) (ps : List Proposal) :
    storedAfterAll engine.pack ps = (engine.run (ps.map ofProposal)).2.pack := by
  induction ps generalizing engine with
  | nil => rfl
  | cons p ps ih =>
    rw [storedAfterAll, List.foldl_cons, storedAfter_pack, List.map_cons, run]
    exact ih _

/-! ## Updates of stored curves -/

theorem proposeStored_of_short (h : bytes.length < 81) (p : Proposal) :
    proposeStored bytes p = .error (.tooShort 81 bytes.length) :=
  proposeStored_of_error (Curve.unpack_of_length_lt h) p

/-- Only the bytes of an index take proposals. -/
theorem proposeStored_of_first_ne_one (henough : 81 ≤ bytes.length) (hne : bytes[0]? ≠ some 1)
    (p : Proposal) :
    ∃ cause, proposeStored bytes p = .error cause ∧ cause.failure = .invalidCurveType := by
  have hreading := Curve.reading bytes
  generalize hresult : Curve.unpack bytes = result at hreading
  cases hreading with
  | tooShort short =>
    rw [Curve.size_eq] at short
    omega
  | unknownTag => exact ⟨_, proposeStored_of_error hresult p, rfl⟩
  | @curve curve enough first stored =>
    cases curve with
    | constantPrice record => exact ⟨_, proposeStored_of_constantPrice hresult p, rfl⟩
    | redemptionRate record => exact absurd first hne

/-- An update of a stored curve is the update of its record, stored again. It is
refused for what the bytes are, or else exactly for what the record refuses;
and it replaces the last three fields only. Over any number of updates the
bytes stay in step with the record and with an engine. -/
theorem stored_updates_in_step :
    (∀ (bytes : List UInt8) (p : Proposal),
      (bytes.length < 81 →
        ∃ cause, proposeStored bytes p = .error cause ∧ cause.failure = .invalidCurveData) ∧
      (81 ≤ bytes.length → bytes[0]? ≠ some 1 →
        ∃ cause, proposeStored bytes p = .error cause ∧ cause.failure = .invalidCurveType) ∧
      (81 ≤ bytes.length → bytes[0]? = some 1 → ∃ record,
        Curve.unpack bytes = .ok (.redemptionRate record) ∧
        (∀ cause, record.propose p = .error cause → proposeStored bytes p = .error cause) ∧
        ∀ new, record.propose p = .ok new → ∃ updated, proposeStored bytes p = .ok updated ∧
          updated.length = 81 ∧ updated.take 33 = bytes.take 33 ∧
          Record.packInts [p.ssr, p.rho, p.chi] = .ok (updated.drop 33))) ∧
    (∀ (bytes : List UInt8) (record : RedemptionRate) (ps : List Proposal),
      Curve.unpack bytes = .ok (.redemptionRate record) →
      Curve.unpack (storedAfterAll bytes ps) = .ok (.redemptionRate (record.afterAll ps))) ∧
    (∀ (record : RedemptionRate) (ps : List Proposal),
      storedAfterAll (Curve.redemptionRate record).pack ps
        = (Curve.redemptionRate (record.afterAll ps)).pack) ∧
    ∀ (engine : Engine) (ps : List Proposal),
      storedAfterAll engine.pack ps = (engine.run (ps.map ofProposal)).2.pack := by
  refine ⟨?_, fun _ _ ps h => unpack_storedAfterAll h ps, ?_, storedAfterAll_pack⟩
  · intro bytes p
    refine ⟨fun hshort => ⟨_, proposeStored_of_short hshort p, rfl⟩,
      fun henough hne => proposeStored_of_first_ne_one henough hne p, fun henough hone => ?_⟩
    obtain ⟨record, hrecord, hstored⟩ := Curve.unpack_of_first_eq_one henough hone
    have houtcome := proposeStored_of_redemptionRate hrecord p
    refine ⟨record, hrecord, ?_, ?_⟩
    · intro cause hcause
      rw [houtcome, hcause]
      rfl
    · intro new hnew
      have hfollows := propose_eq_ok_iff_follows.1 hnew
      refine ⟨(Curve.redemptionRate new).pack, ?_, Curve.length_pack _, ?_, hfollows.drop_pack⟩
      · rw [houtcome, hnew]
        rfl
      · rw [hfollows.take_pack, hstored, List.take_take]
        rfl
  · intro record ps
    have hengine := storedAfterAll_pack ⟨.redemptionRate record, .standard⟩ ps
    rwa [run_ofProposal] at hengine

/-- Bytes that are too few, bytes of a fixed price, and those of an index with one
more behind them, which is gone after the update. -/
theorem stored_updates_in_step_roomy :
    let p : Proposal := ⟨120, 8, 198, 9⟩
    let bytes := (Curve.redemptionRate roomy).pack ++ [7]
    (∃ cause, proposeStored [1, 2] p = .error cause ∧ cause.failure = .invalidCurveData) ∧
      (∃ cause, proposeStored (List.replicate 81 0) p = .error cause ∧
        cause.failure = .invalidCurveType) ∧
      (∃ updated, proposeStored bytes p = .ok updated ∧ updated.length = 81 ∧
        updated.take 33 = bytes.take 33 ∧ Record.packInts [120, 8, 198] = .ok (updated.drop 33)) ∧
      Curve.unpack (storedAfterAll bytes [⟨120, 4, 198, 9⟩, p])
        = .ok (.redemptionRate (roomy.afterAll [⟨120, 4, 198, 9⟩, p])) := by
  intro p bytes
  have hread : Curve.unpack bytes = .ok (.redemptionRate roomy) := Curve.unpack_pack_append _ _
  have hnew : roomy.propose p = .ok (roomy.after p) := by decide +kernel
  obtain ⟨hanswer, hrun, -, -⟩ := stored_updates_in_step
  obtain ⟨record, hrecord, -, hupdated⟩ :=
    (hanswer bytes p).2.2 (by decide +kernel) (by decide +kernel)
  rw [hread, Except.ok.injEq, Curve.redemptionRate.injEq] at hrecord
  subst hrecord
  exact ⟨(hanswer [1, 2] p).1 (by decide), (hanswer _ p).2.1 (by decide) (by decide),
    hupdated _ hnew, hrun bytes roomy _ hread⟩

end Engine

end PegPool
