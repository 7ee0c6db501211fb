import PegPool.Proofs.Width

/-!
# Failures in words

A formula that fails is reported in words, and the words tell the integers at
which it failed. An integer of too many digits cannot be written, so a failure that
tells one would not end in its formula. Only an integer that is given can have so
many: it is found not to be wide before anything is computed with it, and what is
computed with wide amounts has few digits.
-/

namespace PegPool

namespace Text

theorem isWritable_iff {value : Int} : isWritable value ↔ value.natAbs < writeBound := by
  simp [isWritable]

theorem isWritable_of_natAbs_lt {value : Int} {digits : Nat} (hdigits : digits ≤ maxDigits)
    (h : value.natAbs < 10 ^ digits) : isWritable value := by
  rw [isWritable_iff]
  unfold writeBound
  -- how many digits there may be does not matter here, and the bound is not computed
  generalize maxDigits = most at hdigits ⊢
  exact h.trans_le (Nat.pow_le_pow_right (by decide) hdigits)

/-- A wide amount has few enough digits. -/
theorem isWritable_of_le_wideMax {n : Nat} (h : n ≤ wideMax) : isWritable n := by
  rw [isWritable_iff, Int.natAbs_natCast]
  exact h.trans_lt wideMax_lt_writeBound

end Text

@[simp] theorem Wide.isWritable_toNat (u : Wide) : Text.isWritable u.toNat :=
  Text.isWritable_of_le_wideMax u.toNat_le

/-! ## Formulas -/

/-- The wording of each cause, or the complaint about an integer in it. -/
def WideError.told (cause : WideError) : Except String String :=
  Text.tell cause.integers cause.message

theorem WideError.told_eq_ok_iff {cause : WideError} :
    cause.told = .ok cause.message ↔ ∀ value ∈ cause.integers, Text.isWritable value := by
  simp [told, Text.tell_eq_ok_iff, Text.isWritable_iff]

/-- The failure of a chain, if it fails, can be told. -/
def Tellable {α : Type} (result : Except WideError α) : Prop :=
  ∀ cause, result = .error cause → cause.told = .ok cause.message

section Chains

variable {α β : Type} {x y : Except WideError α} {f : α → Except WideError β}

@[simp] theorem tellable_pure (a : α) : Tellable (pure a : Except WideError α) :=
  failsOnly_pure a

@[simp] theorem tellable_ok (a : α) : Tellable (.ok a : Except WideError α) := tellable_pure a

@[simp] theorem tellable_error {cause : WideError} :
    Tellable (.error cause : Except WideError α) ↔
      ∀ value ∈ cause.integers, Text.isWritable value :=
  failsOnly_error.trans WideError.told_eq_ok_iff

@[simp] theorem tellable_bind :
    Tellable (x >>= f) ↔ Tellable x ∧ ∀ a, x = .ok a → Tellable (f a) :=
  failsOnly_bind

@[simp] theorem tellable_map (g : α → β) : Tellable (g <$> x) ↔ Tellable x := failsOnly_map g

@[simp] theorem tellable_ite {c : Prop} [Decidable c] :
    Tellable (if c then x else y) ↔ (c → Tellable x) ∧ (¬ c → Tellable y) :=
  failsOnly_ite

end Chains

namespace Wide

theorem tellable_ofInt {value : Int} (h : Text.isWritable value) : Tellable (ofInt value) := by
  unfold ofInt
  split
  · simp [WideError.integers, h]
  · split <;> simp [WideError.integers, h]

theorem tellable_ofInt_toNat (u : Wide) : Tellable (ofInt u.toNat) :=
  tellable_ofInt u.isWritable_toNat

theorem tellable_add {u : Wide} {n : Nat} (h : n ≤ wideMax) : Tellable (u.add n) := by
  unfold add
  split
  · simp [WideError.integers, Text.isWritable_of_le_wideMax h]
  · refine tellable_ofInt ?_
    rw [← Int.natCast_add]
    exact Text.isWritable_of_le_wideMax (by omega)

@[simp] theorem tellable_add_toNat (u w : Wide) : Tellable (u.add w.toNat) :=
  tellable_add w.toNat_le

@[simp] theorem tellable_mul (u w : Wide) : Tellable (u.mul w.toNat) := by
  unfold mul
  split
  · simp [WideError.integers]
  · refine tellable_ofInt ?_
    rw [← Int.natCast_mul]
    exact Text.isWritable_of_le_wideMax (by omega)

/-- Only a divisor of zero is in the way of a quotient, and it is not told. -/
@[simp] theorem tellable_div (u : Wide) (n : Nat) : Tellable (u.div n) := by
  by_cases hn : n = 0
  · simp [div, hn, WideError.integers]
  · have hle : u.toNat / n ≤ wideMax := (Nat.div_le_self _ _).trans u.toNat_le
    have hok : u.div n = .ok ⟨_, hle⟩ := div_natCast_eq_ok_iff.2 ⟨hn, rfl⟩
    rw [hok]
    exact tellable_ok _

@[simp] theorem tellable_div_two (u : Wide) : Tellable (u.div 2) := tellable_div u 2

@[simp] theorem tellable_ceilDiv (u : Wide) (n : Nat) : Tellable (u.ceilDiv n) := by
  by_cases hn : n = 0
  · simp [ceilDiv, hn, WideError.integers]
  · have hpos := Nat.pos_of_ne_zero hn
    have hle : u.toNat ⌈/⌉ n ≤ u.toNat :=
      (ceilDiv_le_iff_le_mul hpos).2 (Nat.le_mul_of_pos_left _ hpos)
    have hok : u.ceilDiv n = .ok ⟨_, hle.trans u.toNat_le⟩ :=
      ceilDiv_natCast_eq_ok_iff.2 ⟨hn, rfl⟩
    rw [hok]
    exact tellable_ok _

theorem tellable_min {u : Wide} {x : Int} (h : Text.isWritable x) : Tellable (u.min x) := by
  unfold min
  split
  · exact tellable_ofInt h
  · exact tellable_ofInt_toNat u

@[simp] theorem tellable_narrow (u : Wide) : Tellable u.narrow := by
  unfold narrow
  cases u.toNarrow? <;> simp [WideError.integers]

end Wide

@[simp] theorem Rounding.tellable_divide (rounding : Rounding) (u : Wide) (n : Nat) :
    Tellable (rounding.divide u n) := by
  cases rounding <;> simp [divide]

@[simp] theorem Price.tellable_settle (taken paid : Wide) : Tellable (settle taken paid) := by
  simp [settle]

namespace Ray

theorem tellable_times (ray u v : Wide) : Tellable (times ray u v) := by
  have hhalf : ray.toNat / 2 ≤ wideMax := (Nat.div_le_self _ _).trans ray.toNat_le
  unfold times
  refine tellable_bind.2 ⟨Wide.tellable_mul u v, fun product _ => ?_⟩
  exact tellable_bind.2 ⟨Wide.tellable_add hhalf, fun shifted _ => Wide.tellable_div shifted _⟩

/-- Each square and each product can fail in words, so all of them can. -/
theorem tellable_foldSquares (ray base product : Wide) (n : Nat) :
    Tellable (foldSquares ray base product n) := by
  fun_induction foldSquares ray base product n with
  | case1 => exact tellable_ok _
  | case2 base product n hn ih => simp [tellable_times, ih]

theorem tellable_powerWide (ray base : Wide) (n : Nat) : Tellable (powerWide ray base n) := by
  simp [powerWide, tellable_foldSquares]

end Ray

/-! ## Reports -/

/-- A failed formula is reported in words, or the complaint about an integer in them
takes the place of the report. -/
def Event.told : Event → Except String Unit
  | formulaFailed _ cause => cause.told.map fun _ => ()
  | _ => .ok ()

theorem Event.told_formulaFailed_eq_ok_iff {formula : Formula} {cause : WideError} :
    (formulaFailed formula cause).told = .ok () ↔
      ∀ value ∈ cause.integers, Text.isWritable value := by
  rw [← WideError.told_eq_ok_iff]
  simp only [told, WideError.told, Text.tell]
  split <;> simp [Except.map]

namespace Logged

/-- What comes of an answer when each failure on the way is told as it happens: the
value, or the complaint about the first failure that cannot be told. -/
def told {α : Type} (answer : Logged α) : Except String α := do
  forM answer.events Event.told
  return answer.value

/-- The value comes of an answer, and no complaint. -/
def Told {α : Type} (answer : Logged α) : Prop := answer.told = .ok answer.value

theorem forM_told_eq_ok_iff {events : List Event} :
    forM events Event.told = .ok () ↔ ∀ event ∈ events, event.told = .ok () := by
  induction events with
  | nil => simp [pure_eq_ok_iff]
  | cons event events ih =>
    rw [List.forM_cons, bind_eq_ok_iff, List.forall_mem_cons, ← ih]
    constructor
    · rintro ⟨_, hevent, hevents⟩
      exact ⟨hevent, hevents⟩
    · rintro ⟨hevent, hevents⟩
      exact ⟨(), hevent, hevents⟩

variable {α β : Type}

/-- The first of two operations is told first. -/
theorem told_bind_eq (first : Logged α) (next : α → Logged β) :
    (first >>= next).told = first.told >>= fun x => (next x).told := by
  simp only [told, value_bind, events_bind, List.forM_append, bind_assoc, pure_bind]

theorem told_map_eq (f : α → β) (answer : Logged α) : (f <$> answer).told = f <$> answer.told :=
  told_bind_eq answer _

/-- Every event counts, and nothing else. -/
theorem told_iff {answer : Logged α} :
    answer.Told ↔ ∀ event ∈ answer.events, event.told = .ok () := by
  rw [Told, told, bind_eq_ok_iff, ← forM_told_eq_ok_iff]
  constructor
  · rintro ⟨_, hevents, -⟩
    exact hevents
  · exact fun hevents => ⟨(), hevents, rfl⟩

@[simp] theorem told_pure (x : α) : (pure x : Logged α).Told := by simp [told_iff]

@[simp] theorem told_bind {first : Logged α} {next : α → Logged β} :
    (first >>= next).Told ↔ first.Told ∧ (next first.value).Told := by
  simp [told_iff, or_imp, forall_and]

@[simp] theorem told_map {f : α → β} {answer : Logged α} :
    (f <$> answer).Told ↔ answer.Told := by
  have hevents : (f <$> answer).events = answer.events := List.append_nil _
  simp [told_iff, hevents]

@[simp] theorem told_report {event : Event} : (report event).Told ↔ event.told = .ok () := by
  simp [told_iff]

theorem told_reportIf {event : Event} (h : event.told = .ok ()) (condition : Bool) :
    (reportIf condition event).Told := by
  cases condition <;> simp [reportIf, h]

@[simp] theorem told_ofFormula {formula : Formula} {result : Except WideError (Option α)} :
    (ofFormula formula result).Told ↔ Tellable result := by
  cases result with
  | error cause => simp [ofFormula, told_iff, Event.told_formulaFailed_eq_ok_iff]
  | ok answer => simp [ofFormula]

/-- An answer is continued only if there is one. -/
theorem told_andThen {first : Logged (Option α)} {next : α → Logged (Option β)}
    (hfirst : first.Told) (hnext : ∀ x, first.value = some x → (next x).Told) :
    (first.andThen next).Told := by
  unfold andThen
  refine told_bind.2 ⟨hfirst, ?_⟩
  cases hx : first.value with
  | none => exact told_pure none
  | some x => exact hnext x hx

end Logged

/-! ## The index -/

theorem Ray.told_power (ray base n : Nat) : (power ray base n).Told := by
  unfold power
  split
  · simp [tellable_powerWide]
  · simp

theorem Ray.told_scaleIndex {growth chi ray : Nat} (hgrowth : growth ≤ wideMax)
    (hchi : chi ≤ wideMax) (hray : ray ≤ wideMax) : (scaleIndex growth chi ray).Told := by
  have hgrowth := Text.isWritable_of_le_wideMax hgrowth
  have hchi := Text.isWritable_of_le_wideMax hchi
  have hray := Text.isWritable_of_le_wideMax hray
  simp [scaleIndex, Wide.tellable_ofInt, hgrowth, hchi, hray]

namespace RedemptionRate

variable (curve : RedemptionRate)

theorem told_indexAfter (factor seconds : Nat) : (curve.indexAfter factor seconds).Told := by
  unfold indexAfter
  split
  · exact Logged.told_pure none
  · refine Logged.told_andThen (Ray.told_power _ _ _) fun growth hgrowth => ?_
    exact Ray.told_scaleIndex (Ray.power_le_wideMax hgrowth) curve.chi.toNat_le_wideMax
      curve.ray.toNat_le_wideMax

theorem told_conversionRate (t : Int) : (curve.conversionRate t).Told := by
  unfold conversionRate
  split
  · exact Logged.told_pure _
  · split
    · exact Logged.told_pure none
    · exact curve.told_indexAfter _ _

theorem told_checkProgress (rho chi : Int) : (curve.checkProgress rho chi).Told := by
  unfold checkProgress
  split
  · simp
  · split
    · simp
    · split
      · simp
      · split
        · simp
        -- only here is something computed
        · refine Logged.told_bind.2 ⟨curve.told_indexAfter _ _, ?_⟩
          split <;> simp

theorem told_setRates (ssr rho chi now : Int) : (curve.setRates ssr rho chi now).Told := by
  unfold setRates
  split
  · simp
  · refine Logged.told_bind.2 ⟨curve.told_checkProgress _ _, ?_⟩
    split <;> simp

theorem told_validate (timestamp : Option Int) : (curve.validate timestamp).Told := by
  cases timestamp with
  | none => simp [validate]
  | some t =>
    simp only [validate]
    split
    · simp
    · refine Logged.told_bind.2 ⟨curve.told_conversionRate t, ?_⟩
      split <;> simp

end RedemptionRate

/-! ## Questions at a price -/

theorem told_reserveShare {t s a b : Int} (ht : Text.isWritable t) (hs : Text.isWritable s)
    (ha : Text.isWritable a) (hb : Text.isWritable b) (rounding : Rounding) :
    (reserveShare t s a b rounding).Told := by
  simp [reserveShare, reserveShareWide, Wide.tellable_ofInt, ht, hs, ha, hb]

namespace Price

variable {price : Price} (hprice : Text.isWritable price.tokenB)
  (hscale : Text.isWritable price.scale)

include hprice hscale

theorem told_swap {source : Int} (hsource : Text.isWritable source) (direction : Direction) :
    (price.swap source direction).Told := by
  cases direction <;> simp [swap, swapWide, Wide.tellable_ofInt, hprice, hscale, hsource]

theorem told_poolTokens {source a b supply : Int} (hsource : Text.isWritable source)
    (ha : Text.isWritable a) (hb : Text.isWritable b) (hsupply : Text.isWritable supply)
    (direction : Direction) (rounding : Rounding) :
    (price.poolTokens source a b supply direction rounding).Told := by
  cases direction <;> simp [poolTokens, poolTokensWide, Wide.tellable_ofInt, hprice, hscale,
    hsource, ha, hb, hsupply]

theorem told_normalizedValue {a b : Int} (ha : Text.isWritable a) (hb : Text.isWritable b) :
    (price.normalizedValue a b).Told := by
  simp [normalizedValue, normalizedValueWide, Wide.tellable_ofInt, hprice, hscale, ha, hb]

theorem told_valueShare {t s a b : Int} (ht : Text.isWritable t) (hs : Text.isWritable s)
    (ha : Text.isWritable a) (hb : Text.isWritable b) (rounding : Rounding) :
    (price.valueShare t s a b rounding).Told := by
  refine Logged.told_andThen (told_normalizedValue hprice hscale ha hb) fun total htotal => ?_
  have htotal : Text.isWritable total := Text.isWritable_of_le_wideMax
    ((normalizedValue_le_narrowMax htotal).trans narrowMax_le_wideMax)
  -- the reserves that limit a share are told as they were given
  cases rounding <;> simp [valueShareWide, Wide.tellable_ofInt, Wide.tellable_min, hprice, hscale,
    ht, hs, htotal, ha, hb]

end Price

namespace Curve

variable (curve : Curve) (timestamp : Option Int)

theorem told_priceAt : (curve.priceAt timestamp).Told := by
  cases curve with
  | constantPrice record => simp [priceAt]
  | redemptionRate record =>
    refine Logged.told_bind.2 ⟨?_, Logged.told_pure _⟩
    cases timestamp with
    | none => exact Logged.told_pure none
    | some t => exact record.told_conversionRate t

variable {curve timestamp}

/-- Both numbers of a price are wide at most. -/
theorem isWritable_of_priceAt {price : Price}
    (h : (curve.priceAt timestamp).value = some price) :
    Text.isWritable price.tokenB ∧ Text.isWritable price.scale := by
  cases curve with
  | constantPrice record =>
    cases h
    exact ⟨Text.isWritable_of_le_wideMax record.tokenBPrice.toNat_le_wideMax,
      Text.isWritable_of_le_wideMax (Ray.one_le_narrowMax.trans narrowMax_le_wideMax)⟩
  | redemptionRate record =>
    cases timestamp with
    | none => cases h
    | some t =>
      rw [value_priceAt_redemptionRate, Option.map_eq_some_iff] at h
      obtain ⟨rate, hrate, rfl⟩ := h
      exact ⟨Text.isWritable_of_le_wideMax (RedemptionRate.conversionRate_le_wideMax hrate),
        Text.isWritable_of_le_wideMax record.ray.toNat_le_wideMax⟩

/-- A question fails in words if it does so at every price that can be written. -/
theorem told_of_priceAt {α : Type} {question : Price → Logged (Option α)}
    (h : ∀ price : Price, Text.isWritable price.tokenB → Text.isWritable price.scale →
      (question price).Told) : ((curve.priceAt timestamp).andThen question).Told := by
  refine Logged.told_andThen (told_priceAt curve timestamp) fun price hprice => ?_
  obtain ⟨htokenB, hscale⟩ := isWritable_of_priceAt hprice
  exact h price htokenB hscale

theorem told_share {t s a b : Int} (ht : Text.isWritable t) (hs : Text.isWritable s)
    (ha : Text.isWritable a) (hb : Text.isWritable b) (rounding : Rounding) :
    (curve.share t s a b rounding timestamp).Told := by
  cases curve with
  | constantPrice record => exact told_reserveShare ht hs ha hb rounding
  | redemptionRate record =>
    exact told_of_priceAt fun price hprice hscale =>
      Price.told_valueShare hprice hscale ht hs ha hb rounding

theorem told_validate (curve : Curve) (timestamp : Option Int) :
    (curve.validate timestamp).Told := by
  cases curve with
  | constantPrice record => exact Logged.told_pure _
  | redemptionRate record => exact record.told_validate timestamp

end Curve

/-! ## Engines -/

namespace Engine

variable (engine : Engine) (timestamp : Option Int)

theorem told_checkDuration : (engine.checkDuration timestamp).Told := by
  unfold checkDuration
  split
  · split
    · simp
    · exact Logged.told_bind.2 ⟨Logged.told_reportIf rfl _, Logged.told_pure _⟩
  · simp

variable {engine timestamp}

/-- Refusals of the engine itself tell no failed formula. -/
theorem told_ask {α : Type} {answer : Logged (Option α)} {refusal : Option Event}
    (hanswer : answer.Told) (hrefusal : ∀ event ∈ refusal, event.told = .ok ()) :
    (engine.ask timestamp answer refusal).Told := by
  unfold ask
  refine Logged.told_bind.2 ⟨told_checkDuration engine timestamp, ?_⟩
  split
  · simp
  · refine Logged.told_bind.2 ⟨hanswer, ?_⟩
    split
    · rename_i event _
      refine Logged.told_bind.2 ⟨?_, Logged.told_pure _⟩
      exact Logged.told_reportIf (hrefusal event rfl) _
    · simp

end Engine

end PegPool
