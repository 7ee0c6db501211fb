import PegPool.Curve.Field
import PegPool.Ray.Power

/-!
# Redemption rate

Token B earns interest: its value in token A is an index that compounds every
second. The record holds the index `chi` at the last checkpoint `rho` and the
factor per second `ssr`; between checkpoints the index is projected.

A new checkpoint is accepted only if time and index do not run backwards and
the index has not outgrown the greatest allowed factor. The first checkpoint,
which a `rho` of zero awaits, is free of these comparisons.
-/

namespace PegPool

/-- A curve whose price is a compounding index. -/
structure RedemptionRate where
  /-- One, as a price, a factor or an index. -/
  ray : Narrow
  /-- The greatest factor per second, or zero if there is no bound. -/
  maxSsr : Narrow
  /-- The factor per second, in units of `ray`. -/
  ssr : Narrow
  /-- The second of the last checkpoint. -/
  rho : Narrow
  /-- The index at the last checkpoint, in units of `ray`. -/
  chi : Narrow
  deriving DecidableEq

namespace RedemptionRate

/-- The record of a pool that awaits its first checkpoint: an index and a
factor of one, and no bound. -/
def initial : RedemptionRate where
  ray := .oneRay
  maxSsr := .zero
  ssr := .oneRay
  rho := .zero
  chi := .oneRay

/-- The record of offered values. -/
def ofFields (ray maxSsr ssr rho chi : Offered) : Except CurveError RedemptionRate := do
  let ray ← Narrow.ofOffered "ray" ray
  let maxSsr ← Narrow.ofOffered "max_ssr" maxSsr
  let ssr ← Narrow.ofOffered "ssr" ssr
  let rho ← Narrow.ofOffered "rho" rho
  let chi ← Narrow.ofOffered "chi" chi
  return { ray, maxSsr, ssr, rho, chi }

/-- The written form of a record. -/
def describe (curve : RedemptionRate) : String :=
  s!"RedemptionRateCurve(ray={curve.ray.toNat}, max_ssr={curve.maxSsr.toNat}, "
    ++ s!"ssr={curve.ssr.toNat}, rho={curve.rho.toNat}, chi={curve.chi.toNat})"

/-! ## Projection -/

/-- The index that a factor per second reaches in some seconds after the last
checkpoint. -/
def indexAfter (curve : RedemptionRate) (factor seconds : Nat) : Logged (Option Nat) :=
  if curve.ray.toNat = 0 then pure none
  else (Ray.power curve.ray.toNat factor seconds).andThen fun growth =>
    Ray.scaleIndex growth curve.chi.toNat curve.ray.toNat

/-- The index at a time. It is known at the checkpoint itself, and there is
none before. -/
def conversionRate (curve : RedemptionRate) (timestamp : Int) : Logged (Option Nat) :=
  if timestamp = curve.rho.toNat then pure (some curve.chi.toNat)
  else if timestamp < curve.rho.toNat then pure none
  else curve.indexAfter curve.ssr.toNat (timestamp - curve.rho.toNat).toNat

/-- The index at a time that may be unknown. -/
def conversionRate? (curve : RedemptionRate) : Option Int → Logged (Option Nat)
  | none => pure none
  | some timestamp => curve.conversionRate timestamp

/-- A power in the curve's own unit. -/
def power (curve : RedemptionRate) (base n : Int) :
    Except Ray.PowerError (Logged (Option Nat)) :=
  if curve.ray.toNat = 0 then .ok (pure none)
  else Ray.powerOfInts curve.ray.toNat base n

/-- The greatest index that the bound on the factor allows at a time. Before
the checkpoint there is no power of it. -/
def maxChi (curve : RedemptionRate) (rho : Int) :
    Except Ray.PowerError (Logged (Option Nat)) := do
  let growth ← curve.power curve.maxSsr.toNat (rho - curve.rho.toNat)
  return growth.andThen fun growth =>
    Ray.scaleIndex growth curve.chi.toNat curve.ray.toNat

/-- Whether the curve can price trades at a time. -/
def validate (curve : RedemptionRate) :
    Option Int → Logged (Except CurveError Unit)
  | none => pure (.error .noTimestamp)
  | some timestamp =>
    if curve.ray.toNat = 0 then pure (.error .zeroRay)
    else do
      match ← curve.conversionRate timestamp with
      | none => return .error (.noProjection timestamp)
      | some 0 => return .error .zeroConversionRate
      | some _ => return .ok ()

/-! ## Checkpoints -/

/-- The rules that hold for every checkpoint. -/
def checkLimits (curve : RedemptionRate) (ssr rho now : Int) : Except CurveError Unit :=
  if now < rho then .error (.rhoInFuture rho now)
  else if ssr < curve.ray.toNat then .error (.ssrBelowRay ssr curve.ray.toNat)
  else if curve.maxSsr.toNat ≠ 0 ∧ curve.maxSsr.toNat < ssr then
    .error (.ssrAboveMax ssr curve.maxSsr.toNat)
  else .ok ()

/-- The rules that compare a checkpoint with the last one. -/
def checkProgress (curve : RedemptionRate) (rho chi : Int) :
    Logged (Except CurveError Unit) :=
  if curve.rho.toNat = 0 then pure (.ok ())
  else if rho < curve.rho.toNat then pure (.error (.rhoDecreased rho curve.rho.toNat))
  else if chi < curve.chi.toNat then pure (.error (.chiDecreased chi curve.chi.toNat))
  else if curve.maxSsr.toNat = 0 then pure (.ok ())
  else do
    let seconds := rho - curve.rho.toNat
    match ← curve.indexAfter curve.maxSsr.toNat seconds.toNat with
    | none => return .error (.growthTooWide seconds)
    | some greatest =>
      return if greatest < chi then .error (.chiGrowthExceeded chi greatest) else .ok ()

/-- The record with another checkpoint, unchecked but for the width of its
numbers. -/
def withRates (curve : RedemptionRate) (ssr rho chi : Int) :
    Except CurveError RedemptionRate := do
  let ssr ← Narrow.ofOffered "ssr" ssr
  let rho ← Narrow.ofOffered "rho" rho
  let chi ← Narrow.ofOffered "chi" chi
  return { curve with ssr, rho, chi }

/-- The record after a new checkpoint, or the first rule that it breaks. -/
def setRates (curve : RedemptionRate) (ssr rho chi now : Int) :
    Logged (Except CurveError RedemptionRate) :=
  match curve.checkLimits ssr rho now with
  | .error cause => pure (.error cause)
  | .ok () => do
    match ← curve.checkProgress rho chi with
    | .error cause => return .error cause
    | .ok () => return curve.withRates ssr rho chi

end RedemptionRate

end PegPool
