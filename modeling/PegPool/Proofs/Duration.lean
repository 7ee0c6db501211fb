import Mathlib.Data.List.Forall2
import PegPool.Proofs.Failures
import PegPool.Session

/-!
# Sessions under a bound

Two engines with one curve are given the same requests, and only one of them has
a bound. The bound takes answers away and changes none: it is asked at every
question about a time, against the checkpoint that the record has by then, and
never at a new checkpoint. So the records go on in step, however long the session
is, and it makes no difference which refusals are reported. A refusal by the bound
tells the bound, which can have too many digits for that.
-/

namespace PegPool

/-! ## Answers that come to the same -/

namespace Logged

variable {α β : Type}

/-- Two answers come to the same: to one value, and to one complaint if a failure on the way
cannot be told. They may differ in what is reported in words. -/
def Alike (first second : Logged α) : Prop :=
  first.value = second.value ∧ first.told = second.told

namespace Alike

variable {first second third : Logged α}

theorem refl (answer : Logged α) : answer.Alike answer := ⟨rfl, rfl⟩

theorem of_eq (h : first = second) : first.Alike second := h ▸ refl first

theorem symm (h : first.Alike second) : second.Alike first := ⟨h.1.symm, h.2.symm⟩

theorem trans (h : first.Alike second) (h' : second.Alike third) : first.Alike third :=
  ⟨h.1.trans h'.1, h.2.trans h'.2⟩

theorem map (h : first.Alike second) (f : α → β) : (f <$> first).Alike (f <$> second) := by
  refine ⟨congrArg f h.1, ?_⟩
  rw [told_map_eq, told_map_eq, h.2]

/-- An answer that is told comes to its value. -/
theorem of_told (hvalue : first.value = second.value) (h : first.Told) (h' : second.Told) :
    first.Alike second := by
  refine ⟨hvalue, ?_⟩
  rw [h, h', hvalue]

end Alike

/-- What is told after an answer and leaves its value alone makes no difference. -/
theorem alike_bind {answer : Logged α} {next : α → Logged α}
    (h : ∀ x, (next x).value = x ∧ (next x).Told) : (answer >>= next).Alike answer := by
  refine ⟨(h answer.value).1, ?_⟩
  have hnext : ∀ x, (next x).told = .ok x := fun x => (h x).2.trans (congrArg _ (h x).1)
  simp only [told_bind_eq, hnext]
  exact bind_pure answer.told

end Logged

namespace Request

/-- The time that a request asks about, if it asks about one. -/
def timestamp? : Request → Option Int
  | swap _ _ timestamp | deposit _ _ _ _ _ timestamp | withdraw _ _ _ _ _ _ timestamp
  | share _ _ _ _ _ timestamp | normalizedValue _ _ timestamp | validate timestamp => timestamp
  | conversionRate timestamp => some timestamp
  | validateSupply _ | newSupply | updateRates .. | unpack _ | pack | describe | parameters => none

/-- The answer to a question about a time out of reach: no amount, or the bound
that is exceeded. Other requests have none. -/
def cutOff? (bound : Int) : Request → Option (Except CurveError Answer)
  | swap .. => some (.ok (.swap none))
  | share .. => some (.ok (.tokens none))
  | deposit .. | withdraw .. | normalizedValue .. | conversionRate _ => some (.ok (.amount none))
  | validate _ => some (.error (.durationExceeded bound))
  | validateSupply _ | newSupply | updateRates .. | unpack _ | pack | describe | parameters => none

end Request

namespace Engine

/-- The same curve without a bound. -/
def unbounded (engine : Engine) : Engine := { engine with config := .standard }

/-- The same curve under another configuration. -/
def withConfig (engine : Engine) (config : Config) : Engine := { engine with config }

/-- A reply under another configuration, which only a next engine has. -/
def rebound (config : Config) :
    Except CurveError (Answer × Option Engine) → Except CurveError (Answer × Option Engine) :=
  Except.map fun (answer, next) => (answer, next.map (·.withConfig config))

variable {engine : Engine} {request : Request}

theorem inReach_unbounded (timestamp : Option Int) : engine.unbounded.InReach timestamp :=
  inReach_of_maxRateDuration_eq_none rfl timestamp

/-! ## One question -/

section Ask

variable {α : Type} {timestamp : Option Int} {answer : Logged (Option α)} {refusal : Option Event}

/-- In reach the curve is asked, and what is reported of a missing answer can be told. -/
theorem alike_ask_of_inReach (h : engine.InReach timestamp)
    (hrefusal : ∀ event ∈ refusal, event.told = .ok ()) :
    (engine.ask timestamp answer refusal).Alike answer := by
  unfold ask
  simp only [checkDuration_of_inReach h, pure_bind]
  refine Logged.alike_bind fun result => ?_
  split
  · rename_i event
    refine ⟨rfl, Logged.told_bind.2 ⟨?_, Logged.told_pure _⟩⟩
    exact Logged.told_reportIf (hrefusal event rfl) _
  · exact ⟨rfl, Logged.told_pure _⟩

theorem alike_ask_unbounded (h : engine.InReach timestamp)
    (hrefusal : ∀ event ∈ refusal, event.told = .ok ()) :
    (engine.ask timestamp answer refusal).Alike (engine.unbounded.ask timestamp answer refusal) :=
  (alike_ask_of_inReach h hrefusal).trans
    (alike_ask_of_inReach (inReach_unbounded timestamp) hrefusal).symm

theorem told_ask_of_not_inReach (h : ¬ engine.InReach timestamp) :
    (engine.ask timestamp answer refusal).Told := by
  obtain ⟨bound, hbound, hreach⟩ := exists_bound_of_not_inReach h
  refine Logged.told_bind.2 ⟨told_checkDuration engine timestamp, ?_⟩
  rw [value_checkDuration_of_not_inReach hbound hreach]
  exact Logged.told_pure _

end Ask

/-! ## One request -/

/-- An answer is what a request is replied, without the next engine. -/
theorem step_fst (engine : Engine) (request : Request) :
    (engine.step request).1 = Except.map Prod.fst <$> engine.reply request := by
  unfold step
  generalize engine.reply request = result
  obtain ⟨value, events⟩ := result
  cases value <;> exact congrArg (Logged.mk _) (List.append_nil events).symm

/-- The next engine is the one that a request is replied, if there is one. -/
theorem step_snd (engine : Engine) (request : Request) : (engine.step request).2 =
    match (engine.reply request).value with
    | .ok (_, next) => next.getD engine
    | .error _ => engine := by
  simp only [step]
  cases (engine.reply request).value <;> rfl

/-- A new checkpoint is looked at without the bound, and the next engine keeps it. -/
theorem updateRates_eq (engine : Engine) (ssr rho chi now : Int) :
    engine.updateRates ssr rho chi now = Except.map (·.withConfig engine.config)
      <$> engine.unbounded.updateRates ssr rho chi now := by
  obtain ⟨curve, config⟩ := engine
  cases curve with
  | constantPrice record => rfl
  | redemptionRate record =>
    simp only [updateRates, unbounded, rateRecord, Curve.rateRecord?, map_bind]
    refine congrArg (record.setRates ssr rho chi now >>= ·) (funext fun result => ?_)
    cases result <;> rfl

/-- A reply without a next engine has no other configuration. -/
theorem alike_rebound {α : Type} {first second : Logged α} {config : Config}
    (h : first.Alike second) (reply : α → Except CurveError (Answer × Option Engine))
    (hkept : ∀ x, rebound config (reply x) = reply x) :
    (reply <$> first).Alike (rebound config <$> reply <$> second) := by
  rw [Functor.map_map]
  simp only [hkept]
  exact h.map reply

section InReach

variable (h : engine.InReach request.timestamp?)

include h

/-- In reach the bound is not noticed; a next engine keeps it. -/
theorem alike_reply_of_inReach : (engine.reply request).Alike
    (rebound engine.config <$> engine.unbounded.reply request) := by
  cases request with
  | swap source direction timestamp =>
    exact alike_rebound (alike_ask_unbounded h (by simp [Event.told]))
      (fun moved => .ok (.swap moved, none)) fun _ => rfl
  | deposit source reserveA reserveB supply direction timestamp =>
    exact alike_rebound (alike_ask_unbounded h (by simp [Event.told]))
      (fun minted => .ok (.amount minted, none)) fun _ => rfl
  | withdraw source reserveA reserveB supply direction rounding timestamp =>
    exact alike_rebound (alike_ask_unbounded h (by simp [Event.told]))
      (fun burnt => .ok (.amount burnt, none)) fun _ => rfl
  | share poolTokens supply reserveA reserveB rounding timestamp =>
    exact alike_rebound (alike_ask_unbounded h (by simp [Event.told]))
      (fun amounts => .ok (.tokens amounts, none)) fun _ => rfl
  | normalizedValue reserveA reserveB timestamp =>
    exact alike_rebound (alike_ask_unbounded h (by simp))
      (fun value => .ok (.amount value, none)) fun _ => rfl
  | conversionRate timestamp =>
    obtain ⟨curve, config⟩ := engine
    cases curve with
    | constantPrice record => exact .refl _
    | redemptionRate record =>
      exact alike_rebound ((alike_ask_unbounded h (by simp)).map Except.ok)
        (Except.map fun rate => (.amount rate, none)) fun result => by cases result <;> rfl
  | validate timestamp =>
    have hvalid : engine.validate timestamp = engine.unbounded.validate timestamp :=
      (validate_of_inReach h).trans (validate_of_inReach (inReach_unbounded _)).symm
    exact alike_rebound (hvalid ▸ .refl _) (Except.map fun _ => (.done, none))
      fun result => by cases result <;> rfl
  | updateRates ssr rho chi now =>
    show ((Except.map fun next => (.curve next.curve, some next))
      <$> engine.updateRates ssr rho chi now).Alike (rebound engine.config
        <$> (Except.map fun next => (.curve next.curve, some next))
          <$> engine.unbounded.updateRates ssr rho chi now)
    rw [updateRates_eq, Functor.map_map, Functor.map_map]
    refine .of_eq (congrArg (· <$> _) (funext fun result => ?_))
    cases result <;> rfl
  | unpack bytes =>
    simp only [reply, unbounded, unpack, map_pure]
    cases Curve.unpack bytes <;> exact .refl _
  | parameters =>
    exact alike_rebound (.refl _) (Except.map fun curve => (.parameters _ _ curve, none))
      fun result => by cases result <;> rfl
  | validateSupply tokenA =>
    simp only [reply, map_pure]
    cases Curve.validateSupply tokenA <;> exact .refl _
  | newSupply => exact .refl _
  | pack => exact .refl _
  | describe => exact .refl _

/-- In reach the answer comes to the same. -/
theorem alike_step_of_inReach :
    (engine.step request).1.Alike (engine.unbounded.step request).1 := by
  have hreply := (alike_reply_of_inReach h).map (Except.map Prod.fst)
  rw [Functor.map_map] at hreply
  have hanswer : ∀ reply : Except CurveError (Answer × Option Engine),
      Except.map Prod.fst (rebound engine.config reply) = Except.map Prod.fst reply := by
    intro reply
    cases reply <;> rfl
  simp only [hanswer] at hreply
  rwa [step_fst, step_fst]

end InReach

section OutOfReach

variable {bound : Int} {answer : Except CurveError Answer}
  (hbound : engine.config.maxRateDuration = some bound)
  (h : ¬ engine.curve.InReach bound request.timestamp?)

/-- A question leaves every engine as it is. -/
theorem step_snd_of_cutOff? (hcut : request.cutOff? bound = some answer) (engine : Engine) :
    (engine.step request).2 = engine := by
  cases request with
  | conversionRate timestamp =>
    simp only [step_snd, reply, Logged.value_bind, Logged.value_pure]
    cases (engine.conversionRate timestamp).value <;> rfl
  | validate timestamp =>
    simp only [step_snd, reply, Logged.value_bind, Logged.value_pure]
    cases (engine.validate timestamp).value <;> rfl
  | swap | deposit | withdraw | share | normalizedValue => rfl
  | validateSupply | newSupply | updateRates | unpack | pack | describe | parameters => cases hcut

/-- The bound is the only integer that such an answer tells. -/
theorem refusesInWords_of_cutOff? {answer : Logged (Except CurveError Answer)}
    (hcut : request.cutOff? bound = some answer.value) (htold : answer.Told) :
    answer.RefusesInWords [bound] := by
  refine Logged.refusesInWords_of_integers htold fun hgiven cause hcause => ?_
  rw [hcause] at hcut
  cases request <;> cases hcut
  simpa [CurveError.integers] using hgiven

include hbound h

/-- Out of reach the question is answered without asking the curve. -/
theorem cutOff?_of_not_inReach : request.cutOff? bound = some (engine.step request).1.value ∧
    (engine.step request).1.Told := by
  have hreach : ¬ engine.InReach request.timestamp? := fun hreach => h (hreach bound hbound)
  have hask {α : Type} (answer : Logged (Option α)) (refusal : Option Event) :
      (engine.ask request.timestamp? answer refusal).value = none ∧
        (engine.ask request.timestamp? answer refusal).Told :=
    ⟨value_ask_of_not_inReach hreach, told_ask_of_not_inReach hreach⟩
  have hreply {α : Type} {answer : Logged α} {x : α} (hanswer : answer.value = x ∧ answer.Told)
      (reply : α → Except CurveError (Answer × Option Engine)) :
      some (Except.map Prod.fst (reply x)) = some (Except.map Prod.fst (reply <$> answer).value) ∧
        (reply <$> answer).Told := by
    obtain ⟨rfl, htold⟩ := hanswer
    exact ⟨rfl, Logged.told_map.2 htold⟩
  rw [step_fst, Logged.told_map, Logged.value_map]
  cases request with
  | swap source direction timestamp =>
    exact hreply (hask _ _) fun moved => .ok (.swap moved, none)
  | share poolTokens supply reserveA reserveB rounding timestamp =>
    exact hreply (hask _ _) fun amounts => .ok (.tokens amounts, none)
  | deposit source reserveA reserveB supply direction timestamp =>
    exact hreply (hask _ _) fun minted => .ok (.amount minted, none)
  | withdraw source reserveA reserveB supply direction rounding timestamp =>
    exact hreply (hask _ _) fun burnt => .ok (.amount burnt, none)
  | normalizedValue reserveA reserveB timestamp =>
    exact hreply (hask _ _) fun value => .ok (.amount value, none)
  | conversionRate timestamp =>
    obtain ⟨curve, config⟩ := engine
    cases curve with
    | constantPrice record => exact absurd (Curve.inReach_constantPrice record _ _) h
    | redemptionRate record =>
      obtain ⟨hnone, htold⟩ := hask (record.conversionRate timestamp) none
      exact hreply ⟨congrArg Except.ok hnone, Logged.told_map.2 htold⟩
        (Except.map fun rate => (.amount rate, none))
  | validate timestamp =>
    exact hreply ⟨value_validate_of_not_inReach hbound h,
      (engine.validate_refusesInWords timestamp).1⟩ (Except.map fun _ => (.done, none))
  | validateSupply | newSupply | updateRates | unpack | pack | describe | parameters =>
    exact absurd (Curve.inReach_none _ _) h

end OutOfReach

/-- The next engine is the one without a bound, under the bound that there was. -/
theorem step_snd_eq_withConfig (engine : Engine) (request : Request) :
    (engine.step request).2 = (engine.unbounded.step request).2.withConfig engine.config := by
  by_cases h : engine.InReach request.timestamp?
  · rw [step_snd, step_snd, (alike_reply_of_inReach h).1, Logged.value_map]
    cases (engine.unbounded.reply request).value with
    | error cause => rfl
    | ok reply =>
      obtain ⟨answer, next⟩ := reply
      cases next <;> rfl
  · obtain ⟨bound, hbound, hreach⟩ := exists_bound_of_not_inReach h
    obtain ⟨hcut, -⟩ := cutOff?_of_not_inReach hbound hreach
    rw [step_snd_of_cutOff? hcut, step_snd_of_cutOff? hcut]
    rfl

/-! ## Sessions -/

@[simp] theorem config_step (engine : Engine) (request : Request) :
    (engine.step request).2.config = engine.config := by
  rw [step_snd_eq_withConfig]
  rfl

@[simp] theorem config_run (engine : Engine) (requests : List Request) :
    (engine.run requests).2.config = engine.config := by
  induction requests generalizing engine with
  | nil => rfl
  | cons request requests ih => exact (ih _).trans (config_step engine request)

theorem length_run (engine : Engine) (requests : List Request) :
    (engine.run requests).1.length = requests.length := by
  induction requests generalizing engine with
  | nil => rfl
  | cons request requests ih => exact congrArg (· + 1) (ih _)

theorem run_append (engine : Engine) (earlier later : List Request) :
    engine.run (earlier ++ later) = ((engine.run earlier).1 ++ ((engine.run earlier).2.run later).1,
      ((engine.run earlier).2.run later).2) := by
  induction earlier generalizing engine with
  | nil => rfl
  | cons request earlier ih => simp [run, ih]

/-- In a session each request is asked of the engine that the ones before left. -/
theorem getElem?_run (engine : Engine) (earlier : List Request) (request : Request)
    (later : List Request) : (engine.run (earlier ++ request :: later)).1[earlier.length]?
      = some ((engine.run earlier).2.step request).1 := by
  rw [run_append, ← length_run engine earlier, List.getElem?_append_right (Nat.le_refl _)]
  simp [run]

section Congr

variable {first second : Engine} (hcurve : first.curve = second.curve)

include hcurve

/-- The curve of the next engine depends on the curve alone. -/
theorem curve_step_congr (request : Request) :
    (first.step request).2.curve = (second.step request).2.curve := by
  have hfree : first.unbounded = second.unbounded := by simp [unbounded, hcurve]
  rw [step_snd_eq_withConfig first, step_snd_eq_withConfig second, hfree]
  rfl

theorem curve_run_congr (requests : List Request) :
    (first.run requests).2.curve = (second.run requests).2.curve := by
  induction requests generalizing first second with
  | nil => exact hcurve
  | cons request requests ih => exact ih (curve_step_congr hcurve request)

variable (hduration : first.config.maxRateDuration = second.config.maxRateDuration)

include hduration

/-- What an answer comes to depends on the curve and the bound alone. -/
theorem alike_step_congr (request : Request) :
    (first.step request).1.Alike (second.step request).1 := by
  have hfree : first.unbounded = second.unbounded := by simp [unbounded, hcurve]
  have hreach : first.InReach request.timestamp? ↔ second.InReach request.timestamp? := by
    simp only [InReach, hcurve, hduration]
  by_cases h : first.InReach request.timestamp?
  · have hsecond := alike_step_of_inReach (hreach.1 h)
    rw [← hfree] at hsecond
    exact (alike_step_of_inReach h).trans hsecond.symm
  · obtain ⟨bound, hbound, hout⟩ := exists_bound_of_not_inReach h
    obtain ⟨hcut, htold⟩ := cutOff?_of_not_inReach hbound hout
    obtain ⟨hcut', htold'⟩ := cutOff?_of_not_inReach (hduration ▸ hbound) (hcurve ▸ hout)
    exact .of_told (Option.some.inj (hcut.symm.trans hcut')) htold htold'

theorem alike_run_congr (requests : List Request) :
    List.Forall₂ Logged.Alike (first.run requests).1 (second.run requests).1 := by
  induction requests generalizing first second with
  | nil => exact .nil
  | cons request requests ih =>
    have hrest := ih (curve_step_congr hcurve request) (by simpa using hduration)
    exact .cons (alike_step_congr hcurve hduration request) hrest

end Congr

/-- A bound on the seconds of projection only takes answers away. At every request
of a session both engines have the same curve. If the time asked about is in reach, both
answers come to the same. Otherwise the bounded engine answers nothing, and its refusal is
told if the bound can be written. Whether refusals are reported changes neither answers
nor curves. -/
theorem bound_only_cuts_off (curve : Curve) :
    (∀ (bound : Int) (log log' : Bool) (earlier : List Request) (request : Request)
        (later : List Request),
      let bounded : Engine := ⟨curve, ⟨some bound, log⟩⟩
      let free : Engine := ⟨curve, ⟨none, log'⟩⟩
      let requests := earlier ++ request :: later
      ∃ current answer answer',
        (bounded.run earlier).2 = ⟨current, bounded.config⟩ ∧
        (free.run earlier).2 = ⟨current, free.config⟩ ∧
        (bounded.run requests).1[earlier.length]? = some answer ∧
        (free.run requests).1[earlier.length]? = some answer' ∧
        (current.InReach bound request.timestamp? → answer.Alike answer') ∧
        (¬ current.InReach bound request.timestamp? →
          request.cutOff? bound = some answer.value ∧ answer.RefusesInWords [bound])) ∧
    ∀ (duration : Option Int) (log log' : Bool) (requests : List Request),
      let loud : Engine := ⟨curve, ⟨duration, log⟩⟩
      let quiet : Engine := ⟨curve, ⟨duration, log'⟩⟩
      List.Forall₂ Logged.Alike (loud.run requests).1 (quiet.run requests).1 ∧
      (loud.run requests).2.curve = (quiet.run requests).2.curve := by
  constructor
  · intro bound log log' earlier request later bounded free requests
    have hconfig := config_run bounded earlier
    have hconfig' := config_run free earlier
    have hsame : bounded.curve = free.curve := rfl
    have hcurve := curve_run_congr hsame earlier
    refine ⟨(free.run earlier).2.curve, _, _, ?_, ?_, getElem?_run bounded earlier request later,
      getElem?_run free earlier request later, ?_, ?_⟩
    · rw [← hcurve, ← hconfig]
    · rw [← hconfig']
    · intro hreach
      have hfree : (bounded.run earlier).2.unbounded = (free.run earlier).2.unbounded := by
        simp [unbounded, hcurve]
      have hin : (bounded.run earlier).2.InReach request.timestamp? := by
        intro d hd
        rw [hconfig] at hd
        cases hd
        exact hcurve ▸ hreach
      have hin' : (free.run earlier).2.InReach request.timestamp? :=
        inReach_of_maxRateDuration_eq_none (by rw [hconfig']) _
      have hbounded := alike_step_of_inReach hin
      rw [hfree] at hbounded
      exact hbounded.trans (alike_step_of_inReach hin').symm
    · intro hreach
      obtain ⟨hcut, htold⟩ := cutOff?_of_not_inReach (by rw [hconfig]) (hcurve ▸ hreach)
      exact ⟨hcut, refusesInWords_of_cutOff? hcut htold⟩
  · intro duration log log' requests loud quiet
    have hsame : loud.curve = quiet.curve := rfl
    exact ⟨alike_run_congr hsame rfl requests, curve_run_congr hsame requests⟩

/-- The second 61 is out of reach of a bound of 60 seconds, until a checkpoint at
the second 50 brings it into reach. -/
theorem bound_only_cuts_off_initial :
    let curve := Curve.redemptionRate .initial
    let bounded : Engine := ⟨curve, ⟨some 60, true⟩⟩
    let free : Engine := ⟨curve, ⟨none, false⟩⟩
    let question : Request := .swap 10 .bToA (some 61)
    let validation : Request := .validate (some 61)
    let checkpoint : Request := .updateRates Ray.one 50 Ray.one 50
    let session := [validation, checkpoint, question]
    (¬ curve.InReach 60 (some 61) ∧ (free.swap 10 .bToA (some 61)).value = some ⟨10, 10⟩ ∧
      ∃ answer, (bounded.run session).1[0]? = some answer ∧
        answer.value = .error (.durationExceeded 60) ∧
        (CurveError.durationExceeded 60).told = .ok "More than 60s since the last checkpoint") ∧
    ((bounded.run [validation, checkpoint]).2.swap 10 .bToA (some 61)).value = some ⟨10, 10⟩ ∧
    ∃ answer answer', (bounded.run session).1[2]? = some answer ∧
      (free.run session).1[2]? = some answer' ∧ answer.Alike answer' := by
  intro curve bounded free question validation checkpoint session
  have hout : ¬ curve.InReach 60 (some 61) := by decide
  have hswap : (free.swap 10 .bToA (some 61)).value = some ⟨10, 10⟩ := by decide +kernel
  have hswap' : ((bounded.run [validation, checkpoint]).2.swap 10 .bToA (some 61)).value
      = some ⟨10, 10⟩ := by decide +kernel
  obtain ⟨hanswers, -⟩ := bound_only_cuts_off curve
  obtain ⟨current, answer, -, hbounded, -, hfirst, -, -, hcut⟩ :=
    hanswers 60 true false [] validation [checkpoint, question]
  obtain ⟨current', last, last', hbounded', -, hlast, hlast', hsame, -⟩ :=
    hanswers 60 true false [validation, checkpoint] question []
  have hcurrent : current = curve := (congrArg Engine.curve hbounded).symm
  have hcurrent' : current' = (bounded.run [validation, checkpoint]).2.curve :=
    (congrArg Engine.curve hbounded').symm
  have hin : current'.InReach 60 (some 61) := by
    rw [hcurrent']
    decide +kernel
  obtain ⟨hrefused, -, hwords⟩ := hcut (hcurrent ▸ hout)
  have hcause : answer.value = .error (.durationExceeded 60) := (Option.some.inj hrefused).symm
  have htold := (hwords _ hcause).2 (by decide +kernel)
  exact ⟨⟨hout, hswap, answer, hfirst, hcause, htold⟩, hswap', last, last', hlast, hlast',
    hsame hin⟩

/-- A bound of 4301 digits refuses a question, and cannot be told. -/
theorem bound_may_have_too_many_digits :
    let bound : Int := -(10 ^ 4300)
    let engine : Engine := ⟨.redemptionRate .initial, ⟨some bound, false⟩⟩
    ¬ engine.curve.InReach bound (some 0) ∧
      (engine.validate (some 0)).value = .error (.durationExceeded bound) ∧
      (CurveError.durationExceeded bound).failure = .rateDurationExceeded ∧
      (CurveError.durationExceeded bound).told = .error Text.tooManyDigits := by
  intro bound engine
  have hout : ¬ engine.curve.InReach bound (some 0) := by decide +kernel
  exact ⟨hout, value_validate_of_not_inReach rfl hout, rfl, by decide +kernel⟩

end Engine

end PegPool
