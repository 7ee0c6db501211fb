import PegPool.Proofs.Swaps
import PegPool.Proofs.Text.Numeral
import PegPool.Proofs.Validation
import PegPool.Proofs.Width
import PegPool.Proofs.Wording
import PegPool.Quote

/-!
# Quotes asked for in full

Where every option has a value, both reserves can be stored and the file holds an object,
a run of a command line ends without a fault: there is a quote if the object tells a curve
that is valid at the time and swaps the amount, and a refusal otherwise.

A quote looks at the reserves for the two values only. What the swap pays need not be
there, so the pool may have a value before and none after; if it has both, the second is
not smaller.
-/

namespace PegPool

/-- Where a swap has an answer, the price and its unit are wide. -/
theorem Price.le_wideMax_of_swap {p r : Nat} {source : Int} {direction : Direction}
    {amounts : SwapAmounts}
    (h : ((⟨p, r⟩ : Price).swap source direction).value = some amounts) :
    p ≤ wideMax ∧ r ≤ wideMax := by
  lift source to Nat using source_nonneg_of_swap h
  cases direction with
  | aToB =>
    obtain ⟨⟨hp, hr, -⟩, -⟩ := value_swap_aToB_eq_some_iff.1 h
    exact ⟨hp, hr⟩
  | bToA =>
    obtain ⟨⟨hp, hr, -⟩, -⟩ := value_swap_bToA_eq_some_iff.1 h
    exact ⟨hp, hr⟩

namespace Quote

/-! ## Runs -/

section Run

variable {α β : Type}

theorem Run.value_mk (result : Except Fault α) :
    (ExceptT.mk (pure result) : Run α).run.value = result := rfl

theorem Run.value_ofLogged (answer : Logged α) :
    (Run.ofLogged answer).run.value = .ok answer.value := rfl

theorem Run.value_bind_of_ok {first : Run α} {next : α → Run β} {x : α}
    (h : first.run.value = .ok x) : (first >>= next).run.value = (next x).run.value := by
  show (ExceptT.bindCont next first.run.value).value = _
  rw [h]
  rfl

theorem Run.value_map_of_ok {f : α → β} {first : Run α} {x : α}
    (h : first.run.value = .ok x) : (f <$> first).run.value = .ok (f x) := by
  obtain ⟨value, events⟩ := first
  obtain rfl : value = .ok x := h
  rfl

end Run

/-! ## Questions -/

/-- What a command line asks for, if every option has a value and the reserves can be
stored. -/
structure Question where
  path : Path
  amount : Int
  direction : Direction
  reserveA : Narrow
  reserveB : Narrow
  timestamp : Option Int
  maxDuration : Option Int
  verbose : Bool

namespace Question

variable (question : Question)

/-- The options that ask the question. -/
def options : Options where
  path := .value question.path
  amount := .value question.amount
  direction := .value question.direction
  reserveA := .value question.reserveA.toNat
  reserveB := .value question.reserveB.toNat
  timestamp := question.timestamp.map .value
  maxDuration := question.maxDuration.map .value
  verbose := question.verbose

/-- The time for which the question is asked. -/
def time (clock : Int) : Int := question.timestamp.getD clock

/-- The engine that answers the question on a curve. -/
def engine (curve : Curve) : Engine :=
  ⟨curve, { Engine.Config.standard with maxRateDuration := question.maxDuration }⟩

/-- The reserves. No pool tokens have a part in a swap. -/
def pool : Pool := ⟨question.reserveA.toNat, question.reserveB.toNat, 0⟩

/-- The reserves after a swap, whether or not they are there. -/
def after (amounts : SwapAmounts) : Int × Int :=
  match question.direction with
  | .aToB => (question.reserveA.toNat + amounts.taken, question.reserveB.toNat - amounts.paid)
  | .bToA => (question.reserveA.toNat - amounts.paid, question.reserveB.toNat + amounts.taken)

/-- Entries answer a question: they tell a curve that is valid at the time, and it swaps
the amount. -/
structure Answered (entries : List (String × Document)) (clock : Int) (curve : Curve)
    (amounts : SwapAmounts) : Prop where
  told : (Parameters.parse entries).value = .ok curve
  valid : ((question.engine curve).validate (some (question.time clock))).value = .ok ()
  swapped : ((question.engine curve).swap question.amount question.direction
    (some (question.time clock))).value = some amounts

/-- The reserves after the swap have a value: the pool holds what is paid, the product of
its token B and the price is wide, and half of its worth is narrow. -/
def ValuedAfter (clock : Int) (curve : Curve) : Prop :=
  ∃ (p r : Nat) (pool : Pool),
    (curve.priceAt (some (question.time clock))).value = some ⟨p, r⟩ ∧
    question.pool.swap? curve question.amount question.direction (some (question.time clock))
      = some pool ∧
    pool.tokenB * p < 2 ^ 256 ∧ (pool.tokenA + pool.tokenB * p / r) / 2 < 2 ^ 128

/-- The quote that answers a question. -/
def report (curve : Curve) (clock : Int) (amounts : SwapAmounts) : Report :=
  let engine := question.engine curve
  let time := question.time clock
  { kind := curve.kind
    conversionRate := (conversionRate engine (.value time)).value
    amounts
    valueBefore := (engine.normalizedValue question.reserveA.toNat question.reserveB.toNat
      (some time)).value
    valueAfter := (engine.normalizedValue (question.after amounts).1 (question.after amounts).2
      (some time)).value }

end Question

/-! ## Reserves and their values -/

section Reserves

variable {question : Question} {amounts : SwapAmounts} {new : Pool}

theorem reserves_options : reserves question.options question.direction amounts
    = .ok ((question.reserveA.toNat, question.reserveB.toNat), question.after amounts) := by
  unfold reserves Question.after
  cases question.direction <;> rfl

/-- The pool holds what is paid exactly where no reserve is below zero after the swap. -/
theorem exchange?_eq_some_iff : question.pool.exchange? amounts question.direction = some new
    ↔ question.after amounts = ((new.tokenA : Int), (new.tokenB : Int)) ∧ new.supply = 0 := by
  obtain ⟨tokenA, tokenB, supply⟩ := new
  unfold Question.after Question.pool
  cases question.direction with
  | aToB =>
    simp only [Pool.exchange?_aToB_eq_some_iff, Pool.mk.injEq, Prod.mk.injEq]
    omega
  | bToA =>
    simp only [Pool.exchange?_bToA_eq_some_iff, Pool.mk.injEq, Prod.mk.injEq]
    omega

theorem exists_exchange?_of_nonneg (hA : 0 ≤ (question.after amounts).1)
    (hB : 0 ≤ (question.after amounts).2) :
    ∃ new, question.pool.exchange? amounts question.direction = some new := by
  obtain ⟨a, ha⟩ := Int.eq_ofNat_of_zero_le hA
  obtain ⟨b, hb⟩ := Int.eq_ofNat_of_zero_le hB
  exact ⟨⟨a, b, 0⟩, exchange?_eq_some_iff.2 ⟨Prod.ext ha hb, rfl⟩⟩

end Reserves

/-! ## Making a quote -/

theorem value_valueOf {engine : Engine} {a b : Int} (ha : a.natAbs ≤ wideMax)
    (hb : b.natAbs ≤ wideMax) (time : Int) :
    (valueOf engine (a, b) (.value time)).run.value
      = .ok (engine.normalizedValue a b (some time)).value := by
  have hwritable : (toldReserve? (a, b)).all Text.isWritable = true := by
    rw [Option.all_eq_true]
    intro reserve hreserve
    have hmem := List.mem_of_find?_eq_some hreserve
    simp only [List.mem_cons, List.not_mem_nil, or_false] at hmem
    rw [Text.isWritable_iff]
    have hbound : reserve.natAbs ≤ wideMax := by
      obtain rfl | rfl := hmem <;> assumption
    exact hbound.trans_lt wideMax_lt_writeBound
  rw [valueOf, if_pos hwritable, Run.value_ofLogged]
  rfl

theorem value_validate (question : Question) (curve : Curve) (time : Int) :
    (validate (question.engine curve) question.options.maxDuration (.value time)).run.value
      = .ok ((question.engine curve).validate (some time)).value := by
  cases curve with
  | constantPrice record =>
    have hreach : (question.engine (.constantPrice record)).InReach (some time) :=
      fun bound _ => Curve.inReach_constantPrice record bound _
    rw [Engine.validate_of_inReach hreach]
    rfl
  | redemptionRate record =>
    obtain ⟨_, _, _, _, _, _, maxDuration, _⟩ := question
    cases maxDuration <;> rfl

variable {question : Question} {curve : Curve} {clock : Int} {amounts : SwapAmounts}

theorem value_reportOf (htaken : amounts.taken < 2 ^ 128) (hpaid : amounts.paid < 2 ^ 128) :
    (reportOf question.options (question.engine curve) question.direction
      (.value (question.time clock)) amounts).run.value
      = .ok (question.report curve clock amounts) := by
  have hmax : 2 * narrowMax + 1 ≤ wideMax ∧ narrowMax + 1 = 2 ^ 128 := by decide
  have hA := question.reserveA.toNat_le
  have hB := question.reserveB.toNat_le
  have hafter : (question.after amounts).1.natAbs ≤ wideMax ∧
      (question.after amounts).2.natAbs ≤ wideMax := by
    unfold Question.after
    cases question.direction <;> simp only <;> omega
  obtain ⟨hafterA, hafterB⟩ := hafter
  have hbefore := @value_valueOf (question.engine curve) question.reserveA.toNat
    question.reserveB.toNat (by omega) (by omega) (question.time clock)
  have hafter := @value_valueOf (question.engine curve) _ _ hafterA hafterB
    (question.time clock)
  rw [reportOf, Run.value_bind_of_ok ((Run.value_mk _).trans reserves_options),
    Run.value_bind_of_ok (Run.value_ofLogged _), Run.value_bind_of_ok hbefore,
    Run.value_bind_of_ok hafter]
  rfl

theorem engine_options : (⟨curve, { Engine.Config.standard with
    maxRateDuration := question.options.maxDuration.bind (·.toOption) }⟩ : Engine)
      = question.engine curve := by
  unfold Question.engine Question.options
  cases question.maxDuration <;> rfl

/-- A curve that is valid and swaps the amount is quoted. -/
theorem value_ofCurve_of_swapped
    (valid : ((question.engine curve).validate (some (question.time clock))).value = .ok ())
    (swapped : ((question.engine curve).swap question.amount question.direction
      (some (question.time clock))).value = some amounts) :
    (ofCurve question.options question.direction curve (.value (question.time clock))).run.value
      = .ok (.ok (question.report curve clock amounts)) := by
  have hvalidate := value_validate question curve (question.time clock)
  rw [valid] at hvalidate
  obtain ⟨⟨-, -, htaken⟩, -, hpaid⟩ :=
    (question.engine curve).answersFit.swap _ _ _ _ swapped
  simp only [ofCurve, engine_options]
  refine (Run.value_bind_of_ok hvalidate).trans ?_
  refine (Run.value_bind_of_ok (Run.value_ofLogged _)).trans ?_
  simp only [swap, swapped]
  exact Run.value_map_of_ok (value_reportOf htaken hpaid)

/-- One that is not valid, or swaps nothing, is refused. -/
theorem exists_value_ofCurve_eq_refusal
    (h : ((question.engine curve).validate (some (question.time clock))).value = .ok () →
      ((question.engine curve).swap question.amount question.direction
        (some (question.time clock))).value = none) :
    ∃ refusal, (ofCurve question.options question.direction curve
      (.value (question.time clock))).run.value = .ok (.error refusal) := by
  have hvalidate := value_validate question curve (question.time clock)
  simp only [ofCurve, engine_options]
  cases hvalid : ((question.engine curve).validate (some (question.time clock))).value with
  | error cause =>
    rw [hvalid] at hvalidate
    exact ⟨_, Run.value_bind_of_ok hvalidate⟩
  | ok =>
    rw [hvalid] at hvalidate
    refine ⟨.noSwap question.amount question.direction,
      (Run.value_bind_of_ok hvalidate).trans ?_⟩
    refine (Run.value_bind_of_ok (Run.value_ofLogged _)).trans ?_
    simp only [swap, h hvalid]
    rfl

/-! ## Runs of a command line -/

section CommandLine

variable {arguments : List String} {sourceOf : Path → Source}
  {entries : List (String × Document)}

theorem timestamp_options :
    question.options.timestamp.getD (.value clock) = .value (question.time clock) := by
  unfold Question.time Question.options
  cases question.timestamp <;> rfl

theorem value_parseDocument_object : (Parameters.parseDocument (.object entries)).value
    = (Parameters.parse entries).value.mapError .curve := rfl

theorem value_ofSource_of_told (told : (Parameters.parse entries).value = .ok curve) :
    (ofSource question.options question.path (.document (.object entries)) clock).run.value
      = (ofCurve question.options question.direction curve
        (.value (question.time clock))).run.value := by
  have hparse : (Run.ofLogged (Parameters.parseDocument (.object entries))).run.value
      = .ok (.ok curve) := by
    rw [Run.value_ofLogged, value_parseDocument_object, told]
    rfl
  rw [← timestamp_options]
  exact Run.value_bind_of_ok hparse

theorem value_ofSource_of_not_told {cause : CurveError}
    (untold : (Parameters.parse entries).value = .error cause) :
    (ofSource question.options question.path (.document (.object entries)) clock).run.value
      = .ok (.error (.badCurve cause)) := by
  have hparse : (Run.ofLogged (Parameters.parseDocument (.object entries))).run.value
      = .ok (.error (.curve cause)) := by
    rw [Run.value_ofLogged, value_parseDocument_object, untold]
    rfl
  exact Run.value_bind_of_ok hparse

/-- A run leaves what follows from the answer to its question. -/
theorem value_run (harguments : Options.parse arguments = .ok question.options)
    (hsource : sourceOf question.path = .document (.object entries))
    {answer : Except Refusal Report}
    (h : (ofSource question.options question.path (.document (.object entries)) clock).run.value
      = .ok answer) :
    (run arguments sourceOf clock).value = .ok (outcomeOf answer) := by
  rw [run, harguments]
  show (Quote.answer question.options question.path (sourceOf question.path) clock).value = _
  rw [hsource]
  refine (Run.value_bind_of_ok h).trans ?_
  cases answer <;> rfl

/-- Entries that answer the question are quoted, and others are refused. -/
theorem value_run_of_answered (harguments : Options.parse arguments = .ok question.options)
    (hsource : sourceOf question.path = .document (.object entries))
    (h : question.Answered entries clock curve amounts) :
    (run arguments sourceOf clock).value
      = .ok ⟨0, (question.report curve clock amounts).lines⟩ :=
  value_run harguments hsource ((value_ofSource_of_told h.told).trans
    (value_ofCurve_of_swapped h.valid h.swapped))

theorem value_run_of_not_answered (harguments : Options.parse arguments = .ok question.options)
    (hsource : sourceOf question.path = .document (.object entries))
    (h : ∀ curve amounts, ¬ question.Answered entries clock curve amounts) :
    (run arguments sourceOf clock).value = .ok ⟨1, []⟩ := by
  cases htold : (Parameters.parse entries).value with
  | error cause => exact value_run harguments hsource (value_ofSource_of_not_told htold)
  | ok curve =>
    have hnone (hvalid : ((question.engine curve).validate
        (some (question.time clock))).value = .ok ()) :
        ((question.engine curve).swap question.amount question.direction
          (some (question.time clock))).value = none :=
      Option.eq_none_iff_forall_ne_some.2 fun amounts hamounts =>
        h curve amounts ⟨htold, hvalid, hamounts⟩
    obtain ⟨refusal, hrefusal⟩ := exists_value_ofCurve_eq_refusal hnone
    exact value_run harguments hsource ((value_ofSource_of_told htold).trans hrefusal)

end CommandLine

/-! ## Lines -/

theorem showAmount_eq_toString_iff {amount : Option Nat} {n : Nat} :
    showAmount amount = toString n ↔ amount = some n := by
  cases amount with
  | none =>
    -- the word for no amount has letters
    have hletter : 'N' ∉ (toString n).toList := by
      rw [Nat.toString_eq_repr, Nat.toList_repr]
      intro hmem
      exact absurd (Nat.isDigit_of_mem_toDigits (by decide) (by decide) hmem) (by decide)
    have hne : showAmount none ≠ toString n := by
      intro h
      rw [← h] at hletter
      exact absurd hletter (by decide)
    simp only [hne, reduceCtorEq]
  | some m => simp only [showAmount, Text.toString_inj, Option.some.injEq]

/-- Lines whose labels are of one length agree if labels and contents agree. -/
theorem line_eq_iff {label other x y : String}
    (h : label.toList.length = other.toList.length) :
    label ++ x = other ++ y ↔ label = other ∧ x = y := by
  constructor
  · intro hline
    have hlist := congrArg String.toList hline
    rw [String.toList_append, String.toList_append] at hlist
    obtain ⟨hlabel, hrest⟩ := List.append_inj hlist h
    exact ⟨String.toList_inj.1 hlabel, String.toList_inj.1 hrest⟩
  · rintro ⟨rfl, rfl⟩
    rfl

/-- A line with a label is not the one above and below a quote. -/
theorem line_ne_rule {label x : String} {first : Char}
    (hfirst : label.toList.head? = some first) (hne : first ≠ '=') : label ++ x ≠ rule := by
  have hrule : rule.toList.head? = some '=' := by
    unfold rule
    rw [String.toList_ofList, List.head?_replicate]
    simp
  intro hline
  rw [← hline, String.toList_append, List.head?_append, hfirst] at hrule
  exact hne (Option.some.inj hrule)

section Lines

variable {report : Report} {n : Nat}

theorem lines_eq : report.lines = [rule, "Curve type:        " ++ report.kind.name]
    ++ (report.conversionRate.map fun rate => "Conversion rate:   " ++ showAmount rate).toList
    ++ ["Source used:       " ++ toString report.amounts.taken,
      "Destination paid:  " ++ toString report.amounts.paid,
      "Value before:      " ++ showAmount report.valueBefore,
      "Value after:       " ++ showAmount report.valueAfter, rule] := rfl

/-- A line with a label is among the lines of a quote if it has what the quote tells
under this label. -/
theorem mem_lines_iff {label x : String} {first : Char} (hlength : label.toList.length = 19)
    (hfirst : label.toList.head? = some first) (hne : first ≠ '=') :
    label ++ x ∈ report.lines ↔
      label = "Curve type:        " ∧ x = report.kind.name ∨
      label = "Conversion rate:   " ∧
        (∃ rate, report.conversionRate = some rate ∧ x = showAmount rate) ∨
      label = "Source used:       " ∧ x = toString report.amounts.taken ∨
      label = "Destination paid:  " ∧ x = toString report.amounts.paid ∨
      label = "Value before:      " ∧ x = showAmount report.valueBefore ∨
      label = "Value after:       " ∧ x = showAmount report.valueAfter := by
  have hline : ∀ {other y : String}, other.toList.length = 19 →
      (label ++ x = other ++ y ↔ label = other ∧ x = y) :=
    fun hother => line_eq_iff (hlength.trans hother.symm)
  have hrate : ∀ rate, "Conversion rate:   " ++ showAmount rate = label ++ x ↔
      label = "Conversion rate:   " ∧ x = showAmount rate :=
    fun rate => eq_comm.trans (hline (by decide))
  simp (disch := decide) only [lines_eq, List.mem_append, List.mem_cons, List.not_mem_nil,
    Option.mem_toList, Option.map_eq_some_iff, line_ne_rule hfirst hne, hline, hrate, or_false,
    false_or, and_left_comm, exists_and_left, or_assoc]

theorem used_mem_lines_iff :
    s!"Source used:       {n}" ∈ report.lines ↔ report.amounts.taken = n := by
  show "Source used:       " ++ toString n ∈ report.lines ↔ _
  rw [mem_lines_iff (by decide) rfl (by decide), ← Text.toString_inj,
    @eq_comm _ (toString report.amounts.taken)]
  simp only [String.reduceEq, false_and, false_or, true_and, or_false]

theorem before_mem_lines_iff :
    s!"Value before:      {n}" ∈ report.lines ↔ report.valueBefore = some n := by
  show "Value before:      " ++ toString n ∈ report.lines ↔ _
  rw [mem_lines_iff (by decide) rfl (by decide), ← showAmount_eq_toString_iff,
    @eq_comm _ (showAmount report.valueBefore)]
  simp only [String.reduceEq, false_and, false_or, true_and, or_false]

theorem after_mem_lines_iff :
    s!"Value after:       {n}" ∈ report.lines ↔ report.valueAfter = some n := by
  show "Value after:       " ++ toString n ∈ report.lines ↔ _
  rw [mem_lines_iff (by decide) rfl (by decide), ← showAmount_eq_toString_iff,
    @eq_comm _ (showAmount report.valueAfter)]
  simp only [String.reduceEq, false_and, false_or, true_and]

end Lines

/-! ## Values before and after -/

section Answered

variable {entries : List (String × Document)}
  (h : question.Answered entries clock curve amounts)

include h

theorem Question.Answered.unique {other : Curve} {moved : SwapAmounts}
    (h' : question.Answered entries clock other moved) : curve = other ∧ amounts = moved := by
  obtain rfl : curve = other := Except.ok.inj (h.told.symm.trans h'.told)
  exact ⟨rfl, Option.some.inj (h.swapped.symm.trans h'.swapped)⟩

/-- A question is answered at a price, at which the pool is valued too. -/
theorem Question.Answered.exists_price : ∃ p r : Nat,
    (curve.priceAt (some (question.time clock))).value = some ⟨p, r⟩ ∧
    ((⟨p, r⟩ : Price).swap question.amount question.direction).value = some amounts ∧
    ∀ a b, ((question.engine curve).normalizedValue a b (some (question.time clock))).value
      = ((⟨p, r⟩ : Price).normalizedValue a b).value := by
  obtain ⟨hreach, hswap⟩ := Engine.value_ask_eq_some_iff.1 h.swapped
  obtain ⟨price, hprice, hswap⟩ := Logged.value_andThen_eq_some_iff.1 hswap
  obtain ⟨p, r, rfl⟩ := Curve.exists_natCast_of_priceAt hprice
  refine ⟨p, r, hprice, hswap, fun a b => ?_⟩
  rw [← Curve.value_normalizedValue_of_priceAt hprice]
  exact Engine.value_ask_of_inReach hreach

/-- The pool can make the swap if it holds what is paid. -/
theorem Question.Answered.swap?_eq_exchange? :
    question.pool.swap? curve question.amount question.direction (some (question.time clock))
      = question.pool.exchange? amounts question.direction := by
  obtain ⟨p, r, hprice, hswap, -⟩ := h.exists_price
  rw [Pool.swap?, Curve.value_swap_of_priceAt hprice, hswap]
  rfl

theorem Question.Answered.exists_valueAfter_iff :
    (∃ v, (question.report curve clock amounts).valueAfter = some v)
      ↔ question.ValuedAfter clock curve := by
  have hmax : narrowMax + 1 = 2 ^ 128 ∧ wideMax + 1 = 2 ^ 256 := by decide
  obtain ⟨p, r, hprice, hswap, hvalue⟩ := h.exists_price
  simp only [Question.report, hvalue]
  constructor
  · rintro ⟨v, hv⟩
    obtain ⟨hA, hB⟩ := Price.reserves_nonneg_of_normalizedValue hv
    obtain ⟨new, hnew⟩ := exists_exchange?_of_nonneg hA hB
    rw [(exchange?_eq_some_iff.1 hnew).1] at hv
    obtain ⟨⟨-, -, -, hproduct, -⟩, rfl, hnarrow⟩ := Price.value_normalizedValue_eq_some_iff.1 hv
    exact ⟨p, r, new, hprice, h.swap?_eq_exchange?.trans hnew, by omega, by omega⟩
  · rintro ⟨p', r', new, hprice', hnew, hproduct, hnarrow⟩
    obtain ⟨rfl, rfl⟩ : p = p' ∧ r = r' := by simpa [hprice] using hprice'
    obtain ⟨hp, hr⟩ := Price.ne_zero_of_swap hswap
    obtain ⟨hpwide, hrwide⟩ := Price.le_wideMax_of_swap hswap
    have hB : new.tokenB ≤ new.tokenB * p := Nat.le_mul_of_pos_right _ (Nat.pos_of_ne_zero hp)
    rw [(exchange?_eq_some_iff.1 (h.swap?_eq_exchange? ▸ hnew)).1]
    exact ⟨_, Price.value_normalizedValue_eq_some_iff.2
      ⟨⟨by omega, hpwide, hrwide, by omega, hr⟩, rfl, by omega⟩⟩

theorem Question.Answered.valueBefore_le_valueAfter {v w : Nat}
    (hv : (question.report curve clock amounts).valueBefore = some v)
    (hw : (question.report curve clock amounts).valueAfter = some w) : v ≤ w := by
  obtain ⟨p, r, new, hprice, hnew, -⟩ := h.exists_valueAfter_iff.1 ⟨w, hw⟩
  have hworth := (Pool.worth_le_of_swap? hprice hnew).1
  obtain ⟨p', r', hprice', -, hvalue⟩ := h.exists_price
  obtain ⟨rfl, rfl⟩ : p' = p ∧ r' = r := by simpa [hprice'] using hprice
  simp only [Question.report, hvalue] at hv hw
  rw [(exchange?_eq_some_iff.1 (h.swap?_eq_exchange? ▸ hnew)).1] at hw
  exact Pool.normalizedValue_le_of_worth_le hworth hv hw

end Answered

/-! ## What a command line is told -/

/-- Without the lines of a quote only events are printed. -/
theorem printed_eq_of_value {result : Logged (Except Fault Outcome)} {code : Nat}
    (h : result.value = .ok ⟨code, []⟩) : printed result = result.events.map Event.line := by
  rw [printed, h]
  exact List.append_nil _

/-- A question about an object is quoted exactly where the object answers it, and refused
without a line of a quote otherwise: then only events are printed. No more is taken than was
offered. The pool has a value after the swap exactly if it holds what is paid and the value
fits, and this value is not smaller than the one before. -/
theorem quote_outcome {arguments : List String} {sourceOf : Path → Source}
    {entries : List (String × Document)}
    (harguments : Options.parse arguments = .ok question.options)
    (hsource : sourceOf question.path = .document (.object entries)) :
    ∃ outcome, (run arguments sourceOf clock).value = .ok outcome ∧
      (outcome.exitCode = 0 ↔ ∃ curve amounts, question.Answered entries clock curve amounts) ∧
      (outcome.exitCode ≠ 0 → outcome = ⟨1, []⟩ ∧ printed (run arguments sourceOf clock)
        = (run arguments sourceOf clock).events.map Event.line) ∧
      ∀ curve amounts, question.Answered entries clock curve amounts →
        ((∀ used : Nat, s!"Source used:       {used}" ∈ outcome.lines ↔ amounts.taken = used) ∧
          (amounts.taken : Int) ≤ question.amount) ∧
        ((∃ after : Nat, s!"Value after:       {after}" ∈ outcome.lines)
          ↔ question.ValuedAfter clock curve) ∧
        ∀ before after : Nat, s!"Value before:      {before}" ∈ outcome.lines →
          s!"Value after:       {after}" ∈ outcome.lines → before ≤ after := by
  by_cases hanswered : ∃ curve amounts, question.Answered entries clock curve amounts
  · obtain ⟨curve, amounts, h⟩ := hanswered
    refine ⟨_, value_run_of_answered harguments hsource h, ?_, ?_, ?_⟩
    · simp only [true_iff]
      exact ⟨curve, amounts, h⟩
    · exact fun hcode => absurd rfl hcode
    · intro curve' amounts' h'
      obtain ⟨rfl, rfl⟩ := h.unique h'
      simp only [used_mem_lines_iff, before_mem_lines_iff, after_mem_lines_iff]
      obtain ⟨p, r, -, hswap, -⟩ := h.exists_price
      exact ⟨⟨fun _ => Iff.rfl, (Price.movable_of_swap hswap).2.2⟩, h.exists_valueAfter_iff,
        fun _ _ => h.valueBefore_le_valueAfter⟩
  · have hnone : ∀ curve amounts, ¬ question.Answered entries clock curve amounts :=
      fun curve amounts h => hanswered ⟨curve, amounts, h⟩
    have hrun : (run arguments sourceOf clock).value = .ok ⟨1, []⟩ :=
      value_run_of_not_answered harguments hsource hnone
    refine ⟨_, hrun, ?_, fun _ => ⟨rfl, printed_eq_of_value hrun⟩, ?_⟩
    · simp only [hanswered, iff_false]
      decide
    · exact fun curve amounts h => absurd h (hnone curve amounts)

/-- The arguments for a swap of an amount between reserves. -/
def commandLine (amount direction reserveA reserveB : String) : List String :=
  ["--curve", "curve.json", "--amount", amount, "--direction", direction,
    "--reserve-a", reserveA, "--reserve-b", reserveB, "--timestamp", "0"]

/-- The entries of a fixed price. -/
def fixedPrice (price : String) : List (String × Document) :=
  [("curve_type", .text "constant_price"), ("token_b_price", .text price)]

/-- Three tokens B at one and a half tokens A: four tokens A are paid, and half a token A
stays in the pool, which makes its value one more. -/
theorem quote_outcome_oneAndAHalf :
    ∃ outcome, (run (commandLine "3" "b_to_a" "101" "51")
        (fun _ => .document (.object (fixedPrice "1500000000000000000000000000"))) 0).value
        = .ok outcome ∧
      outcome.exitCode = 0 ∧ "Source used:       3" ∈ outcome.lines ∧
      (∃ after : Nat, s!"Value after:       {after}" ∈ outcome.lines) ∧
      ∀ before after : Nat, s!"Value before:      {before}" ∈ outcome.lines →
        s!"Value after:       {after}" ∈ outcome.lines → before ≤ after := by
  let price : Narrow := ⟨3 * Ray.one / 2, by decide⟩
  let question : Question := {
    path := Path.ofText "curve.json"
    amount := 3
    direction := .bToA
    reserveA := ⟨101, by decide⟩
    reserveB := ⟨51, by decide⟩
    timestamp := some 0
    maxDuration := none
    verbose := false }
  have harguments : Options.parse (commandLine "3" "b_to_a" "101" "51") = .ok question.options := by
    decide +kernel
  have hanswered : question.Answered (fixedPrice "1500000000000000000000000000") 0
      (.constantPrice ⟨price⟩) ⟨3, 4⟩ :=
    ⟨by decide +kernel, by decide +kernel, by decide +kernel⟩
  have hvalued : question.ValuedAfter 0 (.constantPrice ⟨price⟩) :=
    ⟨3 * Ray.one / 2, Ray.one, ⟨97, 54, 0⟩, by decide +kernel, by decide +kernel, by decide,
      by decide⟩
  obtain ⟨outcome, hrun, hcode, -, hquote⟩ := @quote_outcome question 0 _
    (fun _ => .document (.object (fixedPrice "1500000000000000000000000000"))) _ harguments rfl
  obtain ⟨⟨hused, -⟩, hafter, hvalue⟩ := hquote _ _ hanswered
  exact ⟨outcome, hrun, hcode.2 ⟨_, _, hanswered⟩, (hused 3).2 rfl, hafter.2 hvalued, hvalue⟩

/-- The entries of an index at the upper end of its range. -/
def greatestIndex : List (String × Document) :=
  [("curve_type", .text "redemption_rate"), ("ray", .integer narrowMax),
    ("ssr", .integer narrowMax), ("rho", .integer 0), ("chi", .integer narrowMax)]

/-- Nothing is offered, so nothing is swapped. -/
def nothingOffered : Logged (Except Fault Outcome) :=
  run (commandLine "0" "a_to_b" "1" "1")
    (fun _ => .document (.object (fixedPrice "1000000000000000000000000000"))) 0

/-- A pool with a value before a swap need not have one after it: more is paid than the
pool holds, or the value is no longer narrow, or the product of its token B and the price
is no longer wide. And a refusal prints no line of a quote, but its event. -/
theorem missing_value_after_and_printed_refusal :
    (run (commandLine "10" "a_to_b" "100" "5")
        (fun _ => .document (.object (fixedPrice "1000000000000000000000000000"))) 0).value
      = .ok ⟨0, [rule, "Curve type:        CONSTANT_PRICE", "Source used:       10",
        "Destination paid:  10", "Value before:      52", "Value after:       None", rule]⟩ ∧
    (run (commandLine "2" "a_to_b" "170141183460469231731687303715884105729"
          "340282366920938463463374607431768211455")
        (fun _ => .document (.object (fixedPrice "1500000000000000000000000000"))) 0).value
      = .ok ⟨0, [rule, "Curve type:        CONSTANT_PRICE", "Source used:       2",
        "Destination paid:  1", "Value before:      340282366920938463463374607431768211455",
        "Value after:       None", rule]⟩ ∧
    (run (commandLine "3" "b_to_a" "10" "340282366920938463463374607431768211455")
        (fun _ => .document (.object greatestIndex)) 0).value
      = .ok ⟨0, [rule, "Curve type:        REDEMPTION_RATE",
        "Conversion rate:   340282366920938463463374607431768211455", "Source used:       3",
        "Destination paid:  3", "Value before:      170141183460469231731687303715884105732",
        "Value after:       None", rule]⟩ ∧
    nothingOffered.value = .ok ⟨1, []⟩ ∧
    printed nothingOffered = [Event.line (.swapRejected 0 .aToB)] := by
  have hvalue : nothingOffered.value = .ok ⟨1, []⟩ := by decide +kernel
  have hevents : nothingOffered.events = [.swapRejected 0 .aToB] := by decide +kernel
  refine ⟨by decide +kernel, by decide +kernel, by decide +kernel, hvalue, ?_⟩
  rw [printed_eq_of_value hvalue, hevents]
  rfl

end Quote

end PegPool
