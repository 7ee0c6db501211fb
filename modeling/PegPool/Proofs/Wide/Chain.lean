import PegPool.Proofs.Wide.Exact
import PegPool.Wide.Chain

/-!
# Chains of exact results

A chain of operations on wide amounts runs beside the same chain over all integers. As long
as the exact numbers stay in range the two agree, and the first number that leaves the range
ends the chain, even if a later operation would have brought it back.
-/

namespace PegPool.Wide

/-- The result of a chain of operations over all integers, if there is one. -/
def resultAll? (n : Int) (operations : List Operation) : Option Int :=
  operations.foldlM (fun m operation => operation.operator.result? m operation.operand) n

/-- The exact numbers of a chain are all in range, from the first to the last. -/
def StaysInRange (n : Int) (operations : List Operation) : Prop :=
  ∀ k, ∃ m, resultAll? n (operations.take k) = some m ∧ InRange m

/-- What stands before an operator is in range. -/
def Operation.Admissible (operation : Operation) : Prop :=
  operation.operator.isReversed → InRange operation.operand

section Cons

variable {u w : Wide} {n m : Int} {operation : Operation} {operations : List Operation}

theorem applyAll_cons_eq_ok_iff :
    u.applyAll (operation :: operations) = .ok w ↔
      ∃ v : Wide, u.apply operation.operator operation.operand = .ok v ∧
        v.applyAll operations = .ok w := by
  rw [applyAll, List.foldlM_cons, bind_eq_ok_iff]
  rfl

theorem resultAll?_cons (h : operation.operator.result? n operation.operand = some m) :
    resultAll? n (operation :: operations) = resultAll? m operations := by
  rw [resultAll?, List.foldlM_cons, h]
  rfl

/-- The first number of a longer chain is the result of its first operation. -/
theorem StaysInRange.exists_first (h : StaysInRange n (operation :: operations)) :
    ∃ m, operation.operator.result? n operation.operand = some m ∧ InRange m := by
  obtain ⟨m, hm, hrange⟩ := h 1
  refine ⟨m, ?_, hrange⟩
  cases hfirst : operation.operator.result? n operation.operand with
  | none => simp [resultAll?, hfirst] at hm
  | some first =>
    rw [List.take_succ_cons, List.take_zero, resultAll?_cons hfirst] at hm
    exact hm

theorem staysInRange_cons_iff (hn : InRange n)
    (h : operation.operator.result? n operation.operand = some m) :
    StaysInRange n (operation :: operations) ↔ StaysInRange m operations := by
  constructor
  · intro hstays k
    have hnext := hstays (k + 1)
    rwa [List.take_succ_cons, resultAll?_cons h] at hnext
  · intro hstays k
    cases k with
    | zero => exact ⟨n, rfl, hn⟩
    | succ k =>
      rw [List.take_succ_cons, resultAll?_cons h]
      exact hstays k

end Cons

/-- A chain has a result exactly where the exact numbers stay in range, and it is theirs. -/
theorem applyAll_eq_ok_iff {u w : Wide} {operations : List Operation} :
    u.applyAll operations = .ok w ↔
      resultAll? u operations = some (w : Int) ∧ StaysInRange u operations ∧
        ∀ operation ∈ operations, operation.Admissible := by
  induction operations generalizing u with
  | nil =>
    have hstays : StaysInRange u [] := fun k => ⟨u, by rw [List.take_nil]; rfl, u.inRange_toNat⟩
    simp [applyAll, resultAll?, hstays, Wide.ext_iff, pure, Except.pure]
  | cons operation operations ih =>
    rw [applyAll_cons_eq_ok_iff, List.forall_mem_cons]
    constructor
    · rintro ⟨v, hv, hrest⟩
      obtain ⟨hexact, hadmissible⟩ := apply_eq_ok_iff.1 hv
      obtain ⟨hresult, hstays, hoperands⟩ := ih.1 hrest
      rw [resultAll?_cons hexact, staysInRange_cons_iff u.inRange_toNat hexact]
      exact ⟨hresult, hstays, hadmissible, hoperands⟩
    · rintro ⟨hresult, hstays, hadmissible, hoperands⟩
      obtain ⟨m, hexact, hrange⟩ := hstays.exists_first
      rw [resultAll?_cons hexact] at hresult
      rw [staysInRange_cons_iff u.inRange_toNat hexact] at hstays
      -- the first exact number is in range, so it is that of a wide amount
      lift m to Nat using hrange.1
      lift m to Wide using inRange_natCast_iff.1 hrange
      exact ⟨m, apply_eq_ok_iff.2 ⟨hexact, hadmissible⟩, ih.2 ⟨hresult, hstays, hoperands⟩⟩

/-! ## Every operator, every operand, every chain -/

/-- Arithmetic on wide amounts is exact or an error, never wrapped. Whatever integer the
operand is, an operator answers the exact result where it owes one, and otherwise fails with
the kind of failure that it owes, in words as long as the operand can be written. An operand
before the operator comes to the same as one after it, in the other order. A chain has a
result exactly where the exact numbers stay in range all the way, and it is theirs. -/
theorem exact_or_refused (u : Wide) :
    (∀ (operator : Operator) (x : Operand) (n : Int), x.Whole n →
      (∀ w, u.applyOperand operator x = .ok w ↔ operator.outcome u n = .ok (w : Int)) ∧
      ∀ failure, operator.outcome u n = .error failure → n.natAbs < 10 ^ 4000 →
        ∃ cause, u.applyOperand operator x = .error cause ∧ cause.failure? = some failure ∧
          cause.told = .ok cause.message) ∧
    (∀ operator mirror : Operator, operator.mirror? = some mirror →
      (∀ n, mirror.result? u n = operator.result? n u) ∧
      ∀ v : Wide, seen (u.apply mirror v) = seen (v.apply operator u)) ∧
    ∀ (operations : List Operation) (w : Wide),
      u.applyAll operations = .ok w ↔
        resultAll? u operations = some (w : Int) ∧ StaysInRange u operations ∧
          ∀ operation ∈ operations, operation.Admissible := by
  refine ⟨?_, ?_, fun operations w => applyAll_eq_ok_iff⟩
  · intro operator x n hx
    exact ⟨fun w => applyOperand_eq_ok_iff hx,
      fun failure hfailure hn => exists_applyOperand_eq_error hx hn hfailure⟩
  · intro operator mirror hmirror
    exact ⟨fun n => Operator.result?_mirror hmirror u n, fun v => seen_apply_mirror hmirror u v⟩

/-- With -8 below it, the quotient of 7 is rounded up to zero. Over -2 it is negative, and
`2 ^ 256 - 7` is refused although that number is in range. From 10, 7 is taken in either
order. One chain comes to 5, the other leaves the range on the way and is refused. -/
theorem exact_or_refused_seven :
    let u : Wide := ⟨7, by decide⟩
    let zero : Wide := ⟨0, by decide⟩
    let ten : Wide := ⟨10, by decide⟩
    let five : Wide := ⟨5, by decide⟩
    let inside : List Operation := [⟨.mul, 3⟩, ⟨.sub, 1⟩, ⟨.ceilDiv, 6⟩, ⟨.subFrom, 9⟩]
    let outside : List Operation := [⟨.mul, 2 ^ 254⟩, ⟨.div, 2 ^ 254⟩]
    ((Operand.integer (-8)).Whole (-8) ∧ Operator.ceilDiv.outcome u (-8) = .ok zero ∧
      u.applyOperand .ceilDiv (.integer (-8)) = .ok zero) ∧
    ((Operand.integer (-2)).Whole (-2) ∧ Operator.div.outcome u (-2) = .error .underflow ∧
      (-2 : Int).natAbs < 10 ^ 4000 ∧
      ∃ cause, u.applyOperand .div (.integer (-2)) = .error cause ∧
        cause.failure? = some .underflow ∧ cause.told = .ok cause.message) ∧
    ((Operand.integer (2 ^ 256)).Whole (2 ^ 256) ∧
      Operator.subFrom.result? u (2 ^ 256) = some (2 ^ 256 - 7) ∧
      Operator.subFrom.outcome u (2 ^ 256) = .error .overflow ∧
      (2 ^ 256 : Int).natAbs < 10 ^ 4000 ∧
      ∃ cause, u.applyOperand .subFrom (.integer (2 ^ 256)) = .error cause ∧
        cause.failure? = some .overflow ∧ cause.told = .ok cause.message) ∧
    (Operator.sub.mirror? = some .subFrom ∧
      seen (u.apply .subFrom ten) = seen (ten.apply .sub u)) ∧
    u.applyAll inside = .ok five ∧
    resultAll? u outside = some (7 : Int) ∧ u.applyAll outside ≠ .ok u := by
  intro u zero ten five inside outside
  obtain ⟨hoperand, hmirror, hchain⟩ := exact_or_refused u
  have hzero : Operator.ceilDiv.outcome u (-8) = .ok zero := by decide +kernel
  have hunder : Operator.div.outcome u (-2) = .error .underflow := by decide +kernel
  have hover : Operator.subFrom.outcome u (2 ^ 256) = .error .overflow := by decide +kernel
  have hsmall : (2 ^ 256 : Int).natAbs < 10 ^ 4000 := by decide +kernel
  have hstays : ¬ StaysInRange u outside := by
    intro hstays
    obtain ⟨m, hm, hrange⟩ := hstays 1
    cases hm
    exact absurd hrange (by decide +kernel)
  refine ⟨⟨.integer _, hzero, ((hoperand _ _ _ (.integer _)).1 zero).2 hzero⟩,
    ⟨.integer _, hunder, by decide +kernel,
      (hoperand _ _ _ (.integer _)).2 _ hunder (by decide +kernel)⟩,
    ⟨.integer _, by decide +kernel, hover, hsmall,
      (hoperand _ _ _ (.integer _)).2 _ hover hsmall⟩,
    ⟨rfl, (hmirror .sub .subFrom rfl).2 ten⟩, ?_, by decide +kernel, ?_⟩
  · decide +kernel
  · intro h
    exact hstays ((hchain outside u).1 h).2.1

end PegPool.Wide
