import PegPool.Event

/-!
# Answers with events

An operation answers a value and reports events on the way. Running one
operation after another joins their reports; what is answered never depends
on what was reported.
-/

namespace PegPool

/-- A value and the events reported while it was found, the oldest first. -/
structure Logged (α : Type) where
  value : α
  events : List Event
  deriving Repr

namespace Logged

instance : Monad Logged where
  pure value := ⟨value, []⟩
  bind first next :=
    let second := next first.value
    ⟨second.value, first.events ++ second.events⟩

/-- Reports are joined in order, whichever operations are taken together. -/
instance : LawfulMonad Logged :=
  LawfulMonad.mk' Logged
    (fun answer => congrArg (mk answer.value) (List.append_nil answer.events))
    (fun _ _ => rfl)
    (fun first _ _ => congrArg (mk _) (List.append_assoc first.events _ _))

@[simp] theorem value_pure {α : Type} (x : α) : (pure x : Logged α).value = x := rfl

@[simp] theorem events_pure {α : Type} (x : α) : (pure x : Logged α).events = [] := rfl

@[simp] theorem value_bind {α β : Type} (first : Logged α) (next : α → Logged β) :
    (first >>= next).value = (next first.value).value := rfl

@[simp] theorem events_bind {α β : Type} (first : Logged α) (next : α → Logged β) :
    (first >>= next).events = first.events ++ (next first.value).events := rfl

@[simp] theorem value_map {α β : Type} (f : α → β) (answer : Logged α) :
    (f <$> answer).value = f answer.value := rfl

/-- Reports one event. -/
def report (event : Event) : Logged Unit := ⟨(), [event]⟩

@[simp] theorem events_report (event : Event) : (report event).events = [event] := rfl

/-- Reports one event if a condition holds. -/
def reportIf (condition : Bool) (event : Event) : Logged Unit :=
  if condition then report event else pure ()

/-- Continues with the value of an answer, if it has one. -/
def andThen {α β : Type} (first : Logged (Option α)) (next : α → Logged (Option β)) :
    Logged (Option β) := do
  match ← first with
  | none => pure none
  | some x => next x

@[simp] theorem value_andThen {α β : Type} (first : Logged (Option α))
    (next : α → Logged (Option β)) :
    (first.andThen next).value = first.value.bind fun x => (next x).value := by
  unfold andThen
  simp only [value_bind]
  cases first.value <;> rfl

/-- The answer of a formula: its value, or none when its arithmetic fails,
which is reported. -/
def ofFormula {α : Type} (formula : Formula) (result : Except WideError (Option α)) :
    Logged (Option α) :=
  match result with
  | .ok answer => pure answer
  | .error cause => ⟨none, [.formulaFailed formula cause]⟩

@[simp] theorem value_ofFormula {α : Type} (formula : Formula)
    (result : Except WideError (Option α)) :
    (ofFormula formula result).value = result.toOption.join := by
  cases result <;> rfl

end Logged

end PegPool
