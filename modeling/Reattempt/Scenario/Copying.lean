import Reattempt.Scenario.Step

/-!
# Copies of the failure that ends an execution

Such a failure is made from values, then taken apart and made again, and copied. Taking apart
makes everything in it again, so labels are lost; a copy shares its parts.
-/

namespace Reattempt

structure Copying where
  kind : Kind
  message : ValuePlan
  cause : ValuePlan
  history : Option ValuePlan
  operation : Option ValuePlan

mutual

/-- Whether a value holds a response, which cannot be made again from a message. -/
def Value.holdsResponse : Value → Bool
  | .list items | .tuple items | .set items => anyHoldsResponse items
  | .dict entries => anyEntryHoldsResponse entries
  | .failure f => f.holdsResponse
  | _ => false

/-- Whether a failure holds a response. Of the failures that it follows from, only a recorded
cause is looked at. -/
def Failure.holdsResponse : Failure → Bool
  | ⟨_, _, args, _, detail⟩ => anyHoldsResponse args || detail.holdsResponse

def Detail.holdsResponse : Detail → Bool
  | .status _ => true
  | .exhausted message cause history operation =>
    message.holdsResponse || cause.holdsResponse || anyHoldsResponse history
      || operation.holdsResponse
  | _ => false

def anyHoldsResponse : List Value → Bool
  | [] => false
  | v :: rest => v.holdsResponse || anyHoldsResponse rest

def anyEntryHoldsResponse : List (Value × Value) → Bool
  | [] => false
  | entry :: rest => entryHoldsResponse entry || anyEntryHoldsResponse rest

def entryHoldsResponse : Value × Value → Bool
  | (key, item) => key.holdsResponse || item.holdsResponse

end

namespace Copying

def make (copying : Copying) : StageTask (Value × Value × Failure) := do
  let message ← copying.message.build
  let cause ← copying.cause.build
  let history := ((← buildOption copying.history).filter fun v => !v.isNull).getD (.list [])
  let operation := (← buildOption copying.operation).getD .null
  let id ← StageTask.fresh
  let f ← Task.ofExcept
    (Failure.exhaustedWith id copying.kind message cause history operation)
  pure (message, cause, f)

def shownCopy (value : AnswerValue) (sameCause : Bool) : AnswerValue :=
  .record [("value", value), ("type", .bool true), ("same_cause", .bool sameCause)]

def shown (copying : Copying) : StageTask AnswerValue := do
  let (message, cause, f) ← copying.make
  let catalogue ← Task.gets Stage.catalogue
  let value := f.answer catalogue
  if f.holdsResponse then Task.fault .responseRequired
  pure (.list [
    .record [("value", value), ("message_attr", message.answer catalogue),
      ("type_of_history", .text (Value.tuple []).className)],
    shownCopy (f.answer { catalogue with label := fun _ => none }) cause.isNull,
    shownCopy value true])

end Copying

end Reattempt
