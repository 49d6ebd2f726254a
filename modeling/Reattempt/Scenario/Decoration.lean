import Reattempt.Execution.Decorated
import Reattempt.Scenario.Step

/-!
# Calls of a decorated function

A function is decorated once and called several times. The first answer shows the decorated
function, each further one a call.
-/

namespace Reattempt

structure CallPlan where
  positional : List ValuePlan
  named : List (String × ValuePlan)

structure DecorationPlan where
  flavour : Flavour
  function : OperationPlan
  policy : PolicyPlan
  listener : ListenerPlan
  name : Option String
  calls : List CallPlan
  logLevel : Int
  draws : List ValuePlan
  interruption : Option (Int × FailurePlan)

namespace CallPlan

def insertByName (entry : String × ValuePlan) :
    List (String × ValuePlan) → List (String × ValuePlan)
  | [] => [entry]
  | first :: rest =>
    if entry.1 < first.1 then entry :: first :: rest else first :: insertByName entry rest

/-- Arguments as a call shows them, the named ones in alphabetical order. A call without arguments
shows none. -/
def answers (plan : CallPlan) : StageTask (Option (AnswerValue × AnswerValue)) := do
  if plan.positional.isEmpty && plan.named.isEmpty then return none
  let positional ← buildValues plan.positional
  let named ← buildNamed (plan.named.foldr insertByName [])
  let shown ← StageTask.answerValue (.list positional)
  let fields ← StageTask.answerValue (.dict (named.map fun (name, v) => (.text name, v)))
  pure (some (shown, fields))

end CallPlan

abbrev ShownArguments := Option (AnswerValue × AnswerValue)

def Prepared.callee (prepared : Prepared) (name : String) (flavour : Flavour) :
    Callee Stage ShownArguments where
  qualifiedName? := if prepared.form = .bound then none else some name
  owner := "'functools.partial' object"
  isAwaited := flavour = .awaited && !prepared.isPlain
  call := prepared.reply flavour

namespace DecorationPlan

abbrev Outcome := Decorated Stage Observer ShownArguments

/-- What the decorator is called with. One that is told nothing is not called without arguments
first, but with the function. -/
def subject (callee : Callee Stage ShownArguments) :
    Decoration Observer → Decorated.Subject Stage ShownArguments
  | ⟨some p, _, _⟩ => .policy p
  | ⟨none, none, none⟩ => .function callee
  | _ => .absent

def make (plan : DecorationPlan) : StageTask Outcome := do
  let draws ← buildValues plan.draws
  Task.modify fun stage => { stage with draws }
  let policy ← plan.policy.build
  let listener ← plan.listener.build
  let prepared ← plan.function.prepare
  let name ← Task.gets (Stage.nameOf prepared.id)
  let callee := prepared.callee name plan.flavour
  let applied := Decorated.apply (Stage.template plan.flavour) listener plan.name
    (subject callee ⟨policy, listener, plan.name⟩)
  Task.ofExcept (applied.finish callee)

def shown (decorated : Outcome) : AnswerValue :=
  .list [.text (Decorated.lastPart decorated.qualifiedName), .text decorated.qualifiedName,
    .text decorated.policy.quote, .bool decorated.callee.isAwaited]

def call (decorated : Outcome) (plan : CallPlan) : StageTask Value := do
  let arguments ← plan.answers
  let id ← StageTask.enrol decorated.name
  decorated.call (.operation id) arguments

def playCalls (decorated : Outcome) : List CallPlan → Stage → List AnswerValue
  | [], _ => []
  | plan :: rest, stage =>
    match stage.step (StageTask.shown (call decorated plan)) with
    | (shown, after) => .record shown :: playCalls decorated rest after

def play (plan : DecorationPlan) : AnswerValue :=
  let steps : List AnswerValue :=
    match plan.make (Stage.empty plan.flavour plan.logLevel [] plan.interruption) with
    | (.ok decorated, after) =>
      .record (("r", shown decorated) :: after.trace)
        :: playCalls decorated plan.calls { after with journal := [] }
    | (.error e, after) => [.record (after.shown (.error e) ++ after.trace)]
  .record [("steps", .list steps)]

end DecorationPlan

end Reattempt
