import Reattempt.Scenario.Step

/-!
# Sessions

A session executes operations one after the other on one template. Between them the template may
be changed, and operations that were executed before can be executed again.
-/

namespace Reattempt

inductive SessionStep where
  | act (action : ActionPlan)
  | operate (plan : OperationPlan) (label : Option String) (method : Method)
  | again (label : String) (method : Method)

structure Session where
  flavour : Flavour
  policy : PolicyPlan
  listener : ListenerPlan
  isCustomSleep : Bool
  steps : List SessionStep
  logLevel : Int
  draws : List ValuePlan
  interruption : Option (Int × FailurePlan)

namespace Session

def operate (flavour : Flavour) (prepared : Prepared) (method : Method) (stage : Stage) :
    AnswerValue × Stage :=
  match stage.step (StageTask.shown (prepared.play flavour method none)) with
  | (shown, after) =>
    (.record (shown ++ [("count", .int (after.callsOf prepared.id))]), after)

def playSteps (flavour : Flavour) :
    List SessionStep → List (String × Prepared) → Stage → List AnswerValue
  | [], _, _ => []
  | .act action :: rest, known, stage =>
    match stage.step (do StageTask.act action; pure .null) with
    | (shown, after) => .record shown :: playSteps flavour rest known after
  | .operate plan label method :: rest, known, stage =>
    match plan.prepare stage with
    | (.ok prepared, after) =>
      match operate flavour prepared method after with
      | (shown, last) =>
        let known :=
          match label with
          | some name => Stage.insertAt name prepared known
          | none => known
        shown :: playSteps flavour rest known last
    | (.error e, after) =>
      .record (after.shown (.error e)) :: playSteps flavour rest known after
  | .again label method :: rest, known, stage =>
    match known.lookup label with
    | some prepared =>
      match operate flavour prepared method stage with
      | (shown, last) => shown :: playSteps flavour rest known last
    | none => .record [("skip", .bool true)] :: playSteps flavour rest known stage

/-- Play a session. When the template cannot be set up, that is the whole answer. -/
def play (session : Session) : AnswerValue :=
  let draws : StageTask Unit := do
    let draws ← buildValues session.draws
    Task.modify fun stage => { stage with draws }
  let stage := Stage.empty session.flavour session.logLevel [] session.interruption
  let setUp : StageTask AnswerValue := do
    draws
    StageTask.setUp session.flavour session.policy session.listener session.isCustomSleep
    pure .null
  match setUp stage with
  | (.ok _, after) => .record [("steps", .list (playSteps session.flavour session.steps [] after))]
  | (.error e, after) => .record (after.shown (.error e) ++ after.trace)

end Session

end Reattempt
