import Reattempt.Scenario.Player

/-!
# Steps

A step plays a task and shows how it ended, with everything that was seen meanwhile.
-/

namespace Reattempt

namespace Stage

def shown (stage : Stage) : Except Escape AnswerValue → List (String × AnswerValue)
  | .ok result => [("r", result)]
  | .error (.raised f) => f.answerFields stage.catalogue
  | .error .unfinished => [("unfinished", .bool true)]

/-- The field that shows what was seen, unless that is nothing. -/
def trace (stage : Stage) : List (String × AnswerValue) :=
  if stage.journal.isEmpty then []
  else [("trace", .list (stage.journal.reverse.map Event.answer))]

def step (t : StageTask AnswerValue) (stage : Stage) : List (String × AnswerValue) × Stage :=
  match t { stage with journal := [] } with
  | (outcome, after) => (after.shown outcome ++ after.trace, after)

end Stage

namespace StageTask

def shown (t : StageTask Value) : StageTask AnswerValue := do
  answerValue (← t)

def onStage (t : StageTask AnswerValue) (stage : Stage) : AnswerValue :=
  .record (stage.step t).1

def alone (t : StageTask AnswerValue) : AnswerValue :=
  t.onStage (Stage.empty .direct Notice.debugLevel [] none)

end StageTask

end Reattempt
