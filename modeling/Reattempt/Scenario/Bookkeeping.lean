import Reattempt.Record.Structured
import Reattempt.Scenario.Step

/-!
# Records and correlation ids in scenarios

Records are made from parts and written in the context of the stage. Steps about correlation ids
change that context, in scopes, in copies of it and in contexts of their own.
-/

namespace Reattempt

inductive TroublePlan where
  | none
  | failure (plan : FailurePlan)
  /-- It is told that something went wrong, without a failure. -/
  | unknown

structure RecordPlan where
  logger : ValuePlan
  level : ValuePlan
  path : ValuePlan
  line : ValuePlan
  function : ValuePlan
  message : ValuePlan
  arguments : List ValuePlan
  created : ValuePlan
  milliseconds : ValuePlan
  trouble : TroublePlan
  extras : List (String × ValuePlan)

namespace RecordPlan

def default : RecordPlan where
  logger := .plain (.text "aretry")
  level := .plain (.int 20)
  path := .plain (.text "/a/mod.py")
  line := .plain (.int 1)
  function := .plain .null
  message := .plain (.text "m")
  arguments := []
  created := .plain (.float 0.0)
  milliseconds := .plain (.float 0.0)
  trouble := .none
  extras := []

def buildTrouble : TroublePlan → StageTask Value
  | .none => pure .null
  | .failure plan => do
    let f ← plan.build
    pure (.tuple [.kind f.kind, .failure f, .null])
  | .unknown => pure (.tuple [.null, .null, .null])

def build (plan : RecordPlan) : StageTask Record := do
  let logger ← plan.logger.build
  let level ← plan.level.build
  let path ← plan.path.build
  let line ← plan.line.build
  let message ← plan.message.build
  let arguments ← buildValues plan.arguments
  let trouble ← buildTrouble plan.trouble
  let function ← plan.function.build
  let levelName ← Task.ofExcept (Record.nameOfLevel level)
  let record : Record :=
    { logger, levelName, message
      arguments := Record.argumentsOf arguments
      moduleName := Record.moduleOf path
      function, line
      created := ← plan.created.build
      milliseconds := ← plan.milliseconds.build
      trouble
      extras := [] }
  return record.attachAll (← buildNamed plan.extras)

def write (plan : RecordPlan) : StageTask AnswerValue := do
  let record ← plan.build
  let id ← Stage.correlation.get
  AnswerValue.text <$> Task.ofExcept (record.write id)

end RecordPlan

structure MessagePlan where
  logger : String
  threshold : Int
  level : ValuePlan
  message : ValuePlan
  extra : List (String × ValuePlan)

/-- Tell a message and show the lines that are written. A field that is given twice keeps its place
and has the later value. -/
def MessagePlan.tell (plan : MessagePlan) : StageTask AnswerValue := do
  let level ← plan.level.build
  let message ← plan.message.build
  let given ← buildNamed plan.extra
  let extra := given.foldl (fun kept field => Stage.insertAt field.1 field.2 kept) []
  let id ← Stage.correlation.get
  AnswerValue.texts <$> Task.ofExcept (Record.tell plan.logger plan.threshold level message extra id)

inductive ContextStep where
  | get
  | set (id : ValuePlan)
  | clear
  | log
  | scope (id : ValuePlan) (body : List ContextStep) (raised : Option FailurePlan)
  | inCopy (body : List ContextStep)
  | inFresh (body : List ContextStep)

/-- Show how the end of a scope went, if it was not quiet. -/
def showRaised (ending : Except Escape Unit) : StageTask (List AnswerValue) := do
  match ending with
  | .ok () => pure []
  | .error (.raised f) => do return [f.answer (← Task.gets Stage.catalogue)]
  | .error e => Task.escape e

def raisePlanned : Option FailurePlan → StageTask Unit
  | some plan => do Task.raise (← plan.build)
  | none => pure ()

mutual

def ContextStep.play : ContextStep → StageTask AnswerValue
  | .get => do StageTask.answerValue (← Stage.correlation.get)
  | .set plan => do
    Stage.correlation.set (← plan.build)
    pure .null
  | .clear => do
    Stage.correlation.clear
    pure .null
  | .log => RecordPlan.default.write
  | .scope plan body raised => do
    let id ← plan.build
    let shown ← StageTask.answerValue id
    Stage.correlation.scope id do
      let entries ← playContext body
      let ending ← (raisePlanned raised).ending
      pure (.list (shown :: entries ++ (← showRaised ending)))
  | .inCopy body => AnswerValue.list <$> Stage.correlation.inCopy (playContext body)
  | .inFresh body => AnswerValue.list <$> Stage.correlation.inFresh (playContext body)

def playContext : List ContextStep → StageTask (List AnswerValue)
  | [] => pure []
  | step :: rest => do
    let entry ← step.play
    return entry :: (← playContext rest)

end

def StageTask.under (id : ValuePlan) (t : StageTask AnswerValue) : StageTask AnswerValue := do
  Stage.correlation.set (← id.build)
  t

end Reattempt
