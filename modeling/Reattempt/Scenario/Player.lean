import Reattempt.Scenario.Build

/-!
# Playing a scenario

How tests answer, how observers record and react, how actions change the stage, and how operations
run on the template in use. An operation is made with all failures that it will raise; an inner
operation is made anew each time it is reached.
-/

namespace Reattempt

/-! ### Tests -/

def Failure.errorNumber (f : Failure) : Except Fault Value :=
  if f.kind.isA Kind.osError then .ok (f.number?.getD .null)
  else .error (.missingAttribute (Value.failure f).owner "errno")

namespace StageTask

def answer (id : Nat) (test : Test) (f : Failure) : StageTask Value :=
  match test with
  | .always v => pure v
  | .hasText expected => pure (.bool ((Value.text f.message).equals expected))
  | .isOf wanted => Value.bool <$> Task.ofExcept (f.isInstance wanted)
  | .hasNumber expected => do
    let number ← Task.ofExcept f.errorNumber
    pure (.bool (number.equals expected))
  | .firstTimes count => do
    let asked ← tally id none
    Value.bool <$> Task.ofExcept ((Value.int asked).compareBy .atMost count)
  | .raises g => Task.raise g
  | .transient statuses =>
    Value.bool <$> Task.ofExcept (f.isTransient (statuses.getD defaultStatusesValue))
  | .transientSilently statuses =>
    Value.bool <$> Task.ofExcept (f.isTransient (.tuple statuses))

/-- Ask a test. All but those of policies for requests are seen. -/
def ask (p : Predicate) (f : Failure) : StageTask Value := do
  match p.test with
  | .transientSilently _ => pure ()
  | test => record (.test test.word f.kind.name)
  answer p.id p.test f

/-! ### Waits -/

/-- Let a wait be seen; it is cut short if that was planned. -/
def suspend (event : AnswerValue → Event) (seconds : Value) : StageTask Unit := do
  let shown ← answerValue seconds
  record (event shown)
  Task.modify fun stage => { stage with suspensions := stage.suspensions + 1 }
  let count ← Task.gets Stage.suspensions
  match ← Task.gets Stage.interruption with
  | some (wanted, plan) => if wanted = count then Task.raise (← plan.build) else pure ()
  | none => pure ()

def wait (seconds : Value) : StageTask Unit := do
  if (← Task.gets Stage.active).isCustomSleep then suspend .customSleep seconds
  else pause tell (suspend .sleep) seconds

/-! ### Actions -/

def changeActive (change : ActiveTemplate → ActiveTemplate) : StageTask Unit :=
  Task.modify fun stage => { stage with active := change stage.active }

def addTo (id : Nat) (listener : Listener Observer) : StageTask Unit :=
  Task.modify fun stage =>
    let members := (stage.rolls.lookup id).getD []
    { stage with rolls := Stage.insertAt id (members ++ [listener]) stage.rolls }

def addToRoot (listener : Listener Observer) : StageTask Unit := do
  match ← Task.gets Stage.root with
  | some id => addTo id listener
  | none => pure ()

def act : ActionPlan → StageTask Unit
  | .setPolicy plan => do
    let policy ← plan.build
    changeActive fun active => { active with policy }
  | .setListener plan => do
    let listener ← plan.build
    changeActive fun active => { active with listener }
  | .setSleep isCustom => changeActive fun active => { active with isCustomSleep := isCustom }
  | .addListener plan => do addToRoot (memberOf (← plan.build))
  | .rename name => do
    match ← Task.gets Stage.lastInvoked with
    | some id => changeOperation id fun enrolment => { enrolment with name }
    | none => pure ()
  | .raise plan => do Task.raise (← plan.build)

def actAll : List ActionPlan → StageTask Unit
  | [] => pure ()
  | action :: rest => do
    act action
    actAll rest

/-! ### Observers -/

def reactionsFor (hook : Hook) (count : Nat) (reactions : List ReactionPlan) : List ActionPlan :=
  reactions.flatMap fun
    | .make told wanted actions =>
      if told = hook && (wanted.isNone || wanted == some (count : Int)) then actions else []

def notifyThrough (hook : Hook) (policy : Option Policy) (operation : Operation Stage)
    (payload : Option Value) : Observer → StageTask Unit
  | .absent => Task.fault (.missingAttribute Value.null.owner hook.name)
  | .silent => pure ()
  | .logging logger level => do
    let name ← Task.gets operation.name
    tell (← Task.ofExcept
      (LoggingListener.notice logger level name hook (payload.getD .null)))
  | .recording id name hooks reactions =>
    if hooks.contains hook then do
      let shown ← answerValue name
      let operationName ← Task.gets operation.name
      let shownPayload ←
        match payload with
        | some v => some <$> answerValue v
        | none => pure none
      record (.told shown hook operationName
        (match policy with
         | some p => .int p.maxAttempts
         | none => .null)
        shownPayload)
      let count ← tally id (some hook)
      actAll (reactionsFor hook count reactions)
    else pure ()

def notify (policy : Option Policy) (operation : Operation Stage) (occasion : Occasion) :
    Observer → StageTask Unit :=
  notifyThrough occasion.hook policy operation occasion.payload?

end StageTask

/-! ### The template in use -/

/-- Attempts and late members after which a scenario is cut off. -/
def stagePatience : Nat := 100000

def Stage.template (flavour : Flavour) : Template Stage Observer where
  flavour
  policy stage := stage.active.policy
  listener stage := stage.active.listener
  examination := ⟨StageTask.ask, StageTask.tell⟩
  chance := ⟨StageTask.uniform, StageTask.tell⟩
  wait := StageTask.wait
  notify := StageTask.notify
  members id stage := (stage.rolls.lookup id).getD []
  patience := stagePatience

/-! ### Operations -/

structure Prepared where
  id : Nat
  form : OperationForm
  isPlain : Bool
  outcomes : List (StageTask (Reply Stage))

namespace Prepared

/-- Invoke an operation: count it, let the invocation be seen, and do what the outcome says. -/
def body (prepared : Prepared) (arguments : Option (AnswerValue × AnswerValue)) :
    StageTask (Reply Stage) := do
  StageTask.changeOperation prepared.id fun enrolment =>
    { enrolment with calls := enrolment.calls + 1 }
  Task.modify fun stage => { stage with lastInvoked := some prepared.id }
  let stage ← Task.read
  let count := stage.callsOf prepared.id
  StageTask.record (.call (stage.nameOf prepared.id) count arguments)
  match prepared.outcomes[min count prepared.outcomes.length - 1]? with
  | some outcome => outcome
  | none => pure (.ready .null)

/-- A reply as a value; one that is still to be waited for is a thing. -/
def settled (reply : Reply Stage) : Value :=
  match reply with
  | .ready v => v
  | .pending _ => .thing "Awaitable" "<Awaitable>"

/-- The reply of an invocation: at once, or later when the template waits for replies and the
operation does not answer at once. -/
def reply (prepared : Prepared) (flavour : Flavour) (arguments : Option (AnswerValue × AnswerValue)) :
    StageTask (Reply Stage) :=
  if flavour = .awaited && !prepared.isPlain then
    pure (.pending (settled <$> prepared.body arguments))
  else prepared.body arguments

def candidate (prepared : Prepared) (flavour : Flavour)
    (arguments : Option (AnswerValue × AnswerValue)) : StageTask (Candidate Stage) := do
  let invoke := prepared.reply flavour arguments
  let self := Value.operation prepared.id
  match prepared.form with
  | .named => pure (Operation.candidate ⟨Stage.nameOf prepared.id, self, invoke⟩ "Operation")
  | .function =>
    let name ← Task.gets (Stage.nameOf prepared.id)
    pure ⟨self, none, none, some invoke, some name, "function", "<function>"⟩
  | .bound => pure ⟨self, none, none, some invoke, none, "partial", "<partial>"⟩

end Prepared

namespace StageTask

def operationOf (name : Option String) (candidate : Candidate Stage) :
    StageTask (Operation Stage) := do
  let id ← fresh
  let operation ← Task.ofExcept (candidate.taken (.operation id) name (← Task.read))
  let shown ← Task.gets operation.name
  Task.modify fun stage => { stage with operations := (id, ⟨shown, 0⟩) :: stage.operations }
  pure operation

def executeOn (flavour : Flavour) (method : Method) (candidate : Candidate Stage) :
    StageTask Value := do
  let operation ← operationOf none candidate
  match method with
  | .execute => (Stage.template flavour).execute operation
  | .invoke => (Stage.template flavour).invoke operation

end StageTask

def Prepared.play (prepared : Prepared) (flavour : Flavour) (method : Method)
    (arguments : Option (AnswerValue × AnswerValue)) : StageTask Value := do
  StageTask.executeOn flavour method (← prepared.candidate flavour arguments)

namespace StageTask

def setUp (flavour : Flavour) (policy : PolicyPlan) (listener : ListenerPlan)
    (isCustomSleep : Bool) : StageTask Unit := do
  let policy ← policy.build
  let listener ← listener.build
  changeActive fun _ =>
    ⟨flavour, some (policy.getD .default), some (listener.getD .silent), isCustomSleep⟩

/-- Do something on a template of its own, then go back to the one that was in use. -/
def onOwnTemplate {α : Type} (policy : PolicyPlan) (listener : ListenerPlan)
    (t : StageTask α) : StageTask α := do
  let active ← Task.gets Stage.active
  (do
    setUp .direct policy listener false
    t).andFinally (changeActive fun _ => active)

end StageTask

mutual

def OperationPlan.prepare : OperationPlan → StageTask Prepared
  | .make name form isPlain outcomes => do
    let outcomes ← prepareOutcomes outcomes
    let id ← StageTask.enrol name
    pure ⟨id, form, isPlain, outcomes⟩

def prepareOutcomes : List OutcomePlan → StageTask (List (StageTask (Reply Stage)))
  | [] => pure []
  | plan :: rest => do
    let outcome ← plan.prepare
    return outcome :: (← prepareOutcomes rest)

def OutcomePlan.prepare : OutcomePlan → StageTask (StageTask (Reply Stage))
  | .make actions result => do
    let ending ← result.prepare
    pure do
      StageTask.actAll actions
      ending

def ResultPlan.prepare : ResultPlan → StageTask (StageTask (Reply Stage))
  | .returned plan => pure (Reply.ready <$> plan.build)
  | .raised plan => do
    let f ← plan.build
    pure (Task.raise f)
  | .awaitable plan => pure do
    let v ← plan.build
    pure (.pending (pure v))
  | .nested policy listener method operation => pure do
    let result ← StageTask.onOwnTemplate policy listener do
      let prepared ← operation.prepare
      prepared.play .direct method none
    pure (.ready result)
  | .reentered method operation => pure do
    let prepared ← operation.prepare
    let flavour := (← Task.gets Stage.active).flavour
    let result ← prepared.play flavour method none
    pure (.ready result)

end

end Reattempt
