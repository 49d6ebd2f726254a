import Reattempt.Scenario.Step

/-!
# Hook calls

The hooks of a listener are called without an execution. A composite at the top can be given
more members between two occasions.
-/

namespace Reattempt

inductive HookStep where
  | add (listener : ListenerPlan)
  | size
  | tell (hook : String) (payload : List ValuePlan)

/-- Calls of hooks: the listener, the policy and the operation it is told about, and the steps. -/
structure HookCalls where
  listener : ListenerPlan
  policy : PolicyPlan
  operation : String
  steps : List HookStep
  logLevel : Int

def Observer.className : Observer → String
  | absent => Value.null.className
  | silent => "RetryListener"
  | logging .. => "LoggingRetryListener"
  | recording .. => "RecordingListener"

namespace HookCalls

def makeListener : ListenerPlan → StageTask (Listener Observer)
  | .composite members isRoot => do
    return .growing (← enrolComposite (← buildMembers members) isRoot)
  | plan => do return memberOf (← plan.build)

def className : Listener Observer → String
  | .leaf observer => observer.className
  | _ => "CompositeRetryListener"

def missing (listener : Listener Observer) (name : String) : Fault :=
  .missingAttribute ("'" ++ className listener ++ "' object") name

/-- The name of a hook with the class that has it; a listener that overrides only some hooks has
the others from the silent one. -/
def hookName (listener : Listener Observer) (hook : Hook) : String :=
  (match listener with
   | .leaf (.recording _ _ hooks _) =>
     if hooks.contains hook then className listener else Observer.silent.className
   | _ => className listener) ++ "." ++ hook.name

def payloadOf (listener : Listener Observer) (hook : Hook) (values : List Value) :
    Except Fault (Option Value) :=
  match hook.payloadName?, values with
  | none, [] => .ok none
  | some _, [v] => .ok (some v)
  | some name, [] => .error (.missingArguments (hookName listener hook) 1 ("'" ++ name ++ "'"))
  | name, _ =>
    .error (.extraArguments (hookName listener hook) (if name.isSome then 4 else 3)
      (values.length + 3))

def tell (listener : Listener Observer) (policy : Policy) (operation : Operation Stage)
    (hook : Hook) (values : List Value) : StageTask Unit := do
  let payload ← Task.ofExcept (payloadOf listener hook values)
  listener.dispatch (StageTask.notifyThrough hook (some policy) operation payload)
    (Stage.template .direct).members stagePatience stagePatience

def perform (listener : Listener Observer) (policy : Policy) (operation : Operation Stage) :
    HookStep → StageTask AnswerValue
  | .add plan => do
    let member := memberOf (← plan.build)
    match listener with
    | .growing id => StageTask.addTo id member
    | _ => Task.fault (missing listener "add")
    pure .null
  | .size => do
    match listener with
    | .growing id =>
      let members ← Task.gets fun stage => (stage.rolls.lookup id).getD []
      pure (.int members.length)
    | _ => Task.fault (missing listener "listeners")
  | .tell name payload => do
    match listener, Hook.named? name with
    | .leaf .absent, _ | _, none => Task.fault (missing listener name)
    | _, some hook => tell listener policy operation hook (← buildValues payload)
    pure .null

def playSteps (listener : Listener Observer) (policy : Policy) (operation : Operation Stage) :
    List HookStep → Stage → List AnswerValue
  | [], _ => []
  | step :: rest, stage =>
    match stage.step (perform listener policy operation step) with
    | (shown, after) => .record shown :: playSteps listener policy operation rest after

def play (calls : HookCalls) : AnswerValue :=
  let setUp : StageTask (Listener Observer × Policy × Operation Stage) := do
    let listener ← makeListener calls.listener
    let policy ← calls.policy.build
    let id ← StageTask.enrol calls.operation
    pure (listener, policy.getD .default, ⟨Stage.nameOf id, .operation id, pure (.ready .null)⟩)
  match setUp (Stage.empty .direct calls.logLevel [] none) with
  | (.ok (listener, policy, operation), after) =>
    .record [("steps", .list (playSteps listener policy operation calls.steps after))]
  | (.error e, after) => .record (after.shown (.error e) ++ after.trace)

end HookCalls

end Reattempt
