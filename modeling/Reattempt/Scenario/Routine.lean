import Reattempt.Scenario.ScriptObject
import Reattempt.Scenario.Player

/-!
# Routines

What can be asked of an object by name: a strategy for delays, a cursor for the next one, a
classifier or a policy for its judgement, a builder for its settings. A routine is called with
values by position or by name, gives a result, and may change the object.
-/

namespace Reattempt

inductive Routine where
  | calculate
  | start
  | fibonacci
  | nextDelay
  | accepts
  | combine
  | shouldRetry
  | startBackoff
  | merge
  | newBuilder
  | defaults
  | withMaxAttempts
  | setting (name : String)
  | build

inductive Receiver where
  | object
  | cls
  | nothing

namespace Receiver

def names : Receiver → List String
  | object => Arguments.receiver
  | cls => ["cls"]
  | nothing => []

end Receiver

structure FoundRoutine where
  routine : Routine
  name : String
  receiver : Receiver

/-- An object as a routine leaves it. -/
structure Turn where
  result : ScriptObject
  object : ScriptObject
  /-- The result is the object itself. -/
  isObject : Bool

namespace ScriptObject

/-! ### Finding routines -/

def routine (cls name : String) (routine : Routine) : String × FoundRoutine :=
  (name, ⟨routine, cls ++ "." ++ name, .object⟩)

def delayClass : Shape → String
  | .fixed delay | .constant delay => (Shape.constant delay).className
  | shape => shape.className

def settingNames : List String :=
  ["max_attempts", "delay", "multiplier", "max_delay", "jitter", "backoff", "includes", "excludes",
    "predicate"]

def routines : ScriptObject → List (String × FoundRoutine)
  | value (.strategy s) =>
    [routine (delayClass s.shape) "calculate" .calculate,
      routine "BaseBackoffStrategy" "start" .start]
      ++ (match s.shape with
          | .fibonacci .. =>
            [("_fibonacci", ⟨.fibonacci, "FibonacciBackoff._fibonacci", .nothing⟩)]
          | _ => [])
  | value (.classifier _) =>
    [routine "ExceptionClassifier" "matches" .accepts,
      routine "ExceptionClassifier" "combine" .combine]
  | value _ => []
  | policy _ =>
    [routine "RetryPolicy" "should_retry" .shouldRetry,
      routine "RetryPolicy" "start_backoff" .startBackoff, routine "RetryPolicy" "merge" .merge,
      ("builder", ⟨.newBuilder, "RetryPolicy.builder", .nothing⟩),
      ("with_defaults", ⟨.defaults, "RetryPolicy.with_defaults", .cls⟩),
      ("with_max_attempts", ⟨.withMaxAttempts, "RetryPolicy.with_max_attempts", .cls⟩)]
  | builder .. =>
    routine "RetryPolicyBuilder" "build" .build
      :: settingNames.map fun name => routine "RetryPolicyBuilder" name (.setting name)
  | cursor .. => [routine "BackoffExecution" "next_delay" .nextDelay]

def routineText (object : ScriptObject) (found : FoundRoutine) : String :=
  match found.receiver with
  | .object => "<bound method " ++ found.name ++ " of " ++ object.quote ++ ">"
  | .cls => "<bound method " ++ found.name ++ " of <class 'aretry.policy.RetryPolicy'>>"
  | .nothing => "<function " ++ found.name ++ ">"

/-- Read an attribute: one that is computed, one that is kept, or a routine. -/
def get (object : ScriptObject) (name : String) : StageTask ScriptObject := do
  match object, name with
  | policy p, "backoff_strategy" =>
    let id ← StageTask.fresh
    return value (← Task.ofExcept (p.strategy id))
  | value (.strategy ⟨_, _, .fixed delay, _⟩), "interval" => return value delay
  | _, _ =>
    match object.attributes.lookup name, object.routines.lookup name with
    | some part, _ => return part
    | none, some found => return value (.thing "method" (object.routineText found))
    | none, none => Task.fault (object.missing name)

/-! ### Calling routines -/

/-- The delay of a strategy, with the chance of the stage. A strategy may have had its way to
compute delays replaced. -/
def delayOf (s : Strategy) (attempt : Value) : StageTask Value :=
  match s.extras.lookup "calculate" with
  | some v => Task.fault (.cannotCall v.typeName)
  | none => s.calculate ⟨StageTask.uniform, StageTask.tell⟩ attempt

def nextDelay : ScriptObject → StageTask (Value × ScriptObject)
  | cursor strategy limit attempts extras =>
    match (cursor strategy limit attempts extras).cursor? with
    | some c => do
      let (delay, c) ← c.next delayOf
      pure (delay, cursor (value (.strategy c.strategy)) c.limit (.int c.attempts) extras)
    | none => do
      if ← Task.ofExcept (isSpentAt limit attempts) then
        pure (.null, cursor strategy limit attempts extras)
      else
        let delay ←
          match strategy with
          | value (.strategy s) => delayOf s attempts
          | object => Task.fault (object.missing "calculate")
        let attempts ← Task.ofExcept (attempts.plus (.int 1))
        pure (delay, cursor strategy limit attempts extras)
  | object => Task.fault (object.missing "next_delay")

/-- What a classifier looks at: a failure, or something else as one of a kind of its own. -/
def asFailure : Value → Failure
  | .failure f => f
  | v => .plain 0 ⟨v.className, "", []⟩ [v]

def examination : Examination Stage := ⟨StageTask.ask, StageTask.tell⟩

def combined (c : Classifier) : ScriptObject → Except Fault Classifier
  | value (.classifier d) => .ok (c.combine d)
  | object =>
    match object.routines.lookup "includes" with
    | some _ => .error (.notSpreadable "method")
    | none => .error (object.missing "includes")

def run (object : ScriptObject) (found : FoundRoutine) (values : List Value) (named : Arguments) :
    StageTask Turn := do
  let bind (needed optional : List String) : StageTask Arguments :=
    Task.ofExcept (Arguments.bind found.name found.receiver.names needed optional values named)
  let one (name : String) : StageTask Value := do return (← bind [name] []).get name .null
  let nothing : StageTask Unit := do let _ ← bind [] []
  let gives (result : ScriptObject) : StageTask Turn := pure ⟨result, object, false⟩
  match found.routine, object with
  | .calculate, value (.strategy s) => gives (value (← delayOf s (← one "attempt")))
  | .start, value (.strategy s) =>
    let arguments ← bind [] ["max_attempts"]
    gives (ofCursor (s.start (arguments.get "max_attempts" .null)))
  | .fibonacci, _ => gives (value (← Task.ofExcept (fibonacciAt (← one "n"))))
  | .nextDelay, _ =>
    nothing
    let (delay, after) ← nextDelay object
    pure ⟨value delay, after, false⟩
  | .accepts, value (.classifier c) =>
    gives (value (.bool (← c.accepts examination (asFailure (← one "exc")))))
  | .combine, value (.classifier c) =>
    gives (value (.classifier (← Task.ofExcept (combined c (value (← one "other"))))))
  | .shouldRetry, policy p =>
    gives (value (.bool (← p.accepts examination (asFailure (← one "exc")))))
  | .startBackoff, policy p =>
    nothing
    gives (ofCursor (← Task.ofExcept p.start))
  | .merge, policy p =>
    let _ ← Task.ofExcept (Arguments.bind found.name found.receiver.names [] [] values
      (named.filter fun argument => found.receiver.names.contains argument.1))
    let setting ← StageTask.fresh
    gives (policy (← Task.ofExcept (p.merge setting named)))
  | .newBuilder, _ =>
    nothing
    gives (builder .empty [])
  | .defaults, _ =>
    nothing
    gives (policy .default)
  | .withMaxAttempts, _ =>
    let v ← one "max_attempts"
    gives (policy (← Task.ofExcept (Policy.ofArguments 0 [("max_attempts", v)])))
  | .setting name, builder b extras =>
    let setting ← StageTask.fresh
    let after ← Task.ofExcept do b.apply setting (← PolicyBuilder.Setting.ofCall name values)
    pure ⟨builder after extras, builder after extras, true⟩
  | .build, builder b _ =>
    nothing
    let id ← StageTask.fresh
    gives (policy (← Task.ofExcept (b.build id)))
  | _, _ => Task.fault (object.missing found.name)

/-- Call what an object has under a name. An attribute that is kept hides a routine. -/
def call (object : ScriptObject) (name : String) (values : List Value) (named : Arguments) :
    StageTask Turn :=
  match object.attributes.lookup name, object.routines.lookup name with
  | some part, _ => Task.fault (.cannotCall part.typeName)
  | none, some found => object.run found values named
  | none, none => Task.fault (object.missing name)

end ScriptObject

end Reattempt
