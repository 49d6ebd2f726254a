import Reattempt.Scenario.Routine
import Reattempt.Scenario.Step

/-!
# Scripts

A script makes strategies, classifiers, policies, builders and cursors, keeps them in named slots,
and asks them things. A step about a slot that does not exist is skipped.
-/

namespace Reattempt

/-- What a step of a script does; slots are given by name. -/
inductive ScriptAction where
  | makeStrategy (plan : StrategyPlan)
  | makePolicy (plan : PolicyPlan)
  | makeClassifier (plan : ClassifierPlan)
  | makeBuilder
  | call (on method : String) (args : List ValuePlan)
  | build (on : String)
  | calculate (on : String) (attempt : ValuePlan)
  | start (on : String) (args : List (String × ValuePlan))
  | makeCursor (on : String) (args : List (String × ValuePlan))
  | next (on : String) (times : Nat)
  | quote (on : String)
  | get (on name : String)
  | set (on name : String) (v : ValuePlan)
  | strategyOf (on : String)
  | merge (on : String) (args : List (String × ValuePlan))
  | replace (on : String) (args : List (String × ValuePlan))
  | equals (on other : String)
  | isSame (on other : String)
  | combine (on other : String)
  /-- Ask a classifier, by a method or by calling it, or a policy. -/
  | accepts (on method : String) (f : FailurePlan)

def ScriptAction.slots : ScriptAction → List String
  | makeStrategy _ | makePolicy _ | makeClassifier _ | makeBuilder => []
  | call on _ _ | build on | calculate on _ | start on _ | makeCursor on _ | next on _
  | quote on | get on _ | set on _ _ | strategyOf on | merge on _ | replace on _
  | accepts on _ _ => [on]
  | equals on other | isSame on other | combine on other => [on, other]

structure ScriptStep where
  action : ScriptAction
  keep : Option String

structure Slot where
  id : Nat
  object : ScriptObject

abbrev Slots := List (String × Slot)

namespace Slots

/-- Put a new object in place of the one with a number, in all slots. -/
def update (id : Nat) (object : ScriptObject) (slots : Slots) : Slots :=
  slots.map fun (name, slot) => (name, if slot.id == id then { slot with object } else slot)

def refresh (s : Strategy) (slots : Slots) : Slots :=
  slots.map fun (name, slot) => (name, { slot with object := slot.object.refresh s })

def strategies (slots : Slots) : List (String × Strategy) :=
  slots.filterMap fun (name, slot) =>
    match slot.object with
    | .value (.strategy s) => some (name, s)
    | _ => none

end Slots

/-- What an action gives: the answer, the result to keep, and the slots after it. -/
structure ScriptOutcome where
  shown : AnswerValue
  result : Slot
  slots : Slots

namespace Script

def made (slots : Slots) (object : ScriptObject) : StageTask ScriptOutcome := do
  let id ← StageTask.fresh
  let catalogue ← Task.gets Stage.catalogue
  pure ⟨object.answer catalogue, ⟨id, object⟩, slots⟩

def answered (slots : Slots) (v : Value) : StageTask ScriptOutcome := made slots (.value v)

def call (slots : Slots) (slot : Slot) (name : String) (values : List Value)
    (named : Arguments) : StageTask (Turn × Slots) := do
  let turn ← slot.object.call name values named
  pure (turn, slots.update slot.id turn.object)

def ask (slots : Slots) (slot : Slot) (name : String) (values : List Value)
    (named : Arguments) : StageTask ScriptOutcome := do
  let (turn, slots) ← call slots slot name values named
  made slots turn.result

/-- Ask a cursor for delays, one call after the other. A call that was seen to do something, or
that failed, is shown with all that was seen. -/
def nextDelays : (times : Nat) → ScriptObject → Stage → List AnswerValue × ScriptObject × Stage
  | 0, object, stage => ([], object, stage)
  | times + 1, object, stage =>
    let (shown, object, after) :=
      match object.call "next_delay" [] [] { stage with journal := [] } with
      | (.ok turn, after) =>
        let shown := turn.result.answer after.catalogue
        (if after.journal.isEmpty then shown else .record (("r", shown) :: after.trace),
          turn.object, after)
      | (.error e, after) => (.record (after.shown (.error e) ++ after.trace), object, after)
    match nextDelays times object after with
    | (others, object, last) => (shown :: others, object, last)

def next (slots : Slots) (slot : Slot) (times : Nat) : StageTask ScriptOutcome := fun stage =>
  match nextDelays times slot.object stage with
  | (shown, object, after) =>
    (do
      let attempts ← object.get "attempts"
      let catalogue ← Task.gets Stage.catalogue
      pure ⟨.list (shown ++ [attempts.answer catalogue]), ⟨0, .value .null⟩,
        slots.update slot.id object⟩ : StageTask ScriptOutcome) { after with journal := [] }

def perform (slots : Slots) (action : ScriptAction) (objects : List Slot) :
    StageTask ScriptOutcome := do
  match action, objects with
  | .makeStrategy plan, _ => answered slots (.strategy (← plan.build))
  | .makePolicy plan, _ =>
    match ← plan.build with
    | some p => made slots (.policy p)
    | none => answered slots .null
  | .makeClassifier plan, _ => answered slots (.classifier (← plan.build))
  | .makeBuilder, _ => do
    let outcome ← made slots (.builder .empty [])
    pure { outcome with shown := .null }
  | .call _ method args, slot :: _ =>
    let (turn, slots) ← call slots slot method (← buildValues args) []
    answered slots (.bool turn.isObject)
  | .build _, slot :: _ => ask slots slot "build" [] []
  | .calculate _ attempt, slot :: _ => ask slots slot "calculate" [← attempt.build] []
  | .start _ args, slot :: _ =>
    match slot.object with
    | .policy _ => ask slots slot "start_backoff" [] []
    | _ => ask slots slot "start" [] (← buildNamed args)
  | .makeCursor _ args, ⟨_, object⟩ :: _ =>
    let arguments ← buildNamed args
    Task.ofExcept (arguments.check "BackoffExecution.__init__" ["self", "strategy"] []
      ["max_attempts"])
    made slots (.cursor object (arguments.get "max_attempts" .null) (.int 0) [])
  | .next _ times, slot :: _ => next slots slot times
  | .quote _, ⟨_, object⟩ :: _ => answered slots (.text object.quote)
  | .get _ name, ⟨_, object⟩ :: _ => made slots (← object.get name)
  | .set _ name plan, ⟨id, object⟩ :: _ =>
    let v ← plan.build
    match ← Task.ofExcept (object.set (← StageTask.fresh) name v) with
    | .value (.strategy s) => answered (slots.refresh s) .null
    | object => answered (slots.update id object) .null
  | .strategyOf _, [⟨_, .policy p⟩] =>
    let strategy ← (ScriptObject.policy p).get "backoff_strategy"
    let id ← StageTask.fresh
    pure ⟨.list [.text strategy.quote, .bool (!p.backoff.isNull)], ⟨id, strategy⟩, slots⟩
  | .strategyOf _, ⟨_, object⟩ :: _ => Task.fault (object.missing "backoff_strategy")
  | .merge _ args, slot :: _ => ask slots slot "merge" [] (← buildNamed args)
  | .replace _ args, [⟨_, .policy p⟩] =>
    let arguments ← buildNamed args
    let setting ← StageTask.fresh
    made slots (.policy (← Task.ofExcept (p.replace setting arguments)))
  | .replace _ args, [⟨_, .value (.classifier c)⟩] =>
    answered slots (.classifier (← Task.ofExcept (c.replace (← buildNamed args))))
  | .replace _ _, _ => Task.fault .notRecord
  | .equals _ _, [⟨id, object⟩, ⟨other, second⟩] =>
    answered slots (.bool (object.equals id other second))
  | .isSame _ _, [⟨id, object⟩, ⟨other, second⟩] =>
    answered slots (.bool (object.isSame id other second))
  | .combine _ _, [⟨_, .value (.classifier c)⟩, ⟨_, other⟩] =>
    answered slots (.classifier (← Task.ofExcept (ScriptObject.combined c other)))
  | .combine _ _, ⟨_, object⟩ :: _ => Task.fault (object.missing "combine")
  | .accepts _ method plan, slot :: _ =>
    let f ← plan.build
    match method, slot.object with
    | "call_matches", .value (.classifier _) => ask slots slot "matches" [.failure f] []
    | "call_matches", object => Task.fault (.cannotCall object.typeName)
    | name, _ => ask slots slot name [.failure f] []
  | _, _ => answered slots .null

def playSteps : List ScriptStep → Slots → Stage → List AnswerValue
  | [], _, _ => []
  | ⟨action, keep⟩ :: rest, slots, stage =>
    match action.slots.mapM fun name => slots.lookup name with
    | none => .record [("skip", .bool true)] :: playSteps rest slots stage
    | some objects =>
      match perform slots action objects
          { stage with journal := [], strategies := slots.strategies } with
      | (.ok outcome, after) =>
        let slots :=
          match keep with
          | some name => Stage.insertAt name outcome.result outcome.slots
          | none => outcome.slots
        .record (("r", outcome.shown) :: after.trace) :: playSteps rest slots after
      | (.error e, after) =>
        .record (after.shown (.error e) ++ after.trace) :: playSteps rest slots after

def play (steps : List ScriptStep) (logLevel : Int) (draws : List ValuePlan) : AnswerValue :=
  match buildValues draws (Stage.empty .direct logLevel [] none) with
  | (.ok draws, stage) => .record [("steps", .list (playSteps steps [] { stage with draws }))]
  | (.error e, stage) => .record (stage.shown (.error e))

end Script

end Reattempt
