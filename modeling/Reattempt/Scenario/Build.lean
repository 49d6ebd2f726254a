import Reattempt.Scenario.Stage
import Reattempt.Value.Slots

/-!
# Making what plans describe

Values, failures, tests, strategies, classifiers, policies and listeners are made on the stage,
which gives them their numbers. Parts are made before the whole.
-/

namespace Reattempt

def distinctItems (items : List Value) : List Value :=
  items.foldl (fun kept v => if kept.any (Value.equals v) then kept else kept ++ [v]) []

def setOf (items : List Value) : Except Fault Value := do
  items.forM Value.checkKey
  pure (.set (Slots.arranged (distinctItems items)))

/-- Put an entry into a dictionary; an equal key stays and gets the new item. -/
def putEntry (key item : Value) : List (Value × Value) → List (Value × Value)
  | [] => [(key, item)]
  | (k, old) :: rest =>
    if k.equals key then (k, item) :: rest else (k, old) :: putEntry key item rest

def dictOf (entries : List (Value × Value)) : Except Fault Value := do
  entries.forM fun entry => entry.1.checkKey
  pure (.dict (entries.foldl (fun kept entry => putEntry entry.1 entry.2 kept) []))

mutual

def ValuePlan.build : ValuePlan → StageTask Value
  | .plain v => pure v
  | .list items => do return .list (← buildValues items)
  | .tuple items => do return .tuple (← buildValues items)
  | .set items => do Task.ofExcept (setOf (← buildValues items))
  | .dict entries => do Task.ofExcept (dictOf (← buildEntries entries))
  | .failure plan => do return .failure (← plan.build)
  | .predicate plan => do return .predicate (← plan.build)
  | .strategy plan => do return .strategy (← plan.build)
  | .classifier plan => do return .classifier (← plan.build)

def FailurePlan.build : FailurePlan → StageTask Failure
  | .make kind args label cause => do
    let args ← buildValues args
    let f ← Task.ofExcept (Failure.ofArguments (← StageTask.fresh) kind args)
    StageTask.label label (f.following (← buildCause cause))
  | .same label => StageTask.labelled label
  | .exhausted message cause history label => do
    let message ← message.build
    let cause ← cause.build
    let history ← buildValues history
    let id ← StageTask.fresh
    let f ← Task.ofExcept
      (Failure.exhaustedWith id Kind.exhausted message cause (.list history) .null)
    StageTask.label label f
  | .status code text label cause => do
    let f := Failure.ofStatus (← StageTask.fresh) text code
    StageTask.label label (f.following (← buildCause cause))

def buildCause : Option FailurePlan → StageTask (Option Failure)
  | none => pure none
  | some plan => do return some (← plan.build)

def PredicatePlan.build : PredicatePlan → StageTask Predicate
  | .always answer => do return ⟨← StageTask.fresh, .always (← answer.build)⟩
  | .hasText expected => do return ⟨← StageTask.fresh, .hasText (← expected.build)⟩
  | .isOf wanted => do return ⟨← StageTask.fresh, .isOf (← wanted.build)⟩
  | .hasNumber expected => do return ⟨← StageTask.fresh, .hasNumber (← expected.build)⟩
  | .firstTimes count => do return ⟨← StageTask.fresh, .firstTimes (← count.build)⟩
  | .raises plan => do return ⟨← StageTask.fresh, .raises (← plan.build)⟩
  | .transient statuses => do return ⟨← StageTask.fresh, .transient (← buildOption statuses)⟩

def StrategyPlan.build : StrategyPlan → StageTask Strategy
  | .make cls arguments => do
    let arguments ← buildNamed arguments
    let id ← StageTask.fresh
    Task.ofExcept (Strategy.ofArguments cls id arguments)
  | .slot name => do
    match (← Task.gets Stage.strategies).lookup name with
    | some strategy => pure strategy
    | none => Task.fault (.missingKey (.text name))

def ClassifierPlan.build : ClassifierPlan → StageTask Classifier
  | .make includes excludes predicates => do
    return ⟨← buildValues includes, ← buildValues excludes, ← buildValues predicates⟩

def buildValues : List ValuePlan → StageTask (List Value)
  | [] => pure []
  | plan :: rest => do
    let v ← plan.build
    return v :: (← buildValues rest)

def buildEntries : List (ValuePlan × ValuePlan) → StageTask (List (Value × Value))
  | [] => pure []
  | entry :: rest => do
    let made ← buildEntry entry
    return made :: (← buildEntries rest)

def buildEntry : ValuePlan × ValuePlan → StageTask (Value × Value)
  | (key, item) => do
    let key ← key.build
    return (key, ← item.build)

def buildNamed : List (String × ValuePlan) → StageTask Arguments
  | [] => pure []
  | field :: rest => do
    let made ← buildField field
    return made :: (← buildNamed rest)

def buildField : String × ValuePlan → StageTask (String × Value)
  | (name, plan) => do return (name, ← plan.build)

def buildOption : Option ValuePlan → StageTask (Option Value)
  | none => pure none
  | some plan => do return some (← plan.build)

end

/-! ### Policies -/

def callBuilder : List (String × List ValuePlan) → PolicyBuilder → StageTask PolicyBuilder
  | [], builder => pure builder
  | (method, values) :: rest, builder => do
    let values ← buildValues values
    let number ← StageTask.fresh
    let builder ← Task.ofExcept do
      builder.apply number (← PolicyBuilder.Setting.ofCall method values)
    callBuilder rest builder

def PolicyPlan.build : PolicyPlan → StageTask (Option Policy)
  | .absent => pure none
  | .new fields => do
    let fields ← buildNamed fields
    let setting ← StageTask.fresh
    some <$> Task.ofExcept (Policy.ofArguments setting fields)
  | .built calls => do
    let builder ← callBuilder calls .empty
    let id ← StageTask.fresh
    some <$> Task.ofExcept (builder.build id)
  | .web arguments => do
    let arguments ← buildNamed arguments
    let setting ← StageTask.fresh
    let test ← StageTask.fresh
    some <$> Task.ofExcept (Policy.forRequests setting test arguments)
  | .defaults => pure (some .default)
  | .withMaxAttempts v => do
    let v ← v.build
    some <$> Task.ofExcept (Policy.ofArguments 0 [("max_attempts", v)])

/-! ### Listeners -/

def memberOf (listener : Option (Listener Observer)) : Listener Observer :=
  listener.getD (.leaf .absent)

/-- Make a composite whose members are kept on the stage. Later listeners are added to the root. -/
def enrolComposite (members : List (Listener Observer)) (isRoot : Bool) : StageTask Nat := do
  let id ← StageTask.fresh
  Task.modify fun stage =>
    { stage with
      rolls := Stage.insertAt id members stage.rolls
      root := if isRoot then some id else stage.root }
  pure id

mutual

def ListenerPlan.build : ListenerPlan → StageTask (Option (Listener Observer))
  | .absent => pure none
  | .silent => pure (some (.leaf .silent))
  | .logging logger level => do
    let level ← buildOption level
    pure (some (.leaf (.logging (logger.getD LoggingListener.defaultLogger)
      (level.getD (.int Notice.debugLevel)))))
  | .composite members isRoot => do
    let members ← buildMembers members
    if isRoot then return some (.growing (← enrolComposite members isRoot))
    else pure (some (.composite members))
  | .recording name hooks reactions => do
    let id ← StageTask.fresh
    pure (some (.leaf (.recording id name hooks reactions)))

def buildMembers : List ListenerPlan → StageTask (List (Listener Observer))
  | [] => pure []
  | plan :: rest => do
    let listener ← plan.build
    return memberOf listener :: (← buildMembers rest)

end

end Reattempt
