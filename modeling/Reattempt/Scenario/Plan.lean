import Reattempt.Backoff.Strategy
import Reattempt.Listener

/-!
# Plans

Plans describe the things of a scenario before they are made. Making is separate, because it gives
things their identity, may fail, and happens at a time of its own: an operation is made before it
is invoked, and what an action describes is made when the action is taken.
-/

namespace Reattempt

mutual

inductive ValuePlan where
  | plain (v : Value)
  | list (items : List ValuePlan)
  | tuple (items : List ValuePlan)
  | set (items : List ValuePlan)
  | dict (entries : List (ValuePlan × ValuePlan))
  | failure (plan : FailurePlan)
  | predicate (plan : PredicatePlan)
  | strategy (plan : StrategyPlan)
  | classifier (plan : ClassifierPlan)

inductive FailurePlan where
  | make (kind : Kind) (args : List ValuePlan) (label : Option String)
      (cause : Option FailurePlan)
  | same (label : String)
  | exhausted (message : ValuePlan) (cause : ValuePlan) (history : List ValuePlan)
      (label : Option String)
  | status (code : Int) (text : String) (label : Option String) (cause : Option FailurePlan)

inductive PredicatePlan where
  | always (answer : ValuePlan)
  | hasText (expected : ValuePlan)
  | isOf (wanted : ValuePlan)
  | hasNumber (expected : ValuePlan)
  | firstTimes (count : ValuePlan)
  | raises (failure : FailurePlan)
  | transient (statuses : Option ValuePlan)

inductive StrategyPlan where
  | make (cls : StrategyClass) (arguments : List (String × ValuePlan))
  | slot (name : String)

inductive ClassifierPlan where
  | make (includes excludes predicates : List ValuePlan)

end

inductive PolicyPlan where
  | absent
  | new (fields : List (String × ValuePlan))
  | built (calls : List (String × List ValuePlan))
  | web (arguments : List (String × ValuePlan))
  | defaults
  | withMaxAttempts (v : ValuePlan)

mutual

inductive ListenerPlan where
  | absent
  | silent
  | logging (logger : Option String) (level : Option ValuePlan)
  /-- Several listeners; the root of them is the one that later listeners are added to. -/
  | composite (members : List ListenerPlan) (isRoot : Bool)
  /-- A listener that records what it is told, through all hooks or only some. -/
  | recording (name : Value) (hooks : List Hook) (reactions : List ReactionPlan)

/-- What a recording listener does when it is told something, maybe only at one count. -/
inductive ReactionPlan where
  | make (hook : Hook) (count : Option Int) (actions : List ActionPlan)

inductive ActionPlan where
  | setPolicy (policy : PolicyPlan)
  | setListener (listener : ListenerPlan)
  | setSleep (isCustom : Bool)
  | addListener (listener : ListenerPlan)
  | rename (name : String)
  | raise (failure : FailurePlan)

end

/-- Whether an execution raises the failure that ends it, or the last failure itself. -/
inductive Method where
  | execute
  | invoke
  deriving DecidableEq, Repr

/-- What stands for an operation: an object with a name, a function, or a function with bound
arguments. -/
inductive OperationForm where
  | named
  | function
  | bound
  deriving DecidableEq, Repr

mutual

/-- An operation to be made: its outcomes in order, the last of which repeats. -/
inductive OperationPlan where
  | make (name : String) (form : OperationForm) (isPlain : Bool) (outcomes : List OutcomePlan)

inductive OutcomePlan where
  | make (actions : List ActionPlan) (result : ResultPlan)

inductive ResultPlan where
  | returned (v : ValuePlan)
  | raised (failure : FailurePlan)
  | awaitable (v : ValuePlan)
  /-- With another execution, on a template of its own. -/
  | nested (policy : PolicyPlan) (listener : ListenerPlan) (method : Method)
      (operation : OperationPlan)
  /-- With another execution on the same template. -/
  | reentered (method : Method) (operation : OperationPlan)

end

end Reattempt
