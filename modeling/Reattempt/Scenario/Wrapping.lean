import Reattempt.Scenario.Step

/-!
# Wrapping objects

Objects of several kinds are taken for an operation. The answer shows what becomes of them: the
object itself or a wrapper, its name, and what it gives when it is executed.
-/

namespace Reattempt

inductive ObjectToWrap where
  | function (name : String)
  | bound
  | callable
  | operation (name : Value)
  | callableOperation (name : String)
  | incomplete
  /-- An object with a name that can be called; its execution is absent. -/
  | hollow (name : String)
  | wrapped (name : String)
  | lengthOf
  | newDictionary
  | value (plan : ValuePlan)

structure Wrapping where
  object : ObjectToWrap
  name : Option String
  isDirect : Bool

namespace ObjectToWrap

def data : Task Stage (Reply Stage) := pure (.ready (.text "data"))

def called : Task Stage (Reply Stage) := pure (.ready (.text "called"))

def mute (self : Value) (name? : Option Value) (execute? : Option (Task Stage (Reply Stage))) :
    Candidate Stage :=
  ⟨self, name?.map fun v _ => v, execute?.map fun execute _ => some execute, none, none, "NoCall",
    "<NoCall>"⟩

def speaking (self : Value) (name? : Option Value)
    (execute? : Option (Option (Task Stage (Reply Stage)))) : Candidate Stage :=
  ⟨self, name?.map fun v _ => v, execute?.map fun execute _ => execute, some called, none, "Both",
    "<Both>"⟩

/-- A value as a candidate. A kind is called to make a failure, and a classifier lacks the failure
that it would be asked about. -/
def ofValue (self : Value) : Value → Candidate Stage
  | .kind k =>
    let make : Task Stage (Reply Stage) := do
      let f ← Task.ofExcept (Failure.ofArguments (← StageTask.fresh) k [])
      pure (.ready (.failure f))
    ⟨self, none, none, some make, some k.name, "type", k.quote⟩
  | .classifier c =>
    let ask : Task Stage (Reply Stage) :=
      Task.fault (.missingArguments "ExceptionClassifier.matches" 1 "'exc'")
    ⟨self, none, none, some ask, none, "ExceptionClassifier", c.quote⟩
  | v => ⟨self, none, none, none, none, v.className, v.quote⟩

def candidate (self : Value) : ObjectToWrap → StageTask (Candidate Stage)
  | function name => pure ⟨self, none, none, some data, some name, "function", "<function>"⟩
  | bound => pure ⟨self, none, none, some data, none, "partial", "<partial>"⟩
  | callable => pure (speaking self none none)
  | operation name => pure (mute self (some name) (some data))
  | callableOperation name => pure (speaking self (some (.text name)) (some (some data)))
  | incomplete => pure (mute self none none)
  | hollow name => pure (speaking self (some (.text name)) (some none))
  | wrapped name => pure (Candidate.wrapper self name data)
  | lengthOf =>
    pure ⟨self, none, none, some (pure (.ready (.text ""))), some "len",
      "builtin_function_or_method", "<built-in function len>"⟩
  | newDictionary =>
    pure ⟨self, none, none, some (pure (.ready (.dict []))), some "dict", "type",
      "<class 'dict'>"⟩
  | value plan => do return ofValue self (← plan.build)

end ObjectToWrap

namespace Wrapping

def shown (wrapping : Wrapping) : StageTask AnswerValue := do
  let id ← StageTask.fresh
  let candidate ← wrapping.object.candidate (.operation id)
  let wrapper := Value.operation (← StageTask.fresh)
  let stage ← Task.read
  let made ← Task.ofExcept
    (if wrapping.isDirect then candidate.wrap wrapper wrapping.name
     else candidate.asOperation wrapper wrapping.name stage)
  let isWrapped := made.className == Candidate.wrapperClass
  let name := (made.name?.map fun name => name stage).getD .null
  let result ← StageTask.answerValue (← Flavour.direct.receive (← made.execute))
  pure (.record [("same", .bool (made.self.equals candidate.self)), ("wrapped", .bool isWrapped),
    ("name", name.answer stage.catalogue),
    ("repr", if isWrapped then .text made.written else .null),
    ("is_retryable", .bool (candidate.isOperation stage)), ("result", result)])

end Wrapping

end Reattempt
