import Reattempt.Scenario.Step
import Reattempt.Scenario.Web.Client

/-!
# Exchanges

A request is executed as an operation, with a client that takes prepared responses.
-/

namespace Reattempt

inductive ResponsePlan where
  | status (code : Int)
  | raised (failure : FailurePlan)

structure Exchange where
  flavour : Flavour
  method : String
  url : String
  settings : List (String × ValuePlan)
  responses : List ResponsePlan
  policy : PolicyPlan
  listener : ListenerPlan
  via : Method
  /-- The request is sent once, without a template. -/
  isDirect : Bool
  logLevel : Int
  draws : List ValuePlan
  interruption : Option (Int × FailurePlan)

def Flavour.requestClass : Flavour → String
  | direct => "HttpRetryable"
  | awaited => "AsyncHttpRetryable"

def Flavour.clientClass : Flavour → String
  | direct => "Client"
  | awaited => "AsyncClient"

/-- What a request shows of itself: its method, its address, its name, the names of its settings,
and that it is an operation. -/
def Request.shown (request : Request) : AnswerValue :=
  .list [.text request.method, .text request.url, .text request.name,
    .texts (request.settings.map Prod.fst), .bool true]

namespace Exchange

def makeResponses : List ResponsePlan → StageTask (List (StageTask Int))
  | [] => pure []
  | .status code :: rest => do return pure code :: (← makeResponses rest)
  | .raised plan :: rest => do
    let f ← plan.build
    return Task.raise f :: (← makeResponses rest)

def execute (exchange : Exchange) (id : Nat) : StageTask Value := do
  let draws ← buildValues exchange.draws
  Task.modify fun stage => { stage with draws }
  let responses ← makeResponses exchange.responses
  let settings ← buildNamed exchange.settings
  let request ← Task.ofExcept
    (Request.make exchange.flavour.requestClass exchange.method exchange.url settings)
  StageTask.changeOperation id fun enrolment => { enrolment with name := request.name }
  let client := Client.prepared exchange.flavour.clientClass id responses
  let errand : Errand Stage :=
    ⟨request, client, StageTask.tell, Stage.nameOf id, .operation id⟩
  let operation := errand.operation exchange.flavour
  if exchange.isDirect then exchange.flavour.perform operation
  else
    StageTask.setUp exchange.flavour exchange.policy exchange.listener false
    match exchange.via with
    | .execute => (Stage.template exchange.flavour).execute operation
    | .invoke => (Stage.template exchange.flavour).invoke operation

def play (exchange : Exchange) : AnswerValue :=
  match StageTask.enrol "" (Stage.empty exchange.flavour exchange.logLevel []
      exchange.interruption) with
  | (.ok id, stage) =>
    match stage.step (StageTask.shown (exchange.execute id)) with
    | (shown, after) => .record (shown ++ [("requests", .int (after.callsOf id))])
  | (.error e, stage) => .record (stage.shown (.error e))

end Exchange

end Reattempt
