import Reattempt.Execution.Template
import Reattempt.Policy.Builder
import Reattempt.Text.Upper

/-!
# Requests as operations

A request keeps its method in upper case, and is handed to a client with its address and its
settings, unchanged, by every invocation. A response with an error status is asked to raise, so that
a policy can look at the failure. `Policy.forRequests` makes the policy for requests: it retries the
failures of the transport and the responses with certain statuses.
-/

namespace Reattempt

structure Request where
  method : String
  url : String
  settings : Arguments

/-- What a client returns: a value with a status, which raises a failure if it is asked to. -/
structure Response (σ : Type) where
  value : Value
  status : Int
  raiseForStatus : Task σ Unit

/-- What sends requests, called with a method, an address and settings. -/
abbrev Client (σ : Type) := (method url : String) → Arguments → Task σ (Response σ)

def leastErrorStatus : Int := 400

namespace Request

def logger : String := "aretry.http"

/-- The names that requests are made under, and that settings may not have. -/
def reserved : List String := ["self", "client", "method", "url"]

def make (className method url : String) (settings : Arguments) : Except Fault Request :=
  match settings.find? fun setting => reserved.contains setting.1 with
  | some (name, _) => .error (.repeatedArgument (className ++ ".__init__") name)
  | none => .ok ⟨Text.upper method, url, settings⟩

def name (request : Request) : String := request.method ++ " " ++ request.url

end Request

/-- A request with the client that sends it, and with what shows of it to others. -/
structure Errand (σ : Type) where
  request : Request
  client : Client σ
  tell : Notice → Task σ Unit
  name : σ → String
  self : Value

namespace Errand

variable {σ : Type} (errand : Errand σ)

def fetch : Task σ (Response σ) :=
  errand.client errand.request.method errand.request.url errand.request.settings

/-- Tell that a response has an error status, and ask it to raise. -/
def check (response : Response σ) : Task σ Unit :=
  if leastErrorStatus ≤ response.status then do
    let name ← Task.gets errand.name
    errand.tell (.debug Request.logger
      (name ++ " failed with status " ++ toString response.status) [])
    response.raiseForStatus
  else pure ()

def send : Task σ Value := do
  let response ← errand.fetch
  errand.check response
  pure response.value

def operation (flavour : Flavour) : Operation σ :=
  ⟨errand.name, errand.self,
    match flavour with
    | .direct => Reply.ready <$> errand.send
    | .awaited => pure (.pending errand.send)⟩

end Errand

/-! ### Policies for requests -/

def defaultStatusesValue : Value := .tuple (defaultStatuses.map .int)

/-- Whether a failure is worth another request. The statuses are only looked at for a response. -/
def Failure.isTransient (statuses : Value) (f : Failure) : Except Fault Bool :=
  if f.kind.isA Kind.transportError then .ok true
  else
    match f.detail with
    | .status code => do
      let items ← statuses.items?
      pure (items.any fun item => item.equals (.int code))
    | _ => .ok false

/-- A policy that retries failures worth another request. The numbers are those of the delay
setting and of the test. -/
def Policy.forRequests (setting test : Nat) (arguments : Arguments) : Except Fault Policy := do
  arguments.check "http_retry_policy" [] [] ["max_attempts", "delay", "status_forcelist"]
  let statuses ← (arguments.get "status_forcelist" defaultStatusesValue).items?
  let builder ← PolicyBuilder.empty.apply setting
    (.maxAttempts (arguments.get "max_attempts" (.int defaultMaxAttempts)))
  let builder ← builder.apply setting (.delay (arguments.get "delay" (.float defaultDelay)))
  let builder ← builder.apply setting (.predicate (.predicate ⟨test, .transientSilently statuses⟩))
  builder.build 0

end Reattempt
