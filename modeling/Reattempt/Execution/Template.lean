import Reattempt.Execution.Basic
import Reattempt.Operation
import Reattempt.Policy.Basic

/-!
# Templates

A template executes operations under a policy and tells a listener. The policy and the listener
are taken when an execution starts, so changing them does not touch a running execution; the way
to wait is looked up each time. Replies of operations are taken at once, or are waited for.
-/

namespace Reattempt

/-- How replies are taken. -/
inductive Flavour where
  | direct
  | awaited
  deriving DecidableEq, Repr

/-- A failure that says that there is no next item cannot leave a task that is waited for; it
turns into another one that follows from it. -/
def Failure.insulated (f : Failure) : Failure :=
  if f.kind.isA Kind.stopIteration then
    ⟨0, Kind.runtimeError, [.text "coroutine raised StopIteration"], some f, .plain⟩
  else f

namespace Flavour

def logger : Flavour → String
  | direct => "aretry.template"
  | awaited => "aretry.template_async"

variable {σ α : Type}

/-- The boundary of a task that is waited for. -/
def insulate : Flavour → Task σ α → Task σ α
  | direct, t => t
  | awaited, t => do
    match ← t.ending with
    | .error (.raised f) => Task.raise f.insulated
    | outcome => Task.endWith outcome

def receive : Flavour → Reply σ → Task σ Value
  | _, .ready v => pure v
  | direct, .pending _ => pure (.thing "coroutine" "<coroutine object>")
  | awaited, .pending t => t

def perform (flavour : Flavour) (operation : Operation σ) : Task σ Value :=
  flavour.insulate (do flavour.receive (← operation.invoke))

end Flavour

/-- A template over a state: what it reads there and how its surroundings behave. -/
structure Template (σ ℓ : Type) where
  flavour : Flavour
  policy : σ → Option Policy
  listener : σ → Option (Listener ℓ)
  examination : Examination σ
  chance : Chance σ
  wait : Value → Task σ Unit
  notify : Option Policy → Operation σ → Occasion → ℓ → Task σ Unit
  members : Nat → σ → List (Listener ℓ)
  patience : Nat

namespace Template

variable {σ ℓ : Type} (template : Template σ ℓ)

def observe (policy : Option Policy) (listener : Option (Listener ℓ)) (operation : Operation σ)
    (occasion : Occasion) : Task σ Unit :=
  match listener with
  | some l =>
    l.dispatch (template.notify policy operation occasion) template.members template.patience
      template.patience
  | none => Task.fault (.missingAttribute Value.null.owner occasion.hook.name)

def execution (policy : Option Policy) (listener : Option (Listener ℓ))
    (operation : Operation σ) : Execution σ where
  logger := template.flavour.logger
  name := operation.name
  operation := operation.self
  invoke := template.flavour.perform operation
  start :=
    match policy with
    | some p => p.start
    | none => .error (.missingAttribute Value.null.owner "start_backoff")
  accepts f :=
    match policy with
    | some p => p.accepts template.examination f
    | none => Task.fault (.missingAttribute Value.null.owner "should_retry")
  calculate strategy attempt := strategy.calculate template.chance attempt
  wait := template.wait
  observe := template.observe policy listener operation
  tell := template.examination.tell
  patience := template.patience

/-- Execute an operation under the policy and with the listener of this moment. -/
def execute (operation : Operation σ) : Task σ Value :=
  template.flavour.insulate do
    let policy ← Task.gets template.policy
    let listener ← Task.gets template.listener
    (template.execution policy listener operation).run

/-- Execute an operation, and raise its last failure itself when the execution gives up. -/
def invoke (operation : Operation σ) : Task σ Value :=
  template.flavour.insulate (template.execute operation).unwrapped

end Template

end Reattempt
