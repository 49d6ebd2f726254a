import Reattempt.Execution.Template

/-!
# Decorated functions

A function is decorated with a policy, a listener and a name. Each call of the decorated function
executes the function, bound to the arguments of that call, on a template that nothing changes, so
calls do not touch each other.
-/

namespace Reattempt

/-- A function: the name of its definition, how a complaint about it starts, whether its replies
are waited for, and its call. -/
structure Callee (σ α : Type) where
  qualifiedName? : Option String
  owner : String
  isAwaited : Bool
  call : α → Task σ (Reply σ)

/-- What a function is decorated with; each part may be left out. -/
structure Decoration (ℓ : Type) where
  policy : Option Policy
  listener : Option (Listener ℓ)
  name : Option String

def Decoration.bare {ℓ : Type} : Decoration ℓ := ⟨none, none, none⟩

structure Decorated (σ ℓ α : Type) where
  template : Template σ ℓ
  policy : Policy
  name : String
  callee : Callee σ α

def Template.settled {σ ℓ : Type} (template : Template σ ℓ) (flavour : Flavour) (policy : Policy)
    (listener : Listener ℓ) : Template σ ℓ :=
  { template with flavour, policy := fun _ => some policy, listener := fun _ => some listener }

namespace Decorated

variable {σ ℓ α : Type}

/-- The name of the definition of a decorated function that has no name to pass on. -/
def anonymousName : String := "retryable.<locals>.decorator.<locals>.wrapper"

/-- Decorate a function. Without a name it needs the name of its definition. -/
def make (surroundings : Template σ ℓ) (decoration : Decoration ℓ) (callee : Callee σ α) :
    Except Fault (Decorated σ ℓ α) :=
  let policy := decoration.policy.getD .default
  let flavour := if callee.isAwaited then Flavour.awaited else .direct
  let template := surroundings.settled flavour policy (decoration.listener.getD .silent)
  match decoration.name.orElse fun _ => callee.qualifiedName? with
  | some name => .ok ⟨template, policy, name, callee⟩
  | none => .error (.missingAttribute callee.owner "__qualname__")

/-- What the decorator is called with in the place of a policy. -/
inductive Subject (σ α : Type) where
  | absent
  | policy (p : Policy)
  | function (callee : Callee σ α)

/-- What calling the decorator comes to: a way to decorate functions, or a decorated function. -/
inductive Applied (σ ℓ α : Type) where
  | decorator (decorate : Callee σ α → Except Fault (Decorated σ ℓ α))
  | decorated (outcome : Except Fault (Decorated σ ℓ α))

/-- Call the decorator. A function is decorated at once, with nothing. -/
def apply (surroundings : Template σ ℓ) (listener : Option (Listener ℓ)) (name : Option String) :
    Subject σ α → Applied σ ℓ α
  | .absent => .decorator (make surroundings ⟨none, listener, name⟩)
  | .policy p => .decorator (make surroundings ⟨some p, listener, name⟩)
  | .function callee => .decorated (make surroundings .bare callee)

def Applied.finish (callee : Callee σ α) : Applied σ ℓ α → Except Fault (Decorated σ ℓ α)
  | .decorator decorate => decorate callee
  | .decorated outcome => outcome

def operation (decorated : Decorated σ ℓ α) (self : Value) (arguments : α) : Operation σ :=
  ⟨fun _ => decorated.name, self, decorated.callee.call arguments⟩

def call (decorated : Decorated σ ℓ α) (self : Value) (arguments : α) : Task σ Value :=
  decorated.template.execute (decorated.operation self arguments)

def qualifiedName (decorated : Decorated σ ℓ α) : String :=
  decorated.callee.qualifiedName?.getD anonymousName

def lastPart (name : String) : String :=
  String.ofList (name.toList.reverse.takeWhile (· ≠ '.')).reverse

end Decorated

end Reattempt
