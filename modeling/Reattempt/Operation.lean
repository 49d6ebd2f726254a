import Reattempt.Task

/-!
# Operations

An operation is a named unit of work. Anything that has a name and can be executed is one; anything
that can be called becomes one when it is wrapped. `Candidate.asOperation` leaves operations as
they are unless a name is given.

How an operation is executed is looked up whenever it is invoked. A wrapper keeps what was found
when it was made.
-/

namespace Reattempt

/-- What an operation replies: a value, or a task that has to be waited for. -/
inductive Reply (σ : Type) where
  | ready (v : Value)
  | pending (t : Task σ Value)

/-- An operation: its current name, itself as a value, and its invocation. -/
structure Operation (σ : Type) where
  name : σ → String
  self : Value
  invoke : Task σ (Reply σ)

/-- Something that may be an operation. -/
structure Candidate (σ : Type) where
  self : Value
  name? : Option (σ → Value)
  /-- How it is executed at a moment; it may say that it is not. -/
  execute? : Option (σ → Option (Task σ (Reply σ)))
  call? : Option (Task σ (Reply σ))
  qualifiedName? : Option String
  className : String
  written : String

namespace Candidate

variable {σ : Type}

/-- What executes an operation at a moment; nothing executes anything else. -/
def executor? (c : Candidate σ) (s : σ) : Option (Task σ (Reply σ)) :=
  match c.name?, c.execute? with
  | some _, some execute => execute s
  | _, _ => none

def isOperation (c : Candidate σ) (s : σ) : Bool := (c.executor? s).isSome

/-- Look up how to execute an operation, and do it. -/
def execute (c : Candidate σ) : Task σ (Reply σ) := do
  match ← Task.gets c.executor? with
  | some executor => executor
  | none => Task.fault (.cannotCall Value.null.typeName)

def defaultName (c : Candidate σ) : String :=
  match c.qualifiedName? with
  | some name => if name.isEmpty then c.className else name
  | none => c.className

def wrapperClass : String := "CallableRetryable"

/-- An operation that calls something; it cannot be called itself. -/
def wrapper (self : Value) (name : String) (call : Task σ (Reply σ)) : Candidate σ where
  self
  name? := some fun _ => .text name
  execute? := some fun _ => some call
  call? := none
  qualifiedName? := none
  className := wrapperClass
  written := recordText wrapperClass [("name", Text.quoted name)]

/-- Wrap a callable, under its own name unless another one is given. -/
def wrap (self : Value) (name : Option String) (c : Candidate σ) : Except Fault (Candidate σ) :=
  match c.call? with
  | some call => .ok (wrapper self (name.getD c.defaultName) call)
  | none => .error (.notCallable c.written)

/-- A candidate as an operation. A wrapper, if one is made, is the given value, and calls what
executes the candidate at this moment. An operation is never called, even if that is possible. -/
def asOperation (self : Value) (name : Option String) (c : Candidate σ) (s : σ) :
    Except Fault (Candidate σ) :=
  match c.executor? s, name with
  | some _, none => .ok c
  | some executor, some given => .ok (wrapper self given executor)
  | none, _ => c.wrap self name

def operation? (c : Candidate σ) : Option (Operation σ) :=
  match c.name?, c.execute? with
  | some name, some _ => some ⟨fun s => (name s).display, c.self, c.execute⟩
  | _, _ => none

def taken (self : Value) (name : Option String) (c : Candidate σ) (s : σ) :
    Except Fault (Operation σ) := do
  let made ← c.asOperation self name s
  match made.operation? with
  | some operation => .ok operation
  | none => .error (.notCallable made.written)

end Candidate

def Operation.candidate {σ : Type} (operation : Operation σ) (className : String) :
    Candidate σ where
  self := operation.self
  name? := some fun s => .text (operation.name s)
  execute? := some fun _ => some operation.invoke
  call? := none
  qualifiedName? := none
  className
  written := "<" ++ className ++ ">"

end Reattempt
