import Reattempt.Backoff.Cursor
import Reattempt.Listener

/-!
# Executions

An execution invokes an operation, and invokes it again after failures for as long as it is
allowed to. Each failure is classified first; one that may be retried asks for the next delay;
then the execution waits, tells its listener, and tries again. When it gives up it raises one
failure that carries all others.

Everything an execution does to its surroundings is a task, so that what is proved of executions
holds whatever the operation, the tests, the waits and the listeners do.
-/

namespace Reattempt

/-- An operation with everything that is asked while it is executed. -/
structure Execution (σ : Type) where
  logger : String
  name : σ → String
  /-- The operation, as failures carry it. -/
  operation : Value
  invoke : Task σ Value
  start : Except Fault Cursor
  accepts : Failure → Task σ Bool
  calculate : Strategy → Value → Task σ Value
  wait : Value → Task σ Unit
  observe : Occasion → Task σ Unit
  tell : Notice → Task σ Unit
  /-- Attempts that are made before an execution without a limit is cut off. -/
  patience : Nat

def exhaustedMessage (operation : String) : String :=
  "Retry policy for operation '" ++ operation ++ "' exhausted; aborting execution"

/-- The failure that ends an execution: the last failure and the earlier ones, oldest first. -/
def Failure.exhausted (message : String) (last : Failure) (earlier : List Failure)
    (operation : Value) : Failure :=
  ⟨0, Kind.exhausted, [.text message], some last,
    .exhausted (.text message) (.failure last) (earlier.map .failure) operation⟩

/-- How often a cursor can be asked before it is spent; without a limit, as often as patience
allows. -/
def Cursor.asks (cursor : Cursor) (patience : Nat) : Nat :=
  match cursor.limit.number? with
  | some (.whole limit) => (limit - cursor.attempts).toNat + 1
  | some (.binary limit) =>
    match Decimal.ceiling? limit with
    | some bound => (bound - cursor.attempts).toNat + 1
    | none => patience
  | none => patience

namespace Execution

/-! ### What an execution tells of its operation -/

def startText (name : String) : String := "Executing operation '" ++ name ++ "'"

def retryText (retries : Nat) (name : String) : String :=
  "Retrying operation '" ++ name ++ "' (" ++ toString retries ++ " retries so far)"

def rejectionText (f : Failure) (name : String) : String :=
  "Operation '" ++ name ++ "' failed with non-retryable " ++ f.kind.name

def exhaustionText (retries : Nat) (name : String) : String :=
  "Backoff for operation '" ++ name ++ "' exhausted after " ++ toString retries ++ " retries"

variable {σ : Type} (execution : Execution σ)

def announce (attempt : Nat) (text : String → String) : Task σ Unit := do
  let name ← Task.gets execution.name
  execution.tell (.debug execution.logger (text name)
    [("operation", .text name), ("attempt", .int attempt)])

/-! ### Attempts and retries -/

/-- Invoke the operation. An ordinary failure is an outcome; any other escapes. -/
def attempt : Task σ (Except Failure Value) := do
  match ← execution.invoke.ending with
  | .ok result => pure (.ok result)
  | .error (.raised f) => if f.isOrdinary then pure (.error f) else Task.raise f
  | .error .unfinished => Task.escape .unfinished

/-- Raise the failure that carries all failures, after telling the listener. -/
def giveUp (earlier : List Failure) (last : Failure) : Task σ Value := do
  let name ← Task.gets execution.name
  execution.observe (.exhaustion last)
  Task.raise (.exhausted (exhaustedMessage name) last earlier execution.operation)

/-- Go on after a failure: give up, or wait and try again. -/
def retry : (asks : Nat) → Cursor → (earlier : List Failure) → (last : Failure) → Task σ Value
  | 0, _, _, _ => Task.escape .unfinished
  | asks + 1, cursor, earlier, last => do
    if ← execution.accepts last then
      let (delay, cursor) ← cursor.next execution.calculate
      if delay.isNull then
        execution.announce cursor.attempts (exhaustionText cursor.attempts)
        execution.giveUp earlier last
      else
        execution.wait delay
        execution.observe .beforeRetry
        execution.announce cursor.attempts (retryText cursor.attempts)
        match ← execution.attempt with
        | .ok result =>
          execution.observe (.retrySuccess result)
          pure result
        | .error failure =>
          execution.observe (.retryFailure failure)
          retry asks cursor (earlier ++ [last]) failure
    else
      execution.announce cursor.attempts (rejectionText last)
      execution.giveUp earlier last

def run : Task σ Value := do
  execution.announce 0 startText
  match ← execution.attempt with
  | .ok result => pure result
  | .error failure =>
    let cursor ← Task.ofExcept execution.start
    execution.retry (cursor.asks execution.patience) cursor [] failure

end Execution

/-- Replace the failure that ends an execution by its cause. -/
def Task.unwrapped {σ α : Type} (t : Task σ α) : Task σ α := do
  match ← t.ending with
  | .error (.raised ⟨_, _, _, _, .exhausted _ cause _ _⟩) =>
    match cause with
    | .failure last => Task.raise last
    | _ => Task.fault .notFailure
  | outcome => Task.endWith outcome

end Reattempt
