import Reattempt.Backoff.Strategy
import Reattempt.Notice
import Reattempt.Value.Arithmetic

/-!
# Delays

The delay that a strategy computes for an attempt, counted from zero. A cap cuts the computed
delay, and jitter is added after the cap. Chance and notices come from around the strategy.

Fibonacci delays grow by numbers of which the first two are one and each later one is the sum of the
two before it.
-/

namespace Reattempt

/-! ### Fibonacci numbers -/

/-- A Fibonacci number and its successor, counted from zero. -/
def fibonacciPair : Nat → Nat × Nat
  | 0 => (0, 1)
  | n + 1 =>
    let (current, next) := fibonacciPair n
    (next, current + next)

def fibonacci (n : Nat) : Nat := (fibonacciPair n).1

theorem fibonacciPair_eq (n : Nat) : fibonacciPair n = (fibonacci n, fibonacci (n + 1)) := by
  rw [fibonacci, fibonacci, fibonacciPair]

theorem fibonacci_add_two (n : Nat) :
    fibonacci (n + 2) = fibonacci n + fibonacci (n + 1) := by
  rw [fibonacci, fibonacciPair, fibonacciPair, fibonacciPair_eq]

/-- The Fibonacci number at a value. Positions up to zero give zero and positions up to two give
one, also between whole numbers; beyond two the position has to be whole. -/
def fibonacciAt (n : Value) : Except Fault Value := do
  if ← n.compareBy .atMost (.int 0) then pure (.int 0)
  else if ← n.compareBy .atMost (.int 2) then pure (.int 1)
  else
    match n.number? with
    | some (.whole i) => pure (.int (fibonacci i.toNat))
    | _ => .error (.notWhole n.typeName)

/-! ### Delays of strategies -/

/-- What a strategy with jitter needs from around it. -/
structure Chance (σ : Type) where
  /-- A random value between two bounds. -/
  uniform : (low high : Value) → Task σ Value
  tell : Notice → Task σ Unit

def capped (cap delay : Value) : Except Fault Value :=
  if cap.isNull then .ok delay else delay.smaller cap

namespace Shape

def linearDelay (base cap attempt : Value) : Except Fault Value := do
  capped cap (← base.times (← attempt.plus (.int 1)))

def fibonacciDelay (base cap attempt : Value) : Except Fault Value := do
  capped cap (← base.times (← fibonacciAt (← attempt.plus (.int 1))))

def exponentialDelay (base multiplier cap attempt : Value) : Except Fault Value := do
  capped cap (← base.times (← multiplier.raisedTo attempt))

def itemAt (items : List Value) (position : Value) : Except Fault Value :=
  match position.number? with
  | some (.whole i) =>
    let index := if i < 0 then i + items.length else i
    match if index < 0 then none else items[index.toNat]? with
    | some item => .ok item
    | none => .error (.indexOutOfRange "list ")
  | _ => .error (.indexNotWhole "list" position.typeName)

/-- The item of a table for an attempt; the last one stands for all later attempts. -/
def tableItem (delays attempt : Value) : Except Fault Value := do
  let items ← delays.items?
  itemAt items (← attempt.smaller (.int (items.length - 1)))

end Shape

section

variable {σ : Type} (chance : Chance σ)

def jitterLogger : String := "aretry.backoff.exponential"

def addJitter (jitter delay : Value) : Task σ Value := do
  let share ← chance.uniform (.int 0) jitter
  let extra ← Task.ofExcept (share.times delay)
  let extraText ← Task.ofExcept extra.twoPlaces
  let delayText ← Task.ofExcept delay.twoPlaces
  chance.tell (.debug jitterLogger
    ("Adding jitter of " ++ extraText ++ "s to a delay of " ++ delayText ++ "s") [])
  Task.ofExcept (delay.plus extra)

/-- The delay of a strategy for an attempt. A failure in a table is raised. -/
def Strategy.calculate (strategy : Strategy) (attempt : Value) : Task σ Value :=
  match strategy.shape with
  | .fixed delay | .constant delay => pure delay
  | .linear base cap => Task.ofExcept (Shape.linearDelay base cap attempt)
  | .fibonacci base cap => Task.ofExcept (Shape.fibonacciDelay base cap attempt)
  | .exponential base multiplier cap jitter => do
    let delay ← Task.ofExcept (Shape.exponentialDelay base multiplier cap attempt)
    if ← Task.ofExcept (jitter.compareBy .above (.int 0)) then addJitter chance jitter delay
    else pure delay
  | .table delays => do
    match ← Task.ofExcept (Shape.tableItem delays attempt) with
    | .failure f => Task.raise f
    | delay => pure delay

end

end Reattempt
