import Reattempt.Failure.Standard

/-!
# Values

The values that policies are made of and that operations return. Parameters are checked when they
are used, so every parameter is a `Value`. Failures, tests, strategies and classifiers are values
too: failures travel through results and histories, and the others are parameters of policies.

Failures, tests and strategies have an identity besides their content, a number given when they
are made. The library's own failures carry the number zero, which nothing asks for.
-/

namespace Reattempt

mutual

inductive Value where
  | null
  | bool (b : Bool)
  | int (i : Int)
  | float (x : Float)
  | text (s : String)
  | list (items : List Value)
  | tuple (items : List Value)
  | dict (entries : List (Value × Value))
  | set (items : List Value)
  | bytes (octets : List UInt8)
  /-- A length of time: days, seconds of the day and microseconds of the second. -/
  | duration (days seconds microseconds : Int)
  | failure (f : Failure)
  | kind (k : Kind)
  | predicate (p : Predicate)
  | strategy (s : Strategy)
  | classifier (c : Classifier)
  | operation (id : Nat)
  | response (status : Int)
  | thing (typeName written : String)

/-- A failure: what it is, what it was made with, and the failure it follows from. -/
structure Failure where
  id : Nat
  kind : Kind
  args : List Value
  cause : Option Failure
  detail : Detail

/-- What a failure carries besides its arguments. -/
inductive Detail where
  | plain
  | file (first : Value) (second : Option Value)
  /-- The end of a run: the message, the last failure, the earlier ones and the operation. -/
  | exhausted (message cause : Value) (history : List Value) (operation : Value)
  | status (code : Int)

structure Predicate where
  id : Nat
  test : Test

inductive Test where
  | always (answer : Value)
  | hasText (expected : Value)
  | isOf (wanted : Value)
  | hasNumber (expected : Value)
  | firstTimes (count : Value)
  | raises (f : Failure)
  /-- Passes failures of requests that are worth another try; the standard statuses unless some
  are given. -/
  | transient (statuses : Option Value)
  /-- The same as a part of a policy for requests, which asks in silence. -/
  | transientSilently (statuses : List Value)

structure Strategy where
  id : Nat
  limit : Value
  shape : Shape
  /-- Attributes that were set later and belong to no parameter. -/
  extras : List (String × Value)

inductive Shape where
  | fixed (delay : Value)
  | constant (delay : Value)
  | linear (base cap : Value)
  | exponential (base multiplier cap jitter : Value)
  | fibonacci (base cap : Value)
  /-- Delays from a list; the last one repeats. -/
  | table (delays : Value)

/-- Which failures may be retried: kinds let in, kinds kept out, and tests. -/
structure Classifier where
  includes : List Value
  excludes : List Value
  predicates : List Value

end

instance : Inhabited Value := ⟨.null⟩

namespace Value

def isNull : Value → Bool
  | null => true
  | _ => false

/-- The whole number that a value is. Truth values count as one and zero. -/
def whole? : Value → Option Int
  | bool b => some (if b then 1 else 0)
  | int i => some i
  | _ => none

def elements? : Value → Option (List Value)
  | list items | tuple items | set items => some items
  | dict entries => some (entries.map Prod.fst)
  | text s => some (s.toList.map fun c => text c.toString)
  | bytes octets => some (octets.map fun o => int o.toNat)
  | _ => none

end Value

namespace Failure

def plain (id : Nat) (kind : Kind) (args : List Value) : Failure :=
  ⟨id, kind, args, none, .plain⟩

def isExhaustion (f : Failure) : Bool := f.kind.isA Kind.exhausted

/-- Whether a run may take a failure up. -/
def isOrdinary (f : Failure) : Bool := f.kind.isA Kind.exception

end Failure

namespace Detail

def last? : Detail → Option Value
  | exhausted _ cause _ _ => some cause
  | _ => none

/-- The earlier failures of a run, oldest first. -/
def history : Detail → List Value
  | exhausted _ _ history _ => history
  | _ => []

def failures (detail : Detail) : List Value := detail.history ++ detail.last?.toList

def attempts (detail : Detail) : Nat := detail.history.length + 1

end Detail

def Classifier.all : Classifier := ⟨[], [], []⟩

end Reattempt
