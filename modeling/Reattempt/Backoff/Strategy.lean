import Reattempt.Validation

/-!
# Strategies

How strategies are made. Every parameter is checked when a strategy is made, in a fixed order: the
delay, the cap, the limit, the jitter and the multiplier.
-/

namespace Reattempt

inductive StrategyClass where
  | fixed
  | constant
  | linear
  | exponential
  | fibonacci
  | table
  /-- The class that all others extend, which makes no strategies. -/
  | base

namespace Strategy

def ofShape (id : Nat) (limit : Value) (shape : Shape) : Strategy := ⟨id, limit, shape, []⟩

/-- The same delay every time, without a limit of its own unless one is given. -/
def constant (id : Nat) (delay limit : Value) : Except Fault Strategy := do
  refuseBelow 0 "delay" "non-negative" delay
  validateLimit limit
  pure (ofShape id limit (.constant delay))

/-- The same delay every time, always with a limit. -/
def fixed (id : Nat) (interval limit : Value) : Except Fault Strategy := do
  refuseBelow 0 "interval" "non-negative" interval
  if limit.isNull then .error .limitRequired
  else
    let strategy ← constant id interval limit
    pure { strategy with shape := .fixed interval }

def linear (id : Nat) (base cap limit : Value) : Except Fault Strategy := do
  validateBackoff base cap limit (.float 0.0)
  pure (ofShape id limit (.linear base cap))

def exponential (id : Nat) (base multiplier cap jitter limit : Value) : Except Fault Strategy := do
  validateBackoff base cap limit jitter
  refuseBelow 1 "multiplier" ">= 1" multiplier
  pure (ofShape id limit (.exponential base multiplier cap jitter))

def fibonacci (id : Nat) (base cap limit : Value) : Except Fault Strategy := do
  validateBackoff base cap limit (.float 0.0)
  pure (ofShape id limit (.fibonacci base cap))

def table (id : Nat) (delays limit : Value) : Except Fault Strategy := do
  validateLimit limit
  pure (ofShape id limit (.table delays))

end Strategy

/-! ### Defaults -/

/-- The number of attempts after the first one. -/
def defaultMaxAttempts : Int := 3

/-- The delay between two attempts, in seconds. -/
def defaultDelay : Float := 1.0

def defaultMultiplier : Float := 2.0

/-- The statuses of responses that are worth another request. -/
def defaultStatuses : List Int := [429, 500, 502, 503, 504]

def Strategy.ofArguments (cls : StrategyClass) (id : Nat) (arguments : Arguments) :
    Except Fault Strategy :=
  let limit := arguments.get "max_attempts" .null
  let base := arguments.get "base_delay" (.float 1.0)
  let cap := arguments.get "max_delay" .null
  match cls with
  | .fixed => do
    arguments.check "FixedBackoff.__init__" Arguments.receiver [] ["interval", "max_attempts"]
    fixed id (arguments.get "interval" (.float defaultDelay))
      (arguments.get "max_attempts" (.int defaultMaxAttempts))
  | .constant => do
    arguments.check "ConstantBackoff.__init__" Arguments.receiver [] ["delay", "max_attempts"]
    constant id (arguments.get "delay" (.float 1.0)) limit
  | .linear => do
    arguments.check "LinearBackoff.__init__" Arguments.receiver []
      ["base_delay", "max_delay", "max_attempts"]
    linear id base cap limit
  | .exponential => do
    arguments.check "ExponentialBackoff.__init__" Arguments.receiver []
      ["base_delay", "multiplier", "max_delay", "jitter", "max_attempts"]
    exponential id (arguments.get "base_delay" (.float 0.3))
      (arguments.get "multiplier" (.float defaultMultiplier)) cap
      (arguments.get "jitter" (.float 0.0)) limit
  | .fibonacci => do
    arguments.check "FibonacciBackoff.__init__" Arguments.receiver []
      ["base_delay", "max_delay", "max_attempts"]
    fibonacci id base cap limit
  | .table => do
    arguments.check "TableBackoff.__init__" Arguments.receiver ["delays"] ["max_attempts"]
    table id (arguments.get "delays" .null) limit
  | .base => .error .abstractStrategy

end Reattempt
