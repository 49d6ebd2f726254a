import Reattempt.Arguments
import Reattempt.Value.Arithmetic

/-!
# Validation

The bounds that parameters of policies and strategies keep. A bound is checked by comparing, so a
value without an order to the bound is a fault of its own.
-/

namespace Reattempt

def refuseWhen (comparison : Comparison) (bound : Int) (parameter rule : String) (v : Value) :
    Except Fault Unit := do
  if ← v.compareBy comparison (.int bound) then
    .error (.outOfBounds parameter rule v.display)

def refuseBelow (bound : Int) : (parameter rule : String) → Value → Except Fault Unit :=
  refuseWhen .below bound

def unlessNull (check : Value → Except Fault Unit) (v : Value) : Except Fault Unit :=
  if v.isNull then .ok () else check v

/-- The whole number that counts attempts; a truth value is refused. -/
def wholeAttempts : Value → Except Fault Int
  | .int i => .ok i
  | v => .error (.attemptsNotWhole v.quote)

def validatePolicy (maxAttempts delay : Value) : Except Fault Int := do
  let attempts ← wholeAttempts maxAttempts
  refuseBelow 1 "max_attempts" ">= 1" maxAttempts
  refuseBelow 0 "delay" ">= 0" delay
  pure attempts

def validateLimit (limit : Value) : Except Fault Unit :=
  unlessNull (refuseBelow 0 "max_attempts" "non-negative if specified") limit

def validateBackoff (base cap limit jitter : Value) : Except Fault Unit := do
  refuseBelow 0 "base_delay" "non-negative" base
  unlessNull (refuseWhen .atMost 0 "max_delay" "positive if specified") cap
  validateLimit limit
  refuseBelow 0 "jitter" "non-negative" jitter

def validatePolicyArguments (arguments : Arguments) : Except Fault Unit := do
  arguments.check "validate_policy_params" [] ["max_attempts", "delay"] []
  let _ ← validatePolicy (arguments.get "max_attempts" .null) (arguments.get "delay" .null)

def validateBackoffArguments (arguments : Arguments) : Except Fault Unit := do
  arguments.check "validate_backoff_params" [] ["base_delay"]
    ["max_delay", "max_attempts", "jitter"]
  validateBackoff (arguments.get "base_delay" .null) (arguments.get "max_delay" .null)
    (arguments.get "max_attempts" .null) (arguments.get "jitter" (.float 0.0))

end Reattempt
