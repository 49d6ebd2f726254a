import Reattempt.Policy.Basic

/-!
# Building policies

A builder collects settings and makes a policy of them. Settings of one value keep the last one;
kinds and tests add up.
-/

namespace Reattempt

/-- Settings for a policy; a setting that was not made is absent. -/
structure PolicyBuilder where
  maxAttempts : Value
  delay : Value
  delaySetting : Nat
  multiplier : Value
  maxDelay : Value
  jitter : Value
  backoff : Value
  includes : List Value
  excludes : List Value
  predicates : List Value

namespace PolicyBuilder

def empty : PolicyBuilder :=
  ⟨.int defaultMaxAttempts, .null, 0, .null, .null, .null, .null, [], [], []⟩

inductive Setting where
  | maxAttempts (v : Value)
  | delay (v : Value)
  | multiplier (v : Value)
  | maxDelay (v : Value)
  | jitter (v : Value)
  | backoff (v : Value)
  | includes (kinds : List Value)
  | excludes (kinds : List Value)
  | predicate (v : Value)

def Setting.ofCall (method : String) (values : List Value) : Except Fault Setting :=
  let single (make : Value → Setting) : Except Fault Setting :=
    match values with
    | [v] => .ok (make v)
    | [] => .error (.missingArguments ("RetryPolicyBuilder." ++ method) 1 ("'" ++ method ++ "'"))
    | _ => .error (.extraArguments ("RetryPolicyBuilder." ++ method) 2 (values.length + 1))
  match method with
  | "max_attempts" => single .maxAttempts
  | "delay" => single .delay
  | "multiplier" => single .multiplier
  | "max_delay" => single .maxDelay
  | "jitter" => single .jitter
  | "backoff" => single .backoff
  | "includes" => .ok (.includes values)
  | "excludes" => .ok (.excludes values)
  | "predicate" => single .predicate
  | _ => .error (.missingAttribute "'RetryPolicyBuilder' object" method)

/-- Make a setting. Delays and caps are turned into seconds at once. -/
def apply (builder : PolicyBuilder) (number : Nat) : Setting → Except Fault PolicyBuilder
  | .maxAttempts v => .ok { builder with maxAttempts := v }
  | .delay v => do
    let seconds ← v.toSeconds
    pure { builder with delay := .float seconds, delaySetting := number }
  | .multiplier v => .ok { builder with multiplier := v }
  | .maxDelay v => do
    let seconds ← v.toSeconds
    pure { builder with maxDelay := .float seconds }
  | .jitter v => .ok { builder with jitter := v }
  | .backoff v => .ok { builder with backoff := v }
  | .includes kinds => .ok { builder with includes := builder.includes ++ kinds }
  | .excludes kinds => .ok { builder with excludes := builder.excludes ++ kinds }
  | .predicate v => .ok { builder with predicates := builder.predicates ++ [v] }

/-- The settings that shape delays and were made, by name in alphabetical order. -/
def shaping (builder : PolicyBuilder) : List String :=
  ([("delay", builder.delay), ("jitter", builder.jitter), ("max_delay", builder.maxDelay),
    ("multiplier", builder.multiplier)].filter fun entry => !entry.2.isNull).map Prod.fst

/-- The strategy that the settings ask for: an explicit one, exponential growth when a setting
of it was made, or none. The two cannot be asked for together. -/
def strategy (builder : PolicyBuilder) (id : Nat) (delay : Value) : Except Fault Value :=
  if !builder.backoff.isNull then
    if builder.shaping.isEmpty then .ok builder.backoff
    else .error (.shapedBackoff builder.shaping)
  else if builder.multiplier.isNull && builder.maxDelay.isNull && builder.jitter.isNull then
    .ok .null
  else
    Value.strategy <$> Strategy.exponential id delay
      (if builder.multiplier.isNull then .float defaultMultiplier else builder.multiplier)
      builder.maxDelay
      (if builder.jitter.isTruthy then builder.jitter else .float 0.0)
      builder.maxAttempts

/-- The policy of the settings; the number is for a strategy made for it. -/
def build (builder : PolicyBuilder) (id : Nat) : Except Fault Policy := do
  let delay := if builder.delay.isNull then .float defaultDelay else builder.delay
  let backoff ← builder.strategy id delay
  Policy.make builder.maxAttempts delay
    (if builder.delay.isNull then 0 else builder.delaySetting) backoff
    (.classifier ⟨builder.includes, builder.excludes, builder.predicates⟩)

end PolicyBuilder

end Reattempt
