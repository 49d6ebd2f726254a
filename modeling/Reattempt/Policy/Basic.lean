import Reattempt.Backoff.Cursor
import Reattempt.Classifier

/-!
# Policies

A policy says how often an operation is tried again, how long to wait in between, and after which
failures. Policies do not change: `Policy.replace` and `Policy.merge` make new ones, checked like
any other.
-/

namespace Reattempt

/-- A policy. An explicit strategy counts before the delay, and its limit before the number of
attempts. -/
structure Policy where
  /-- Attempts after the first one. -/
  maxAttempts : Int
  delay : Value
  /-- The setting that the delay comes from, by number: two delays that are no numbers are equal
  only when they come from one setting. -/
  delaySetting : Nat
  backoff : Value
  classifier : Value

namespace Policy

def make (maxAttempts delay : Value) (delaySetting : Nat) (backoff classifier : Value) :
    Except Fault Policy := do
  let attempts ← validatePolicy maxAttempts delay
  pure ⟨attempts, delay, delaySetting, backoff, classifier⟩

def default : Policy :=
  ⟨defaultMaxAttempts, .float defaultDelay, 0, .null, .classifier .all⟩

instance : Inhabited Policy := ⟨default⟩

def fieldNames : List String := ["max_attempts", "delay", "backoff", "classifier"]

/-- A policy with some fields replaced, checked again. A delay that is given comes from the
setting of the number. -/
def replace (policy : Policy) (setting : Nat) (changes : Arguments) : Except Fault Policy := do
  changes.check "RetryPolicy.__init__" Arguments.receiver [] fieldNames
  make (changes.get "max_attempts" (.int policy.maxAttempts)) (changes.get "delay" policy.delay)
    (if (changes.lookup "delay").isSome then setting else policy.delaySetting)
    (changes.get "backoff" policy.backoff) (changes.get "classifier" policy.classifier)

/-- A policy with those fields replaced that are given a value. No call gives an override with the
name `Arguments.receiver`; here it is a name like any other. -/
def merge (policy : Policy) (setting : Nat) (overrides : Arguments) : Except Fault Policy :=
  policy.replace setting (overrides.filter fun override => !override.2.isNull)

def ofArguments (setting : Nat) (fields : Arguments) : Except Fault Policy :=
  default.replace setting fields

/-- The strategy of a policy: the explicit one, or the same delay as often as the policy allows. -/
def strategy (policy : Policy) (id : Nat) : Except Fault Value :=
  if policy.backoff.isNull then
    Value.strategy <$> Strategy.fixed id policy.delay (.int policy.maxAttempts)
  else .ok policy.backoff

def start (policy : Policy) : Except Fault Cursor := do
  match ← policy.strategy 0 with
  | .strategy s => pure (s.start (.int policy.maxAttempts))
  | v => .error (.missingAttribute v.owner "start")

def accepts {σ : Type} (examination : Examination σ) (policy : Policy) (f : Failure) :
    Task σ Bool :=
  match policy.classifier with
  | .classifier c => c.accepts examination f
  | v => Task.fault (.missingAttribute v.owner "matches")

def sameDelay (p q : Policy) : Bool :=
  p.delay.equals q.delay || p.delaySetting == q.delaySetting

def equals (p q : Policy) : Bool :=
  p.maxAttempts == q.maxAttempts && p.sameDelay q && p.backoff.equals q.backoff
    && p.classifier.equals q.classifier

def quote (policy : Policy) : String :=
  recordText "RetryPolicy" [("max_attempts", toString policy.maxAttempts),
    ("delay", policy.delay.quote), ("backoff", policy.backoff.quote),
    ("classifier", policy.classifier.quote)]

end Policy

end Reattempt
