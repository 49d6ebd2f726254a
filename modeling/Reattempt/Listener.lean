import Reattempt.Notice

/-!
# Listeners

Listeners are told four kinds of occasions of an execution. A composite passes an occasion on to
its members in order; a growing composite keeps its members in the state, so that members can be
added while an occasion is passed on, and those added late are told too.

A logging listener turns every occasion into a notice at its level. The end of an execution is
told at the level of warnings at least.
-/

namespace Reattempt

inductive Occasion where
  | beforeRetry
  | retrySuccess (result : Value)
  | retryFailure (f : Failure)
  | exhaustion (f : Failure)

inductive Hook where
  | beforeRetry
  | retrySuccess
  | retryFailure
  | exhaustion
  deriving DecidableEq, Repr

namespace Hook

def name : Hook → String
  | beforeRetry => "before_retry"
  | retrySuccess => "on_retry_success"
  | retryFailure => "on_retry_failure"
  | exhaustion => "on_retry_policy_exhaustion"

def all : List Hook := [beforeRetry, retrySuccess, retryFailure, exhaustion]

def named? (s : String) : Option Hook := all.find? fun hook => hook.name = s

/-- The name of what a hook is given besides the policy and the operation. -/
def payloadName? : Hook → Option String
  | beforeRetry => none
  | retrySuccess => some "result"
  | retryFailure | exhaustion => some "exc"

end Hook

namespace Occasion

def hook : Occasion → Hook
  | beforeRetry => .beforeRetry
  | retrySuccess _ => .retrySuccess
  | retryFailure _ => .retryFailure
  | exhaustion _ => .exhaustion

def payload? : Occasion → Option Value
  | beforeRetry => none
  | retrySuccess result => some result
  | retryFailure f | exhaustion f => some (.failure f)

end Occasion

inductive Listener (ℓ : Type) where
  | leaf (l : ℓ)
  | composite (members : List (Listener ℓ))
  /-- A composite whose members are kept in the state under a number. -/
  | growing (id : Nat)

namespace Listener

variable {σ ℓ : Type}

def silent : Listener ℓ := .composite []

mutual

/-- Visit a listener: its leaves in order, and its growing composites as a whole. -/
def visit (leaf : ℓ → Task σ Unit) (grown : Nat → Task σ Unit) : Listener ℓ → Task σ Unit
  | .leaf l => leaf l
  | .composite members => visitAll leaf grown members
  | .growing id => grown id

def visitAll (leaf : ℓ → Task σ Unit) (grown : Nat → Task σ Unit) :
    List (Listener ℓ) → Task σ Unit
  | [] => pure ()
  | l :: rest => do
    visit leaf grown l
    visitAll leaf grown rest

end

/-- Visit the members of a growing composite from a position on. The members are looked up again
after each visit, so that late ones are not missed. -/
def walk (visitMember : Listener ℓ → Task σ Unit) (members : σ → List (Listener ℓ)) :
    (patience position : Nat) → Task σ Unit
  | 0, _ => Task.escape .unfinished
  | patience + 1, position => do
    match (← Task.gets members)[position]? with
    | none => pure ()
    | some l =>
      visitMember l
      walk visitMember members patience (position + 1)

/-- Tell every leaf of a listener, in order. Growing composites may hold each other up to a
depth. -/
def dispatch (leaf : ℓ → Task σ Unit) (members : Nat → σ → List (Listener ℓ)) (patience : Nat) :
    (depth : Nat) → Listener ℓ → Task σ Unit
  | 0 => fun _ => Task.escape .unfinished
  | depth + 1 => visit leaf fun id =>
    walk (dispatch leaf members patience depth) (members id) patience 0

mutual

/-- The leaves of a listener in order; growing composites are looked up. -/
def leaves (grown : Nat → List ℓ) : Listener ℓ → List ℓ
  | .leaf l => [l]
  | .composite members => leavesAll grown members
  | .growing id => grown id

def leavesAll (grown : Nat → List ℓ) : List (Listener ℓ) → List ℓ
  | [] => []
  | l :: rest => leaves grown l ++ leavesAll grown rest

end

end Listener

namespace LoggingListener

def defaultLogger : String := "aretry.listener"

/-- What a hook was given, as its kind and its message. -/
def describe (v : Value) : String := v.className ++ ": " ++ v.display

def text (operation : String) (hook : Hook) (payload : Value) : String :=
  match hook with
  | .beforeRetry => "Retrying operation '" ++ operation ++ "'"
  | .retrySuccess => "Retry of operation '" ++ operation ++ "' succeeded"
  | .retryFailure => "Retry of operation '" ++ operation ++ "' failed: " ++ describe payload
  | .exhaustion =>
    "Retry policy for operation '" ++ operation ++ "' exhausted: " ++ describe payload

def levelFor (level : Value) : Hook → Except Fault Value
  | .exhaustion => level.larger (.int Notice.warningLevel)
  | _ => .ok level

/-- The notice about what a hook was given. A level that is no whole number is a fault. -/
def notice (logger : String) (level : Value) (operation : String) (hook : Hook)
    (payload : Value) : Except Fault Notice := do
  match (← levelFor level hook).whole? with
  | some i => pure (.about operation logger i (text operation hook payload))
  | none => .error .levelNotWhole

end LoggingListener

end Reattempt
