import Reattempt.Scenario.Build

/-!
# Script objects

The things that a script works with: values, among them strategies and classifiers, policies,
builders and cursors. An object has attributes, which can be set where they are not a policy's or a
classifier's.
-/

namespace Reattempt

inductive ScriptObject where
  | value (v : Value)
  | policy (p : Policy)
  | builder (b : PolicyBuilder) (extras : List (String × Value))
  /-- A cursor over any object, with whatever its parts were set to. -/
  | cursor (strategy : ScriptObject) (limit attempts : Value) (extras : List (String × Value))

abbrev Attributes := List (String × Value)

def Attributes.put (name : String) (v : Value) (attributes : Attributes) : Attributes :=
  Stage.insertAt name v attributes

namespace Strategy

def attributes (s : Strategy) : Attributes :=
  ("max_attempts", s.limit) :: s.shape.attributes ++ s.extras

def setParameter? (shape : Shape) (name : String) (v : Value) : Option Shape :=
  match shape, name with
  | .fixed _, "delay" => some (.fixed v)
  | .constant _, "delay" => some (.constant v)
  | .linear _ cap, "base_delay" => some (.linear v cap)
  | .linear base _, "max_delay" => some (.linear base v)
  | .fibonacci _ cap, "base_delay" => some (.fibonacci v cap)
  | .fibonacci base _, "max_delay" => some (.fibonacci base v)
  | .exponential _ multiplier cap jitter, "base_delay" =>
    some (.exponential v multiplier cap jitter)
  | .exponential base _ cap jitter, "multiplier" => some (.exponential base v cap jitter)
  | .exponential base multiplier _ jitter, "max_delay" =>
    some (.exponential base multiplier v jitter)
  | .exponential base multiplier cap _, "jitter" => some (.exponential base multiplier cap v)
  | _, _ => none

/-- A strategy with an attribute set. The interval of a fixed strategy cannot be set. -/
def setAttribute (s : Strategy) (name : String) (v : Value) : Except Fault Strategy :=
  match s.shape, name with
  | .fixed _, "interval" => .error (.noSetter name s.shape.className)
  | _, "max_attempts" => .ok { s with limit := v }
  | _, _ =>
    match setParameter? s.shape name v with
    | some shape => .ok { s with shape }
    | none => .ok { s with extras := Attributes.put name v s.extras }

end Strategy

namespace PolicyBuilder

def attributes (b : PolicyBuilder) : Attributes :=
  [("_max_attempts", b.maxAttempts), ("_delay", b.delay), ("_multiplier", b.multiplier),
    ("_max_delay", b.maxDelay), ("_jitter", b.jitter), ("_backoff", b.backoff),
    ("_includes", .list b.includes), ("_excludes", .list b.excludes),
    ("_predicates", .list b.predicates)]

def setAttribute? (b : PolicyBuilder) (setting : Nat) (name : String) (v : Value) :
    Option PolicyBuilder :=
  match name, v with
  | "_max_attempts", _ => some { b with maxAttempts := v }
  | "_delay", _ => some { b with delay := v, delaySetting := setting }
  | "_multiplier", _ => some { b with multiplier := v }
  | "_max_delay", _ => some { b with maxDelay := v }
  | "_jitter", _ => some { b with jitter := v }
  | "_backoff", _ => some { b with backoff := v }
  | "_includes", .list kinds => some { b with includes := kinds }
  | "_excludes", .list kinds => some { b with excludes := kinds }
  | "_predicates", .list tests => some { b with predicates := tests }
  | _, _ => none

end PolicyBuilder

namespace ScriptObject

/-! ### Cursors -/

def ofCursor (c : Cursor) : ScriptObject :=
  cursor (.value (.strategy c.strategy)) c.limit (.int c.attempts) []

def cursor? : ScriptObject → Option Cursor
  | cursor (.value (.strategy s)) limit (.int (.ofNat attempts)) _ => some ⟨s, limit, attempts⟩
  | _ => none

/-! ### What objects show -/

def typeName : ScriptObject → String
  | value v => v.typeName
  | policy _ => "RetryPolicy"
  | builder .. => "RetryPolicyBuilder"
  | cursor .. => "BackoffExecution"

def owner : ScriptObject → String
  | value v => v.owner
  | object => "'" ++ object.typeName ++ "' object"

def missing (object : ScriptObject) (name : String) : Fault := .missingAttribute object.owner name

def quote : ScriptObject → String
  | value v => v.quote
  | policy p => p.quote
  | builder .. => "<aretry.policy.RetryPolicyBuilder object>"
  | cursor strategy limit attempts _ =>
    recordText "BackoffExecution" [("strategy", strategy.quote),
      ("attempts", attempts.display), ("max_attempts", limit.display)]

def answer (catalogue : Catalogue) : ScriptObject → AnswerValue
  | value v => v.answer catalogue
  | object => .written object.quote

def attributes : ScriptObject → List (String × ScriptObject)
  | value v =>
    values
      (match v with
       | .strategy s => s.attributes
       | .classifier c =>
         [("includes", .tuple c.includes), ("excludes", .tuple c.excludes),
           ("predicates", .tuple c.predicates)]
       | .failure f =>
         ("args", .tuple f.args) ::
           (if f.kind.isA Kind.osError then [("errno", f.number?.getD .null)] else [])
       | _ => [])
  | policy p =>
    values [("max_attempts", .int p.maxAttempts), ("delay", p.delay), ("backoff", p.backoff),
      ("classifier", p.classifier)]
  | builder b extras => values (b.attributes ++ extras)
  | cursor strategy limit attempts extras =>
    ("strategy", strategy) :: values ([("max_attempts", limit), ("attempts", attempts)] ++ extras)
where
  values (entries : Attributes) : List (String × ScriptObject) :=
    entries.map fun (name, v) => (name, value v)

/-- Set an attribute; a delay that is set comes from the setting of the number. -/
def set (object : ScriptObject) (setting : Nat) (name : String) (v : Value) : Except Fault ScriptObject :=
  match object with
  | value (.strategy s) => (fun t => value (.strategy t)) <$> s.setAttribute name v
  | value (.classifier _) | policy _ => .error (.frozenField name)
  | builder b extras =>
    match b.setAttribute? setting name v with
    | some b => .ok (builder b extras)
    | none => .ok (builder b (Attributes.put name v extras))
  | cursor strategy limit attempts extras =>
    match name with
    | "strategy" => .ok (cursor (value v) limit attempts extras)
    | "max_attempts" => .ok (cursor strategy v attempts extras)
    | "attempts" => .ok (cursor strategy limit v extras)
    | _ => .ok (cursor strategy limit attempts (Attributes.put name v extras))
  | value _ => .error (object.missing name)

/-! ### Strategies inside objects -/

def refreshValue (s : Strategy) : Value → Value
  | .strategy t => if t.id == s.id then .strategy s else .strategy t
  | v => v

def refresh (s : Strategy) : ScriptObject → ScriptObject
  | value v => value (refreshValue s v)
  | policy p => policy { p with backoff := refreshValue s p.backoff }
  | builder b extras => builder { b with backoff := refreshValue s b.backoff } extras
  | cursor strategy limit attempts extras => cursor (strategy.refresh s) limit attempts extras

/-- Whether two objects with their numbers are equal. Builders and cursors are only equal to
themselves. -/
def equals (number other : Nat) : ScriptObject → ScriptObject → Bool
  | value v, value w => v.equals w
  | policy p, policy q => p.equals q
  | builder .., builder .. | cursor .., cursor .. => number == other
  | _, _ => false

/-- Whole numbers that are the same one wherever they come from. -/
def isSmall (i : Int) : Bool := -5 ≤ i && i ≤ 256

def isSame (number other : Nat) : ScriptObject → ScriptObject → Bool
  | value .null, value .null => true
  | value (.bool b), value (.bool c) => b == c
  | value (.int i), value (.int j) => number == other || i == j && isSmall i
  | value (.strategy s), value (.strategy t) => s.id == t.id
  | _, _ => number == other

end ScriptObject

end Reattempt
