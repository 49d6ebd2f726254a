import Reattempt.Decimal.Layout
import Reattempt.Failure.Place

/-!
# How values are written

`Value.quote` writes a value so that its type can be told, `Value.display` writes it for a message:
the two differ for text, which stands without quotes in a message, for failures, which stand
there with their message alone, and for lengths of time.
-/

namespace Reattempt

def Shape.className : Shape → String
  | .fixed _ => "FixedBackoff"
  | .constant _ => "ConstantBackoff"
  | .linear .. => "LinearBackoff"
  | .exponential .. => "ExponentialBackoff"
  | .fibonacci .. => "FibonacciBackoff"
  | .table _ => "TableBackoff"

/-- The parameters of a strategy that show, in the order in which they were set. -/
def Shape.attributes : Shape → List (String × Value)
  | .fixed delay | .constant delay => [("delay", delay)]
  | .linear base cap | .fibonacci base cap => [("base_delay", base), ("max_delay", cap)]
  | .exponential base multiplier cap jitter =>
    [("base_delay", base), ("multiplier", multiplier), ("max_delay", cap), ("jitter", jitter)]
  | .table _ => []

def Test.word : Test → String
  | .always _ => "value"
  | .hasText _ => "text"
  | .isOf _ => "isa"
  | .hasNumber _ => "errno"
  | .firstTimes _ => "first"
  | .raises _ => "raise"
  | .transient _ | .transientSilently _ => "http"

namespace Value

def className : Value → String
  | null => "NoneType"
  | bool _ => "bool"
  | int _ => "int"
  | float _ => "float"
  | text _ => "str"
  | list _ => "list"
  | tuple _ => "tuple"
  | dict _ => "dict"
  | set _ => "set"
  | bytes _ => "bytes"
  | duration .. => "timedelta"
  | failure f => f.kind.name
  | kind _ => "type"
  | predicate ⟨_, .transientSilently _⟩ => "partial"
  | predicate _ => "Predicate"
  | strategy s => s.shape.className
  | classifier _ => "ExceptionClassifier"
  | operation _ => "Operation"
  | response _ => "Response"
  | thing typeName _ => typeName

/-- The name of the class as complaints about operands give it. -/
def typeName : Value → String
  | duration .. => "datetime.timedelta"
  | predicate ⟨_, .transientSilently _⟩ => "functools.partial"
  | v => v.className

def owner : Value → String
  | kind k => "type object '" ++ k.name ++ "'"
  | v => "'" ++ v.typeName ++ "' object"

end Value

/-! ### Parts -/

/-- Items between brackets, a lone item of a tuple with a comma. -/
def tupleText : List String → String
  | [item] => "(" ++ item ++ ",)"
  | items => "(" ++ ", ".intercalate items ++ ")"

def recordText (name : String) (fields : List (String × String)) : String :=
  name ++ "(" ++ ", ".intercalate (fields.map fun (key, item) => key ++ "=" ++ item) ++ ")"

def durationQuote (days seconds microseconds : Int) : String :=
  let parts := [("days", days), ("seconds", seconds), ("microseconds", microseconds)].filter
    fun part => part.2 ≠ 0
  if parts.isEmpty then "datetime.timedelta(0)"
  else recordText "datetime.timedelta" (parts.map fun part => (part.1, toString part.2))

def durationText (days seconds microseconds : Int) : String :=
  let total := seconds.toNat
  let clock := toString (total / 3600) ++ ":" ++ Decimal.padded 2 (total / 60 % 60) ++ ":"
    ++ Decimal.padded 2 (total % 60)
  (if days = 0 then ""
   else toString days ++ (if days.natAbs = 1 then " day, " else " days, "))
    ++ clock
    ++ (if microseconds = 0 then "" else "." ++ Decimal.padded 6 microseconds.toNat)

/-! ### Quoting -/

mutual

/-- A value, written so that its type can be told. Limits on the digits of a whole number and on the
depth of nesting are left out. -/
def Value.quote : Value → String
  | .null => "None"
  | .bool b => if b then "True" else "False"
  | .int i => toString i
  | .float x => Decimal.Layout.plain.render x
  | .text s => Text.quoted s
  | .list items => "[" ++ ", ".intercalate (quoteAll items) ++ "]"
  | .tuple items => tupleText (quoteAll items)
  | .dict entries => "\x7b" ++ ", ".intercalate (quoteEntries entries) ++ "\x7d"
  | .set [] => "set()"
  | .set items => "\x7b" ++ ", ".intercalate (quoteAll items) ++ "\x7d"
  | .bytes octets => Text.quotedBytes octets
  | .duration days seconds microseconds => durationQuote days seconds microseconds
  | .failure f => f.quote
  | .kind k => k.quote
  | .predicate p => p.quote
  | .strategy s => s.quote
  | .classifier c => c.quote
  | .operation _ => "<operation>"
  | .response status => "<Response [" ++ toString status ++ "]>"
  | .thing _ written => written

def Failure.quote : Failure → String
  | ⟨_, kind, args, _, _⟩ => kind.name ++ "(" ++ ", ".intercalate (quoteAll args) ++ ")"

/-- A test by its kind; the one of a policy for requests as a function with its statuses. -/
def Predicate.quote : Predicate → String
  | ⟨_, .transientSilently statuses⟩ =>
    "functools.partial(<function is_retryable_http_error>, status_forcelist="
      ++ tupleText (quoteAll statuses) ++ ")"
  | ⟨_, test⟩ => "<predicate " ++ test.word ++ ">"

def Strategy.quote : Strategy → String
  | ⟨_, limit, shape, extras⟩ =>
    recordText shape.className (("max_attempts", limit.quote) :: shape.quoteAttributes
      ++ quoteNamed extras)

def Shape.quoteAttributes : Shape → List (String × String)
  | .fixed delay | .constant delay => [("delay", delay.quote)]
  | .linear base cap | .fibonacci base cap =>
    [("base_delay", base.quote), ("max_delay", cap.quote)]
  | .exponential base multiplier cap jitter =>
    [("base_delay", base.quote), ("multiplier", multiplier.quote), ("max_delay", cap.quote),
      ("jitter", jitter.quote)]
  | .table _ => []

def Classifier.quote : Classifier → String
  | ⟨includes, excludes, predicates⟩ =>
    recordText "ExceptionClassifier"
      [("includes", tupleText (quoteAll includes)), ("excludes", tupleText (quoteAll excludes)),
        ("predicates", tupleText (quoteAll predicates))]

def quoteAll : List Value → List String
  | [] => []
  | v :: rest => v.quote :: quoteAll rest

def quoteEntries : List (Value × Value) → List String
  | [] => []
  | entry :: rest => quoteEntry entry :: quoteEntries rest

def quoteEntry : Value × Value → String
  | (key, item) => key.quote ++ ": " ++ item.quote

def quoteNamed : List (String × Value) → List (String × String)
  | [] => []
  | field :: rest => quoteField field :: quoteNamed rest

def quoteField : String × Value → String × String
  | (name, item) => (name, item.quote)

end

/-! ### Messages -/

/-- The error number of a failure of the system, which only counts with two to five arguments. -/
def Failure.number? (f : Failure) : Option Value :=
  match f.args with
  | number :: _ :: rest => if rest.length ≤ 3 then some number else none
  | _ => none

mutual

/-- A value as it stands in a message. -/
def Value.display : Value → String
  | .text s => s
  | .failure f => f.message
  | .duration days seconds microseconds => durationText days seconds microseconds
  | v => v.quote

/-- The message of a failure. One argument is the message and several are a tuple; a missing key
is quoted, a failure of the system shows its number and its files, a failure of a program its
place, a failure of coding the part of the text, and a group the number of its members. -/
def Failure.message : Failure → String
  | ⟨_, kind, args, _, detail⟩ =>
    match args, detail with
    | [number, reason], .file first second =>
      "[Errno " ++ number.display ++ "] " ++ reason.display ++ ": " ++ first.quote
        ++ (match second with
            | some file => " -> " ++ file.quote
            | none => "")
    | [], _ => if kind.isA Kind.syntaxError then "None" else ""
    | [v], _ => if kind.isA Kind.keyError then v.quote else v.display
    | first :: second :: rest, _ =>
      if kind.isA Kind.osError && rest.length ≤ 3 then
        "[Errno " ++ first.display ++ "] " ++ second.display
      else if kind.isA Kind.syntaxError then
        first.display ++ (Place.ofArguments (first :: second :: rest)).brief
      else if kind.isA Kind.baseExceptionGroup then first.display ++ Failure.groupSize second
      else
        (Failure.codingText? kind (first :: second :: rest)).getD
          (tupleText (quoteAll (first :: second :: rest)))

end

end Reattempt
