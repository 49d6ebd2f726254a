import Reattempt.Arguments
import Reattempt.Failure.Make
import Reattempt.Notice
import Reattempt.Task

/-!
# Classification

A classifier decides whether a failure may be retried. The failure has to lie in one of the
included kinds, if there are any, in none of the excluded ones, and has to pass every test; tests
are asked in order, up to the first that rejects.
-/

namespace Reattempt

/-! ### Membership -/

mutual

def Failure.isInstance (f : Failure) : Value → Except Fault Bool
  | .kind k => .ok (f.kind.isA k)
  | .tuple kinds => f.isInstanceOfAny kinds
  | _ => .error .notKinds

def Failure.isInstanceOfAny (f : Failure) : List Value → Except Fault Bool
  | [] => .ok false
  | v :: rest => do
    if ← f.isInstance v then pure true else f.isInstanceOfAny rest

end

/-! ### Matching -/

/-- What a classifier needs from around it. -/
structure Examination (σ : Type) where
  ask : Predicate → Failure → Task σ Value
  tell : Notice → Task σ Unit

namespace Classifier

def logger : String := "aretry.classifier"

section

variable {σ : Type} (examination : Examination σ)

def reject (f : Failure) (reason : String) : Task σ Bool := do
  examination.tell (.debug logger (f.kind.name ++ reason) [])
  pure false

mutual

def accepts (f : Failure) : Classifier → Task σ Bool
  | ⟨includes, excludes, predicates⟩ => do
    if ← Task.ofExcept (if includes.isEmpty then .ok true else f.isInstanceOfAny includes) then
      if ← Task.ofExcept (f.isInstanceOfAny excludes) then
        reject examination f " is in the excluded exception types"
      else passesAll f predicates
    else reject examination f " is not in the included exception types"

/-- Whether a failure passes tests, asked in order up to the first that rejects. -/
def passesAll (f : Failure) : List Value → Task σ Bool
  | [] => pure true
  | v :: rest => do
    if ← satisfies f v then passesAll f rest
    else reject examination f (" rejected by predicate " ++ v.quote)

/-- Whether a failure passes one test. A kind makes a failure of it, if it can, which counts as
passing. -/
def satisfies (f : Failure) : Value → Task σ Bool
  | .predicate p => Value.isTruthy <$> examination.ask p f
  | .kind k => (fun _ => true) <$> Task.ofExcept (Failure.ofArguments 0 k [.failure f])
  | .classifier c => accepts f c
  | v => Task.fault (.cannotCall v.typeName)

end

end

def combine (c d : Classifier) : Classifier :=
  ⟨c.includes ++ d.includes, c.excludes ++ d.excludes, c.predicates ++ d.predicates⟩

def replace (c : Classifier) (changes : Arguments) : Except Fault Classifier := do
  changes.check "ExceptionClassifier.__init__" Arguments.receiver []
    ["includes", "excludes", "predicates"]
  let part (name : String) (present : List Value) : List Value :=
    (changes.get name (.tuple present)).elements?.getD []
  pure ⟨part "includes" c.includes, part "excludes" c.excludes, part "predicates" c.predicates⟩

end Classifier

end Reattempt
