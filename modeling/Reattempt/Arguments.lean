import Reattempt.Failure.Fault

/-!
# Named arguments

Settings given by name. A name that is not expected is a fault, as is a setting that is needed and
missing.
-/

namespace Reattempt

/-- Settings by name, in the order in which they were given. -/
abbrev Arguments := List (String × Value)

namespace Arguments

def get (arguments : Arguments) (name : String) (default : Value) : Value :=
  (arguments.lookup name).getD default

/-- Names joined as in a sentence. -/
def enumerate : List String → String
  | [] => ""
  | [name] => name
  | [first, second] => first ++ " and " ++ second
  | names => ", ".intercalate names.dropLast ++ ", and " ++ names.getLast?.getD ""

def requireAll (arguments : Arguments) (function : String) (needed : List String) :
    Except Fault Unit :=
  let missing := needed.filter fun name => (arguments.lookup name).isNone
  if missing.isEmpty then .ok ()
  else .error (.missingArguments function missing.length
    (enumerate (missing.map fun name => "'" ++ name ++ "'")))

/-- The settings of a function that is called with values by position and by name. What the
function gets anyway is taken, and so is what a value by position stands for. -/
def bind (function : String) (taken needed optional : List String) (values : List Value)
    (named : Arguments) : Except Fault Arguments :=
  let names := needed ++ optional
  let placed := names.zip values
  let filled := taken ++ placed.map Prod.fst
  match named.find? fun argument => filled.contains argument.1 || !names.contains argument.1 with
  | some (name, _) =>
    if filled.contains name then .error (.repeatedArgument function name)
    else .error (.unexpectedArgument function name)
  | none =>
    let given := taken.length + values.length
    if values.length ≤ names.length then do
      requireAll (placed ++ named) function needed
      pure (placed ++ named)
    else if optional.isEmpty then
      .error (.extraArguments function (taken.length + needed.length) given)
    else
      .error (.optionalArguments function (taken.length + needed.length)
        (taken.length + names.length) given)

/-- Refuse names outside the expected ones, and the lack of a needed one. -/
def check (arguments : Arguments) (function : String) (taken needed optional : List String) :
    Except Fault Unit := do
  let _ ← bind function taken needed optional [] arguments

/-- The name of what a method is called on. -/
def receiver : List String := ["self"]

end Arguments

end Reattempt
