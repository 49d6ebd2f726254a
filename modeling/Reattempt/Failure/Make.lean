import Reattempt.Value.Arithmetic

/-!
# Making failures

How a failure comes from its arguments. A failure of the system with an error number is of the
kind of that number, and keeps the file it is about apart from its arguments. Failures of programs
and of coding, groups of failures and failures of requests ask for arguments of a certain form. The
failure that ends an execution carries the failures before it.
-/

namespace Reattempt.Failure

/-! ### Failures of the system -/

/-- The kind that an error number stands for; only the general kind becomes narrower. -/
def narrowed (kind : Kind) (number : Value) : Kind :=
  if kind.same Kind.osError then
    (number.number?.bind fun n => n.integer?.bind Kind.ofErrorNumber?).getD kind
  else kind

/-- The file among the arguments of a failure of the system. A blocked operation may give a
number in its place, which stays an argument. -/
def fileOf (kind : Kind) (args : List Value) : Except Fault (Option Value) :=
  match args[2]? with
  | some file =>
    if file.isNull then .ok none
    else if kind.same Kind.blockingIOError && file.number?.isSome then
      match file.toSize with
      | .ok _ => .ok none
      | .error (.wordTooSmall _) => .error (.indexTooLarge true)
      | .error fault => .error fault
    else .ok (some file)
  | none => .ok none

def ofSystem (id : Nat) (kind : Kind) (args : List Value) : Except Fault Failure := do
  if 2 ≤ args.length && args.length ≤ 5 then
    let kind := narrowed kind (args.headD .null)
    match ← fileOf kind args with
    | some file =>
      pure ⟨id, kind, args.take 2, none, .file file ((args[4]?).filter fun v => !v.isNull)⟩
    | none => pure (.plain id kind args)
  else pure (.plain id kind args)

/-! ### Arguments of a certain form -/

def argumentType (v : Value) : String := if v.isNull then "None" else v.typeName

def checkText (function : String) (index : Nat) (v : Value) : Except Fault Unit :=
  match v with
  | .text _ => .ok ()
  | _ => .error (.argumentNotText function index (argumentType v))

def checkBytes (v : Value) : Except Fault Unit :=
  match v with
  | .bytes _ => .ok ()
  | _ => .error (.notBytes v.typeName)

/-- The arguments of a failure to decode: the coding, the octets, the part of them and a reason. -/
def checkDecoding : List Value → Except Fault Unit
  | [encoding, octets, start, stop, reason] => do
    checkText "" 1 encoding
    discard start.toSize
    discard stop.toSize
    checkText "" 5 reason
    checkBytes octets
  | args => .error (.wrongCount "function" "exactly" 5 args.length)

def checkEncoding : List Value → Except Fault Unit
  | [encoding, text, start, stop, reason] => do
    checkText "" 1 encoding
    checkText "" 2 text
    discard start.toSize
    discard stop.toSize
    checkText "" 5 reason
  | args => .error (.wrongCount "function" "exactly" 5 args.length)

def checkTranslating : List Value → Except Fault Unit
  | [text, start, stop, reason] => do
    checkText "" 1 text
    discard start.toSize
    discard stop.toSize
    checkText "" 4 reason
  | args => .error (.wrongCount "function" "exactly" 4 args.length)

/-- The arguments of a failure of a program: a message and a place, which has four parts or
six. -/
def checkPlace : List Value → Except Fault Unit
  | [_, info] => do
    let parts ← info.items?
    if parts.length < 4 then .error (.wrongCount "function" "at least" 4 parts.length)
    else if 6 < parts.length then .error (.wrongCount "function" "at most" 6 parts.length)
    else if parts.length = 5 then .error .endColumnRequired
    else pure ()
  | _ => .ok ()

/-- The only argument of a failure of a request, besides the failure itself. -/
def checkRequest (kind : Kind) (args : List Value) : Except Fault Unit :=
  let name := if kind.isA Kind.requestError then Kind.requestError.name else kind.name
  match args with
  | [_] => .ok ()
  | [] => .error (.missingArguments (name ++ ".__init__") 1 "'message'")
  | _ => .error (.extraArguments (name ++ ".__init__") 2 (args.length + 1))

/-! ### Groups -/

/-- The members of a group, given by a sequence that is not empty. -/
def membersOf : Value → Except Fault (List Value)
  | .list items | .tuple items => .ok items
  | .text s => .ok (s.toList.map fun c => .text c.toString)
  | .bytes octets => .ok (octets.map fun o => .int o.toNat)
  | _ => .error .membersNotSequence

def checkMembers : (index : Nat) → List Value → Except Fault Unit
  | _, [] => .ok ()
  | index, .failure _ :: rest => checkMembers (index + 1) rest
  | index, _ :: _ => .error (.memberNotFailure index)

def isOrdinaryMember : Value → Bool
  | .failure f => f.isOrdinary
  | _ => false

/-- A group of failures. With ordinary members alone it is an ordinary failure. -/
def ofMembers (id : Nat) (kind : Kind) (args : List Value) : Except Fault Failure :=
  let function := "BaseExceptionGroup.__new__()"
  match args with
  | [message, group] => do
    checkText (function ++ " ") 1 message
    let members ← membersOf group
    if members.isEmpty then .error .membersEmpty
    else
      checkMembers 0 members
      if members.all isOrdinaryMember then pure (.plain id Kind.exceptionGroup args)
      else if kind.same Kind.exceptionGroup then .error .memberNotOrdinary
      else pure (.plain id kind args)
  | _ => .error (.wrongCount function "exactly" 2 args.length)

/-! ### The end of an execution -/

/-- The failure that ends an execution, from values of any type. The history is gone through once,
and the cause has to be a failure or absent. -/
def exhaustedWith (id : Nat) (kind : Kind) (message cause history operation : Value) :
    Except Fault Failure := do
  let items ← history.items?
  let failure (follows : Option Failure) : Failure :=
    ⟨id, kind, [message], follows, .exhausted message cause items operation⟩
  match cause with
  | .failure f => pure (failure (some f))
  | .null => pure (failure none)
  | _ => .error .causeNotFailure

def ofPositions (id : Nat) (kind : Kind) (args : List Value) : Except Fault Failure :=
  let function := "RetryError.__init__"
  match args with
  | [] => .error (.missingArguments function 2 "'message' and 'cause'")
  | [_] => .error (.missingArguments function 1 "'cause'")
  | [message, cause] => exhaustedWith id kind message cause (.tuple []) .null
  | [message, cause, history] => exhaustedWith id kind message cause history .null
  | [message, cause, history, operation] => exhaustedWith id kind message cause history operation
  | _ => .error (.optionalArguments function 3 5 (args.length + 1))

/-! ### All kinds -/

def ofStatus (id : Nat) (text : String) (code : Int) : Failure :=
  ⟨id, Kind.httpStatusError, [.text text], none, .status code⟩

def checked (id : Nat) (kind : Kind) (args : List Value)
    (check : List Value → Except Fault Unit) : Except Fault Failure := do
  check args
  pure (.plain id kind args)

def ofArguments (id : Nat) (kind : Kind) (args : List Value) : Except Fault Failure :=
  if kind.isA Kind.exhausted then ofPositions id kind args
  else if kind.isA Kind.osError then ofSystem id kind args
  else if kind.isA Kind.baseExceptionGroup then ofMembers id kind args
  else if kind.isA Kind.syntaxError then checked id kind args checkPlace
  else if kind.isA Kind.unicodeDecodeError then checked id kind args checkDecoding
  else if kind.isA Kind.unicodeEncodeError then checked id kind args checkEncoding
  else if kind.isA Kind.unicodeTranslateError then checked id kind args checkTranslating
  else if kind.isA Kind.httpStatusError && args.length = 1 then .error .responseRequired
  else if kind.home == Kind.httpError.home then checked id kind args (checkRequest kind)
  else .ok (.plain id kind args)

def following (f : Failure) (cause : Option Failure) : Failure :=
  match cause with
  | some _ => { f with cause }
  | none => f

end Reattempt.Failure
