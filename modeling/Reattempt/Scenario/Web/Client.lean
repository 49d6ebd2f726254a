import Reattempt.Request
import Reattempt.Scenario.Stage
import Reattempt.Scenario.Web.Address

/-!
# A client for scenarios

A client that takes prepared responses, in place of a server. It checks the settings, reads the
address and makes the content before it sends anything; each request is counted and seen. The n-th
request gets the n-th response, and the last one repeats.
-/

namespace Reattempt

def Flaw.toFailure (flaw : Flaw) : Failure := .plain 0 Kind.invalidUrl [.text flaw.wording]

structure Outgoing where
  method : String
  address : Address
  body : String

namespace Outgoing

def known : List String :=
  ["content", "data", "files", "json", "params", "headers", "cookies", "auth", "follow_redirects",
    "timeout", "extensions"]

def parameterText : Value → String
  | .bool b => if b then "true" else "false"
  | .null => ""
  | v => v.display

def parameterTexts : Value → List String
  | .list items | .tuple items => items.map parameterText
  | v => [parameterText v]

def parameters : Value → List (String × List String)
  | .dict entries => entries.map fun (name, v) => (name.display, parameterTexts v)
  | .list items | .tuple items =>
    items.filterMap fun item =>
      match item with
      | .list [name, v] | .tuple [name, v] => some (name.display, [parameterText v])
      | _ => none
  | _ => []

/-- An address with the parameters of a request, which replace its query. Without any there is no
query, and without values there is an empty one. -/
def withParameters (settings : Arguments) (address : Address) : Address :=
  match settings.lookup "params" with
  | none | some .null => address
  | some v =>
    address.withQuery
      (if (parameters v).isEmpty then none
       else some (Address.Escape.formOf
        ((parameters v).flatMap fun (name, items) => items.map fun item => (name, item))))

def bodyOf (settings : Arguments) : StageTask String :=
  match settings.get "content" .null with
  | .null => pure ""
  | .text content => pure content
  | .bytes octets => pure ((String.fromUTF8? ⟨octets.toArray⟩).getD "")
  | v =>
    if v.elements?.isSome && v.className ≠ "dict" then pure ""
    else
      Task.raise (.plain 0 Kind.typeError
        [.text ("Unexpected type for 'content', <class '" ++ v.typeName ++ "'>")])

def make (className method url : String) (settings : Arguments) : StageTask Outgoing := do
  Task.ofExcept (settings.check (className ++ ".request") [] [] known)
  match Address.read url with
  | .error flaw => Task.raise flaw.toFailure
  | .ok address =>
    return ⟨method, withParameters settings address.fromRoot, ← bodyOf settings⟩

end Outgoing

/-! ### Responses -/

namespace Response

def statusPhrases : List (Nat × String) :=
  [(400, "Bad Request"), (401, "Unauthorized"), (402, "Payment Required"), (403, "Forbidden"),
    (404, "Not Found"), (405, "Method Not Allowed"), (406, "Not Acceptable"),
    (407, "Proxy Authentication Required"), (408, "Request Timeout"), (409, "Conflict"),
    (410, "Gone"), (411, "Length Required"), (412, "Precondition Failed"),
    (413, "Request Entity Too Large"), (414, "Request-URI Too Long"),
    (415, "Unsupported Media Type"), (416, "Requested Range Not Satisfiable"),
    (417, "Expectation Failed"), (418, "I'm a teapot"), (421, "Misdirected Request"),
    (422, "Unprocessable Entity"), (423, "Locked"), (424, "Failed Dependency"),
    (425, "Too Early"), (426, "Upgrade Required"), (428, "Precondition Required"),
    (429, "Too Many Requests"), (431, "Request Header Fields Too Large"),
    (451, "Unavailable For Legal Reasons"), (500, "Internal Server Error"),
    (501, "Not Implemented"), (502, "Bad Gateway"), (503, "Service Unavailable"),
    (504, "Gateway Timeout"), (505, "HTTP Version Not Supported"),
    (506, "Variant Also Negotiates"), (507, "Insufficient Storage"), (508, "Loop Detected"),
    (510, "Not Extended"), (511, "Network Authentication Required")]

def statusPhrase (status : Int) : String :=
  ((statusPhrases.find? fun entry => (entry.1 : Int) == status).map Prod.snd).getD ""

def statusClass (status : Int) : String :=
  if status / 100 = 4 then "Client error"
  else if status / 100 = 5 then "Server error"
  else "Invalid status code"

def statusMessage (status : Int) (url : String) : String :=
  statusClass status ++ " '" ++ toString status ++ " " ++ statusPhrase status ++ "' for url '"
    ++ url ++ "'\nFor more information check: "
    ++ "https://developer.mozilla.org/en-US/docs/Web/HTTP/Status/"
    ++ toString status

def prepared (status : Int) (url : String) : Response Stage :=
  ⟨.response status, status, Task.raise (.ofStatus 0 (statusMessage status url) status)⟩

end Response

/-! ### The client -/

/-- A client of a class that takes prepared responses, and counts requests under a number. An
address that does not say where to go fails after the response. -/
def Client.prepared (className : String) (id : Nat) (responses : List (StageTask Int)) :
    Client Stage := fun method url settings => do
  let out ← Outgoing.make className method url settings
  let written := out.address.write
  StageTask.changeOperation id fun enrolment => { enrolment with calls := enrolment.calls + 1 }
  StageTask.record (.request out.method written out.body)
  let count ← Task.gets (Stage.callsOf id)
  let status ← responses[min count responses.length - 1]?.getD (pure 200)
  if out.address.isAbsolute then pure (.prepared status written)
  else Task.raise (.plain 0 Kind.valueError [.text ("unknown url type: " ++ Text.quoted written)])

end Reattempt
