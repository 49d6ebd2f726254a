import Reattempt.Value.Render

/-!
# Answer values

What an answer shows of a value: plain data as it is, failures and steps as records, and everything
else by its written form.
-/

namespace Reattempt

inductive AnswerValue where
  | null
  | bool (b : Bool)
  | int (i : Int)
  | float (x : Float)
  | text (s : String)
  | list (items : List AnswerValue)
  | tuple (items : List AnswerValue)
  | dict (entries : List (AnswerValue × AnswerValue))
  | response (status : Int)
  | written (text : String)
  | record (fields : List (String × AnswerValue))

namespace AnswerValue

def texts (items : List String) : AnswerValue := list (items.map text)

def fields : AnswerValue → List (String × AnswerValue)
  | record entries => entries
  | _ => []

end AnswerValue

structure Catalogue where
  label : Nat → Option String
  name : Nat → String

def isChained (follows : Option Failure) (cause : Value) : Bool :=
  match follows, cause with
  | none, .null => true
  | some f, .failure g => f.id == g.id
  | _, _ => false

mutual

def Value.answer (catalogue : Catalogue) : Value → AnswerValue
  | .null => .null
  | .bool b => .bool b
  | .int i => .int i
  | .float x => .float x
  | .text s => .text s
  | .list items => .list (answerAll catalogue items)
  | .tuple items => .tuple (answerAll catalogue items)
  | .dict entries => .dict (answerEntries catalogue entries)
  | .failure f => .record (f.answerFields catalogue)
  | .operation id => .text (catalogue.name id)
  | .response status => .response status
  | v => .written v.quote

def Failure.answerFields (catalogue : Catalogue) : Failure → List (String × AnswerValue)
  | ⟨id, kind, args, follows, detail⟩ =>
    [("error", .text kind.name),
        ("message", .text (Failure.message ⟨id, kind, args, none, detail⟩))]
      ++ (match catalogue.label id with
          | some label => [("ref", .text label)]
          | none => [])
      ++ detail.answerFields catalogue follows

def Detail.answerFields (catalogue : Catalogue) (follows : Option Failure) :
    Detail → List (String × AnswerValue)
  | detail@(.exhausted _ cause history operation) =>
    [("cause", cause.answer catalogue), ("history", .list (answerAll catalogue history)),
      ("failures", .int detail.failures.length), ("attempts", .int detail.attempts),
      ("chained", .bool (isChained follows cause)),
      ("retryable", operation.answer catalogue)]
  | .status code => [("status", .int code)]
  | _ => []

def answerAll (catalogue : Catalogue) : List Value → List AnswerValue
  | [] => []
  | v :: rest => v.answer catalogue :: answerAll catalogue rest

def answerEntries (catalogue : Catalogue) : List (Value × Value) → List (AnswerValue × AnswerValue)
  | [] => []
  | entry :: rest => answerEntry catalogue entry :: answerEntries catalogue rest

def answerEntry (catalogue : Catalogue) : Value × Value → AnswerValue × AnswerValue
  | (key, item) => (key.answer catalogue, item.answer catalogue)

end

def Failure.answer (catalogue : Catalogue) (f : Failure) : AnswerValue :=
  .record (f.answerFields catalogue)

end Reattempt
