import Reattempt.Listener
import Reattempt.Scenario.AnswerValue

/-!
# Events

What can be seen of a scenario while it plays, in order: tests that are asked, hooks that are
called, waits, draws, notices, invocations and requests. An event shows values as they were when
it happened.
-/

namespace Reattempt

inductive Event where
  | test (word kind : String)
  | told (listener : AnswerValue) (hook : Hook) (operation : String) (maxAttempts : AnswerValue)
      (payload : Option AnswerValue)
  | sleep (seconds : AnswerValue)
  | customSleep (seconds : AnswerValue)
  | uniform (low high : AnswerValue)
  | notice (logger : String) (level : Int) (message : String) (fields : List (String × AnswerValue))
  | call (operation : String) (count : Nat) (arguments : Option (AnswerValue × AnswerValue))
  | request (method url body : String)

namespace Event

def answer : Event → AnswerValue
  | test word kind => .texts ["predicate", word, kind]
  | told listener hook operation maxAttempts payload =>
    .list ([.text "hook", listener, .text hook.name, .text operation, maxAttempts]
      ++ payload.toList)
  | sleep seconds => .list [.text "sleep", seconds]
  | customSleep seconds => .list [.text "custom_sleep", seconds]
  | uniform low high => .list [.text "uniform", low, high]
  | notice logger level message fields =>
    .list [.text "log", .text logger, .int level, .text message, .record fields]
  | call operation count arguments =>
    .list ([.text "call", .text operation, .int count]
      ++ (match arguments with
          | some (positional, named) => [positional, named]
          | none => []))
  | request method url body => .texts ["request", method, url, body]

end Event

end Reattempt
