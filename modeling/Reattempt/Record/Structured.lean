import Reattempt.Arguments
import Reattempt.Record.Writing

/-!
# Telling structured records

A message with further fields is told to a logger with a threshold. The fields may not have the
names that the call itself uses, nor those of the attributes of a record.
-/

namespace Reattempt.Record

def callNames : List String := ["logger", "level", "message"]

/-- The record of a structured message: a fixed moment and place, and the message as it is. -/
def structured (logger : String) (levelName message : Value) (extra : Arguments) : Record where
  logger := .text logger
  levelName
  message
  arguments := .tuple []
  moduleName := .text "structured_logging"
  function := .text "log_structured"
  line := .int 0
  created := .float 0.0
  milliseconds := .float 0.0
  trouble := .null
  extras := extra

/-- Tell a message to a logger: the lines that are written, none if the level is below the
threshold. -/
def tell (logger : String) (threshold : Int) (level message : Value) (extra : Arguments)
    (correlation : Value) : Except Fault (List String) := do
  match extra.find? fun field => callNames.contains field.1 with
  | some (name, _) => .error (.repeatedArgument "log_structured" name)
  | none => pure ()
  match level.number? with
  | some (.whole i) =>
    if 0 < i && threshold ≤ i then
      match extra.find? fun field => reservedNames.contains field.1 with
      | some (name, _) => .error (.overwrittenField name)
      | none =>
        let levelName ← nameOfLevel level
        return [← (structured logger levelName message extra).write correlation]
    else pure []
  | _ => .error .levelNotWhole

end Reattempt.Record
