import Reattempt.Failure.Make
import Reattempt.Record.Percent
import Reattempt.Record.Report
import Reattempt.Record.Timestamp

/-!
# Log records

A record says where and when something was told, and carries further fields. Its attributes may
be overwritten by fields of the same name. `Record.fields` lists what is written of a record: its
standard fields first, the further fields after them in their order, each in place of a standard
field of its name if there is one.
-/

namespace Reattempt

structure Record where
  logger : Value
  levelName : Value
  message : Value
  /-- What is filled into the message: nothing, several values, or one mapping. -/
  arguments : Value
  moduleName : Value
  function : Value
  line : Value
  created : Value
  milliseconds : Value
  /-- What went wrong, told by a kind, a failure and a place; what counts as false tells nothing. -/
  trouble : Value
  extras : List (String × Value)

namespace Record

/-! ### Parts of a record -/

def namedLevels : List (Int × String) :=
  [(0, "NOTSET"), (10, "DEBUG"), (20, "INFO"), (30, "WARNING"), (40, "ERROR"), (50, "CRITICAL")]

def levelsOfNames : List (String × Int) :=
  namedLevels.map Prod.swap ++ [("FATAL", 50), ("WARN", 30)]

/-- The name of a level. The name of a level stands for its number, and a level without a name is
shown by itself. -/
def nameOfLevel (level : Value) : Except Fault Value := do
  level.checkKey
  match namedLevels.find? fun entry => level.equals (.int entry.1) with
  | some (_, name) => pure (.text name)
  | none =>
    match levelsOfNames.find? fun entry => level.equals (.text entry.1) with
    | some (_, number) => pure (.int number)
    | none => .text <$> Percent.format "Level %s" level

def moduleOf : Value → Value
  | .text path => .text (Text.withoutExtension (Text.baseName path))
  | .bytes octets =>
    let path := String.ofList (octets.map fun o => Char.ofNat o.toNat)
    let name := Text.withoutExtension (Text.baseName path)
    .bytes (name.toList.map fun c => UInt8.ofNat c.toNat)
  | _ => .text "Unknown module"

/-- Arguments as a record keeps them: a lone mapping with entries stands for itself. -/
def argumentsOf : List Value → Value
  | [.dict (entry :: entries)] => .dict (entry :: entries)
  | items => .tuple items

/-! ### Attributes and further fields -/

def attributeNames : List String :=
  ["name", "msg", "args", "levelname", "levelno", "pathname", "filename", "module", "exc_info",
    "exc_text", "stack_info", "lineno", "funcName", "created", "msecs", "relativeCreated",
    "thread", "threadName", "processName", "process"]

def reservedNames : List String := attributeNames ++ ["message", "asctime"]

def putField (name : String) (v : Value) : List (String × Value) → List (String × Value)
  | [] => [(name, v)]
  | (other, old) :: rest =>
    if other = name then (name, v) :: rest else (other, old) :: putField name v rest

/-- Attach a field. The name of an attribute overwrites the attribute. -/
def attach (record : Record) (name : String) (v : Value) : Record :=
  match name with
  | "name" => { record with logger := v }
  | "msg" => { record with message := v }
  | "args" => { record with arguments := v }
  | "levelname" => { record with levelName := v }
  | "module" => { record with moduleName := v }
  | "lineno" => { record with line := v }
  | "funcName" => { record with function := v }
  | "created" => { record with created := v }
  | "msecs" => { record with milliseconds := v }
  | "exc_info" => { record with trouble := v }
  | _ => { record with extras := putField name v record.extras }

def attachAll (record : Record) (fields : List (String × Value)) : Record :=
  fields.foldl (fun record field => record.attach field.1 field.2) record

/-! ### What is written -/

/-- The further field that stands in for the making of the message. -/
def messageMaker : String := "getMessage"

/-- What a call of a value without arguments gives; only kinds can be called. -/
def callWithout (v : Value) : Except Fault Value :=
  match v with
  | .kind k => .failure <$> Failure.ofArguments 0 k []
  | _ => .error (.cannotCall v.typeName)

def text (record : Record) : Except Fault Value :=
  match record.extras.lookup messageMaker with
  | some v => callWithout v
  | none =>
    if record.arguments.isTruthy then
      .text <$> Percent.format record.message.display record.arguments
    else .ok (.text record.message.display)

def standardFields (record : Record) : Except Fault (List (String × Value)) := do
  let timestamp ← Timestamp.text record.created record.milliseconds
  let message ← record.text
  pure [("timestamp", .text timestamp), ("level", record.levelName), ("logger", record.logger),
    ("message", message), ("module", record.moduleName), ("function", record.function),
    ("line", record.line)]

/-- The fields that a record has at times: the correlation id of its context, and what went
wrong. -/
def occasionalFields (record : Record) (correlation : Value) :
    Except Fault (List (String × Value)) := do
  let trouble ←
    if record.trouble.isTruthy then pure [("exception", .text (← Trouble.text record.trouble))]
    else pure []
  pure ((if correlation.isNull then [] else [("correlation_id", correlation)]) ++ trouble)

def furtherFields (record : Record) : List (String × Value) :=
  record.extras.filter fun field => !reservedNames.contains field.1

def fields (record : Record) (correlation : Value) : Except Fault (List (String × Value)) := do
  let standard ← record.standardFields
  let occasional ← record.occasionalFields correlation
  pure (record.furtherFields.foldl (fun kept field => putField field.1 field.2 kept)
    (standard ++ occasional))

end Record

end Reattempt
