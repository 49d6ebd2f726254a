import Reattempt.Text.Quoted

/-!
# Text of records

Strings of a record are written between double quotes with ASCII characters only. Other characters
are written in units of sixteen bits, four hexadecimal digits each.
-/

namespace Reattempt.Text.Json

def escapeChar (c : Char) : String :=
  if c = '"' then "\\\""
  else if c = '\\' then "\\\\"
  else if c = '\n' then "\\n"
  else if c = '\r' then "\\r"
  else if c = '\t' then "\\t"
  else if c = '\x0c' then "\\f"
  else if c = '\x08' then "\\b"
  else if 0x20 ≤ c.toNat && c.toNat < 0x7f then c.toString
  else String.join ((units (code c)).map fun unit => "\\u" ++ hex 4 unit)

def string (s : String) : String :=
  "\"" ++ String.join (s.toList.map escapeChar) ++ "\""

def array (items : List String) : String :=
  "[" ++ ", ".intercalate items ++ "]"

def object (fields : List (String × String)) : String :=
  "\x7b" ++ ", ".intercalate (fields.map fun (key, item) => string key ++ ": " ++ item) ++ "\x7d"

/-- What a record is made of: words and numbers as they are written, strings, arrays and
objects. -/
inductive Tree where
  | word (written : String)
  | string (s : String)
  | array (items : List Tree)
  | object (fields : List (String × Tree))

instance : Inhabited Tree := ⟨.word "null"⟩

mutual

def Tree.render : Tree → String
  | .word written => written
  | .string s => Json.string s
  | .array items => Json.array (renderAll items)
  | .object fields => Json.object (renderFields fields)

def renderAll : List Tree → List String
  | [] => []
  | t :: rest => t.render :: renderAll rest

def renderFields : List (String × Tree) → List (String × String)
  | [] => []
  | field :: rest => renderField field :: renderFields rest

def renderField : String × Tree → String × String
  | (key, t) => (key, t.render)

end

end Reattempt.Text.Json
