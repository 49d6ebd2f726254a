import Reattempt.Record.Basic
import Reattempt.Text.Json

/-!
# Writing records

A record is written as one line: an object with its fields. Values that the format has no form for
are written as the text that quotes them. Limits of a platform, on the digits of a whole number that
is written and on the depth of nesting, are left out.
-/

namespace Reattempt

/-- The name that a key is written under, whatever its length; only simple values are keys. -/
def Value.keyText : Value → Except Fault String
  | .text s => .ok s
  | .null => .ok "null"
  | .bool b => .ok (if b then "true" else "false")
  | .int i => .ok (toString i)
  | .float x => .ok (Decimal.Layout.record.render x)
  | v => .error (.unwritableKey v.typeName)

mutual

/-- What is written of a value, whatever the number of its digits and the depth of its parts. -/
def Value.toTree : Value → Except Fault Text.Json.Tree
  | .null => .ok (.word "null")
  | .bool b => .ok (.word (if b then "true" else "false"))
  | .int i => .ok (.word (toString i))
  | .float x => .ok (.word (Decimal.Layout.record.render x))
  | .text s => .ok (.string s)
  | .list items => do return .array (← toTrees items)
  | .tuple items => do return .array (← toTrees items)
  | .dict entries => do return .object (← entriesToTrees entries)
  | v => .ok (.string v.quote)

def toTrees : List Value → Except Fault (List Text.Json.Tree)
  | [] => .ok []
  | v :: rest => do
    let first ← v.toTree
    return first :: (← toTrees rest)

def entriesToTrees : List (Value × Value) → Except Fault (List (String × Text.Json.Tree))
  | [] => .ok []
  | entry :: rest => do
    let first ← entryToTree entry
    return first :: (← entriesToTrees rest)

def entryToTree : Value × Value → Except Fault (String × Text.Json.Tree)
  | (key, item) => do
    let name ← key.keyText
    return (name, ← item.toTree)

end

namespace Record

def fieldsToTrees : List (String × Value) → Except Fault (List (String × Text.Json.Tree))
  | [] => .ok []
  | (name, v) :: rest => do
    let first ← v.toTree
    return (name, first) :: (← fieldsToTrees rest)

def write (record : Record) (correlation : Value) : Except Fault String := do
  let fields ← record.fields correlation
  return (Text.Json.Tree.object (← fieldsToTrees fields)).render

end Record

end Reattempt
