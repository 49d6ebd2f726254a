import Reattempt.Text.Character
import Reattempt.Value.Arithmetic

/-!
# Reports of failures

A report tells what went wrong on lines of its own: each failure after the one that it follows
from, and the members of a group one after the other, each behind a margin and under a title.
A failure that was met before is not told again as a cause. `Failure.report` gives the parts of a
report and `Report.write` lays them out.
-/

namespace Reattempt

/-! ### The lines of one failure -/

namespace Place

def isGiven (column : Value) : Except Fault Bool := do
  column.checkKey
  pure (!column.isNull && !column.equals (.int 0))

/-- Where the marks under a line end, by the columns of its first and its last character. -/
def lastMark (column lastColumn : Value) : Except Fault Value := do
  let last := if ← isGiven lastColumn then lastColumn else column
  if column.equals last || last.equals (.int (-1)) then column.plus (.int 1) else pure last

def shifted (column : Value) (blanks : Nat) : Except Fault Value := do
  (← column.minus (.int 1)).minus (.int blanks)

/-- The blanks under the characters of a line before a position; white characters stay. -/
def blanksUnder (line : List Char) (position : Value) : Except Fault String :=
  match position.whole? with
  | some i =>
    .ok (String.ofList ((line.take i.toNat).map fun c => if Text.isWhite c then c else ' '))
  | none => .error .sliceNotWhole

def marks (line : List Char) (blanks : Nat) (column lastColumn : Value) :
    Except Fault (List String) := do
  let last ← lastMark column lastColumn
  let start ← shifted column blanks
  let stop ← shifted last blanks
  if ← start.compareBy .atLeast (.int 0) then
    let under ← blanksUnder line start
    let marks ← (Value.text "^").times (← stop.minus start)
    pure ["    " ++ under ++ marks.display ++ "\n"]
  else pure []

/-- The text of a line as it is shown, and how many blanks in front are left out. -/
def shownLine (line : String) : List Char × Nat :=
  let kept := (line.toList.reverse.dropWhile (· = '\n')).reverse
  let shown := kept.dropWhile fun c => c = ' ' || c = '\n' || c = '\x0c'
  (shown, kept.length - shown.length)

def textLines (place : Place) : Except Fault (List String) :=
  match place.text with
  | .null => .ok []
  | .text line => do
    let (shown, blanks) := shownLine line
    let under ←
      if place.column.isNull then pure []
      else marks shown blanks place.column place.lastColumn
    pure (("    " ++ String.ofList shown ++ "\n") :: under)
  | .bytes _ => .error (.notBytes "str")
  | v => .error (.missingAttribute v.owner "rstrip")

def headLines (place : Place) : List String :=
  if place.line.isNull then []
  else
    let file := if place.file.isTruthy then place.file.display else "<string>"
    ["  File \"" ++ file ++ "\", line " ++ place.line.display ++ "\n"]

def fileNote (place : Place) : String :=
  if place.line.isNull && !place.file.isNull then " (" ++ place.file.display ++ ")" else ""

end Place

namespace Failure

def programLines (kind : Kind) (args : List Value) : Except Fault (List String) := do
  let place := Place.ofArguments args
  let message := args.headD .null
  let told := if message.isTruthy then message.display else "<no detail available>"
  let text ← place.textLines
  pure (place.headLines ++ text ++ [kind.qualifiedName ++ ": " ++ told ++ place.fileNote ++ "\n"])

def ownLines (f : Failure) : Except Fault (List String) :=
  if f.kind.isA Kind.syntaxError then programLines f.kind f.args
  else
    let message := f.message
    .ok [f.kind.qualifiedName ++ (if message.isEmpty then "" else ": " ++ message) ++ "\n"]

end Failure

/-! ### The parts of a report -/

/-- A report: the lines of a failure, the report of the failure that it follows from, and for a
group the reports of its members. -/
inductive Report where
  | make (own : Except Fault (List String)) (cause : Option Report) (members : Option (List Report))

def failureIds (items : List Value) : List Nat :=
  items.filterMap fun v =>
    match v with
    | .failure f => some f.id
    | _ => none

mutual

/-- The report of a failure after some failures were met, and the failures met after it. The last
member is gone through first and the cause last. -/
def Failure.report (met : List Nat) : Failure → Report × List Nat
  | ⟨id, kind, args, cause, detail⟩ =>
    let own := Failure.ownLines ⟨id, kind, args, none, detail⟩
    let isNew : Bool :=
      match cause with
      | some ⟨number, _, _, _, _⟩ => !met.contains number
      | none => false
    let met :=
      match cause with
      | some ⟨number, _, _, _, _⟩ => if isNew then number :: met else met
      | none => met
    let (members, met) :=
      if kind.isA Kind.baseExceptionGroup then reportGroup met args else (none, met)
    match cause with
    | some f =>
      if isNew then
        let (before, met) := f.report met
        (.make own (some before) members, met)
      else (.make own none members, met)
    | none => (.make own none members, met)

def reportGroup (met : List Nat) : List Value → Option (List Report) × List Nat
  | [_, .list items] | [_, .tuple items] =>
    let (reports, met) := reportMembers (failureIds items ++ met) items
    (some reports, met)
  | _ => (none, met)

def reportMembers (met : List Nat) : List Value → List Report × List Nat
  | [] => ([], met)
  | .failure f :: rest =>
    let (reports, met) := reportMembers met rest
    let (report, met) := f.report met
    (report :: reports, met)
  | _ :: rest => reportMembers met rest

end

/-! ### Laying out a report -/

namespace Report

def isLineEnd (c : Char) : Bool :=
  let n := c.toNat
  (0xa ≤ n && n ≤ 0xd) || (0x1c ≤ n && n ≤ 0x1e) || n = 0x85 || n = 0x2028 || n = 0x2029

def linesOf : List Char → List (List Char)
  | [] => []
  | '\r' :: '\n' :: rest => ['\r', '\n'] :: linesOf rest
  | c :: rest =>
    if isLineEnd c then [c] :: linesOf rest
    else
      match linesOf rest with
      | [] => [[c]]
      | line :: lines => (c :: line) :: lines

def blanks (depth : Nat) : String := "".pushn ' ' (2 * depth)

def behindMargin (depth : Nat) (text : String) : String :=
  if depth = 0 then text
  else
    String.join ((linesOf text.toList).map fun line =>
      blanks depth ++ "| " ++ String.ofList line)

def causeLink : String :=
  "\nThe above exception was the direct cause of the following exception:\n\n"

def deepest : Nat := 10

def widest : Nat := 15

def title (depth index : Nat) (name : String) : String :=
  blanks depth ++ (if index = 0 then "+-" else "  ") ++ "+---------------- " ++ name
    ++ " ----------------\n"

def closing (depth : Nat) : String := blanks depth ++ "+------------------------------------\n"

def others (n : Nat) : String :=
  "and " ++ toString n ++ " more exception" ++ (if 1 < n then "s" else "") ++ "\n"

mutual

/-- A report at a depth. The flag says whether a group has still to be closed; the last member
closes its own group and with it the groups that it ends. -/
def write (depth : Nat) (isOpen : Bool) : Report → Except Fault (String × Bool)
  | make own cause members => do
    let (before, isOpen) ←
      match cause with
      | some report => do
        let (text, isOpen) ← report.write depth isOpen
        pure (text ++ behindMargin depth causeLink, isOpen)
      | none => pure ("", isOpen)
    match members with
    | none => do
      let lines ← own
      pure (before ++ String.join (lines.map (behindMargin depth)), isOpen)
    | some reports =>
      if deepest < depth then
        pure (before ++ behindMargin depth
          ("... (max_group_depth is " ++ toString deepest ++ ")\n"), isOpen)
      else do
        let depth := max 1 depth
        let lines ← own
        let (text, isOpen) ← writeMembers depth 0 false reports
        pure (before ++ String.join (lines.map (behindMargin depth)) ++ text, isOpen)

def writeMembers (depth index : Nat) (isOpen : Bool) : List Report → Except Fault (String × Bool)
  | [] => pure ("", isOpen)
  | report :: rest =>
    if index < widest then do
      let (text, isOpen) ← report.write (depth + 1) (isOpen || rest.isEmpty)
      let shown := title depth index (toString (index + 1)) ++ text
      if rest.isEmpty && isOpen then pure (shown ++ closing (depth + 1), false)
      else
        let (after, isOpen) ← writeMembers depth (index + 1) isOpen rest
        pure (shown ++ after, isOpen)
    else
      pure (title depth index "..." ++ behindMargin (depth + 1) (others (rest.length + 1))
        ++ closing (depth + 1), false)

end

end Report

/-! ### What a record says of a failure -/

namespace Trouble

def itemAt (v : Value) (index : Nat) : Except Fault Value :=
  let item (sequence : String) (items : List Value) : Except Fault Value :=
    match items[index]? with
    | some item => .ok item
    | none => .error (.indexOutOfRange sequence)
  match v with
  | .list items => item "list " items
  | .tuple items => item "tuple " items
  | .text s => item "string " (s.toList.map fun c => .text c.toString)
  | .bytes octets => item "" (octets.map fun o => .int o.toNat)
  | .dict entries =>
    match entries.find? fun entry => entry.1.equals (.int index) with
    | some (_, item) => .ok item
    | none => .error (.missingKey (.int index))
  | .kind k =>
    if k.isA Kind.baseExceptionGroup then .ok v
    else .error (.notSubscriptable ("type '" ++ k.name ++ "'"))
  | _ => .error (.notSubscriptable v.owner)

def reportOf : Value → Except Fault String
  | .null => .ok "NoneType: None\n"
  | .failure f => do
    let (text, _) ← (f.report [f.id]).1.write 0 false
    pure text
  | .kind _ => .error (.missingAttribute "'getset_descriptor' object" "__traceback__")
  | v => .error (.missingAttribute v.owner "__suppress_context__")

/-- What went wrong, told by a sequence of three: a kind, a failure and a place, which has to be
absent. -/
def text (trouble : Value) : Except Fault String := do
  let place ← itemAt trouble 2
  discard (itemAt trouble 0)
  let told ← itemAt trouble 1
  if place.isNull then
    let report ← reportOf told
    pure (if report.endsWith "\n" then (report.dropEnd 1).toString else report)
  else .error (.missingAttribute place.owner "tb_frame")

end Trouble

end Reattempt
