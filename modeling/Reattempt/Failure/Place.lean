import Reattempt.Decimal.Binary
import Reattempt.Text.Quoted
import Reattempt.Value.Basic

/-!
# Places in texts

A failure about the text of a program may say where it lies, and a failure about the coding of
text says which part has no code. Both say it in their arguments. A group of failures has its
members there.
-/

namespace Reattempt

namespace Text

def baseName (path : String) : String :=
  String.ofList (path.toList.reverse.takeWhile (· ≠ '/')).reverse

/-- A name without what follows its last point; points at its start do not count. -/
def withoutExtension (name : String) : String :=
  let cs := name.toList
  let dots := cs.takeWhile (· = '.')
  let rest := cs.dropWhile (· = '.')
  if rest.contains '.' then
    String.ofList (dots ++ ((rest.reverse.dropWhile (· ≠ '.')).drop 1).reverse)
  else name

end Text

/-- A place in the text of a program, with its last character where that is known. -/
structure Place where
  file : Value
  line : Value
  column : Value
  text : Value
  lastLine : Value
  lastColumn : Value

namespace Place

def unknown : Place := ⟨.null, .null, .null, .null, .null, .null⟩

def ofArguments : List Value → Place
  | [_, info] =>
    match info.elements?.getD [] with
    | [file, line, column, text] => ⟨file, line, column, text, .null, .null⟩
    | [file, line, column, text, lastLine, lastColumn] =>
      ⟨file, line, column, text, lastLine, lastColumn⟩
    | _ => unknown
  | _ => unknown

/-- A line number as it is shown; beyond 64 bits it is minus one. -/
def lineText (i : Int) : String :=
  toString (if -(2 ^ 63) ≤ i && i < 2 ^ 63 then i else -1)

/-- A place as it follows a message: the name of the file and the line, as far as they are
known. -/
def brief (place : Place) : String :=
  match place.file, place.line with
  | .text file, .int i => " (" ++ Text.baseName file ++ ", line " ++ lineText i ++ ")"
  | .text file, _ => " (" ++ Text.baseName file ++ ")"
  | _, .int i => " (line " ++ lineText i ++ ")"
  | _, _ => ""

end Place

namespace Failure

/-- The part of a text from a start to an end, named with its position. A lone item is shown. -/
def partText (name : String) (item? : Nat → Option String) (size : Nat) (start stop : Int) :
    String :=
  if start < size && stop = start + 1 then
    name ++ " " ++ (item? start.toNat).getD "0xff" ++ " in position " ++ toString start
  else name ++ "s in position " ++ toString start ++ "-" ++ toString (stop - 1)

def textPart (s : String) (start stop : Int) : String :=
  let cs := s.toList
  let item? (i : Nat) : Option String :=
    cs[i]?.map fun c => "'" ++ Text.codeEscape (Text.code c) ++ "'"
  partText "character" item? cs.length start stop

def octetPart (octets : List UInt8) (start stop : Int) : String :=
  let item? (i : Nat) : Option String := octets[i]?.map fun o => "0x" ++ Text.hex 2 o.toNat
  partText "byte" (if start < 0 then fun _ => none else item?) octets.length start stop

def codingText? (kind : Kind) (args : List Value) : Option String :=
  match args with
  | [.text encoding, .bytes octets, start, stop, .text reason] => do
    guard (kind.isA Kind.unicodeDecodeError)
    pure ("'" ++ encoding ++ "' codec can't decode " ++ octetPart octets (← start.whole?)
      (← stop.whole?) ++ ": " ++ reason)
  | [.text encoding, .text s, start, stop, .text reason] => do
    guard (kind.isA Kind.unicodeEncodeError)
    pure ("'" ++ encoding ++ "' codec can't encode " ++ textPart s (← start.whole?)
      (← stop.whole?) ++ ": " ++ reason)
  | [.text s, start, stop, .text reason] => do
    guard (kind.isA Kind.unicodeTranslateError)
    pure ("can't translate " ++ textPart s (← start.whole?) (← stop.whole?) ++ ": " ++ reason)
  | _ => none

def groupSize (members : Value) : String :=
  let n := (members.elements?.getD []).length
  " (" ++ toString n ++ " sub-exception" ++ (if n = 1 then "" else "s") ++ ")"

end Failure

end Reattempt
