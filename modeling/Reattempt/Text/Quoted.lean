import Reattempt.Text.Printable
import Reattempt.Text.Character

/-!
# Quoted text

Text in quotes that can be read back: the quote is the apostrophe unless the text has an
apostrophe and no double quote, the quote and the backslash are escaped, and what does not print is
written by its code.
-/

namespace Reattempt.Text

def hex (width n : Nat) : String :=
  let digits := String.ofList (Nat.toDigits 16 n)
  "".pushn '0' (width - digits.length) ++ digits

/-- The quote that leaves the fewest escapes. -/
def quoteFor (cs : List Char) : Char :=
  if cs.contains '\'' && !cs.contains '"' then '"' else '\''

/-- A code in the shortest of the three numeric escapes. -/
def codeEscape (n : Nat) : String :=
  if n < 0x100 then "\\x" ++ hex 2 n
  else if n < 0x10000 then "\\u" ++ hex 4 n
  else "\\U" ++ hex 8 n

/-- One character inside quotes, except what prints as itself. -/
def escapeControl (quote c : Char) : Option String :=
  if c = quote || c = '\\' then some (String.ofList ['\\', c])
  else if c = '\n' then some "\\n"
  else if c = '\r' then some "\\r"
  else if c = '\t' then some "\\t"
  else none

def quoteChar (quote c : Char) : String :=
  match escapeControl quote c with
  | some escaped => escaped
  | none => if isPrintable c then c.toString else codeEscape (code c)

def quoted (s : String) : String :=
  let cs := s.toList
  let quote := quoteFor cs
  quote.toString ++ String.join (cs.map (quoteChar quote)) ++ quote.toString

def asciiOnly (s : String) : String :=
  String.join (s.toList.map fun c => if c.toNat < 0x80 then c.toString else codeEscape (code c))

def quotedBytes (octets : List UInt8) : String :=
  let cs := octets.map fun o => Char.ofNat o.toNat
  let quote := quoteFor cs
  let write (c : Char) : String :=
    match escapeControl quote c with
    | some escaped => escaped
    | none => if 0x20 ≤ c.toNat && c.toNat < 0x7f then c.toString else "\\x" ++ hex 2 c.toNat
  "b" ++ quote.toString ++ String.join (cs.map write) ++ quote.toString

end Reattempt.Text
