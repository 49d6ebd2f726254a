import Reattempt.Decimal.Binary
import Reattempt.Text.Character

/-!
# Reading a float from text

A number may have blanks around it, a sign, digits of any script with single underscores between
them, a point and an exponent; the words for infinity and for what is no number are read without
regard to case. The value is the float nearest to the decimal.
-/

namespace Reattempt.Decimal

open Reattempt.Text

/-- Digits of any script turned into ASCII digits; nothing if another character outside ASCII
occurs. -/
def asciiDigits? (cs : List Char) : Option (List Char) :=
  cs.mapM fun c =>
    if c.toNat < 0x80 then some c else (digitValue? c).map Nat.digitChar

/-- Text without its underscores, each of which must stand between two digits. -/
def withoutUnderscores? : (previous : Char) → List Char → Option (List Char)
  | previous, [] => if previous = '_' then none else some []
  | previous, c :: rest =>
    if c = '_' then
      if previous.isDigit then withoutUnderscores? c rest else none
    else if previous = '_' && !c.isDigit then none
    else (withoutUnderscores? c rest).map (c :: ·)

def naturalOf (cs : List Char) : Nat :=
  cs.foldl (fun n c => 10 * n + (c.toNat - '0'.toNat)) 0

def splitSign : List Char → Bool × List Char
  | '-' :: rest => (true, rest)
  | '+' :: rest => (false, rest)
  | cs => (false, cs)

def exponentOf? (cs : List Char) : Option Int :=
  match cs with
  | [] => some 0
  | mark :: rest =>
    if mark = 'e' || mark = 'E' then
      let (negative, digits) := splitSign rest
      if digits.isEmpty || !digits.all Char.isDigit then none
      else some (if negative then -(naturalOf digits : Int) else naturalOf digits)
    else none

/-- The float nearest to `digits · 10^exponent`. Exponents far outside the range of floats act
like the nearest one that matters. -/
def scaledByTen (negative : Bool) (digits : List Char) (exponent : Int) : Float :=
  let n := naturalOf digits
  let size : Int := (digits.dropWhile (· = '0')).length + exponent
  if n = 0 || size < -400 then nearest negative 0 1
  else if 400 < size then nearest negative (2 ^ 1100) 1
  else
    match exponent with
    | .ofNat up => nearest negative (n * 10 ^ up) 1
    | .negSucc down => nearest negative n (10 ^ (down + 1))

/-- A float from ASCII characters without blanks and underscores. -/
def readPlain? (cs : List Char) : Option Float :=
  let (negative, body) := splitSign cs
  let word := String.ofList (body.map Char.toLower)
  if word = "inf" || word = "infinity" then some (nearest negative (2 ^ 1100) 1)
  else if word = "nan" then some (0.0 / 0.0)
  else
    let whole := body.takeWhile Char.isDigit
    let rest := body.dropWhile Char.isDigit
    let (part, rest) : List Char × List Char :=
      match rest with
      | '.' :: rest => (rest.takeWhile Char.isDigit, rest.dropWhile Char.isDigit)
      | rest => ([], rest)
    if whole.isEmpty && part.isEmpty then none
    else
      (exponentOf? rest).map fun exponent =>
        scaledByTen negative (whole ++ part) (exponent - part.length)

def readFloat? (s : String) : Option Float := do
  let cs ← asciiDigits? (stripBlanks s.toList)
  let cs ← withoutUnderscores? '\x00' cs
  readPlain? cs

def mostDigits : Nat := 4300

def readWhole? (s : String) : Option (Bool × List Char) := do
  let cs ← asciiDigits? (stripBlanks s.toList)
  let (isNegative, body) := splitSign cs
  let digits ← withoutUnderscores? '\x00' body
  if digits.isEmpty || !digits.all Char.isDigit then none else some (isNegative, digits)

end Reattempt.Decimal
