import Reattempt.Decimal.Shortest

/-!
# Laying out decimals

A `Layout` fixes every free choice in writing a float: which magnitudes are written positionally,
the shape of the exponent, what a whole number ends in, and the words for the values that have no
digits. The digits themselves come from `shortest`, or from exact rounding to a given number of
places.
-/

namespace Reattempt.Decimal

/-- The choices made when a float is written with its shortest digits. -/
structure Layout where
  /-- A decimal `0.d₁d₂… · 10^point` is positional when `lowest ≤ point ≤ highest`. -/
  lowest : Int
  highest : Int
  /-- The exponent has at least this many digits, after its sign. -/
  exponentWidth : Nat
  /-- Written after a whole number in positional notation. -/
  wholeSuffix : String
  infinity : String
  notNumber : String

/-- Floats in messages and renderings: positional from `0.0001` up to `10^16`, whole numbers end
in `.0`, exponents have a sign and two digits. -/
def Layout.plain : Layout := ⟨-3, 16, 2, ".0", "inf", "nan"⟩

/-- Floats in written records: the same digits and places, with the words that readers of the
format accept. -/
def Layout.record : Layout := { Layout.plain with infinity := "Infinity", notNumber := "NaN" }

def textOfDigits (digits : List Nat) : String :=
  String.ofList (digits.map Nat.digitChar)

/-- A natural in at least `width` digits, zeros in front. -/
def padded (width n : Nat) : String :=
  let digits := toString n
  "".pushn '0' (width - digits.length) ++ digits

def exponentText (mark : String) (width : Nat) (exponent : Int) : String :=
  mark ++ (if exponent < 0 then "-" else "+") ++ padded width exponent.natAbs

def positional (wholeSuffix : String) (digits : List Nat) (point : Int) : String :=
  if point ≤ 0 then "0." ++ "".pushn '0' (-point).toNat ++ textOfDigits digits
  else
    let whole := point.toNat
    if digits.length ≤ whole then
      textOfDigits digits ++ "".pushn '0' (whole - digits.length) ++ wholeSuffix
    else textOfDigits (digits.take whole) ++ "." ++ textOfDigits (digits.drop whole)

/-- One digit, the others after a point, and an exponent. A lone digit is followed by a point only
if that is asked for. -/
def scientific (mark : String) (width : Nat) (pointed : Bool) (digits : List Nat) (point : Int) :
    String :=
  let rest := digits.drop 1
  textOfDigits (digits.take 1)
    ++ (if rest.isEmpty then (if pointed then "." else "") else "." ++ textOfDigits rest)
    ++ exponentText mark width (point - 1)

/-- A float with the fewest digits that read back. -/
def Layout.render (layout : Layout) (x : Float) : String :=
  match Binary.ofFloat x with
  | .notNumber => layout.notNumber
  | .infinite negative => (if negative then "-" else "") ++ layout.infinity
  | .finite negative significand exponent =>
    let size :=
      if significand = 0 then "0" ++ layout.wholeSuffix
      else
        let decimal := shortest significand exponent
        if layout.lowest ≤ decimal.point && decimal.point ≤ layout.highest then
          positional layout.wholeSuffix decimal.digits decimal.point
        else scientific "e" layout.exponentWidth false decimal.digits decimal.point
    (if negative then "-" else "") ++ size

/-! ### A given number of places -/

def quotient (significand : Nat) (exponent : Int) : Nat × Nat :=
  match exponent with
  | .ofNat up => (significand * 2 ^ up, 1)
  | .negSucc down => (significand, 2 ^ (down + 1))

/-- The three ways to write a float with a given precision: with so many digits after the point,
with so many digits after the point and an exponent, or with so many digits in all. -/
inductive Style where
  | fixed
  | scientific
  | general
  deriving DecidableEq, Repr

/-- A magnitude with exactly `places` digits after the point, rounded half to even. -/
def fixedMagnitude (pointed : Bool) (places num den : Nat) : String :=
  let scaled := roundHalfEven (num * 10 ^ places) den
  let whole := scaled / 10 ^ places
  if places = 0 then toString whole ++ (if pointed then "." else "")
  else toString whole ++ "." ++ padded places (scaled % 10 ^ places)

def scientificMagnitude (pointed : Bool) (places num den : Nat) : String :=
  let (digits, point) :=
    if num = 0 then (List.replicate (places + 1) 0, (1 : Int)) else significant num den (places + 1)
  scientific "e" 2 pointed digits point

/-- A float has fewer significant digits than this; all later ones are zeros. -/
def mostSignificant : Nat := 800

/-- A magnitude with `precision` significant digits, positional when its exponent allows, and
without zeros at the end unless they are kept. -/
def generalMagnitude (keepZeros : Bool) (precision num den : Nat) : String :=
  let count := max 1 precision
  let needed := if keepZeros then count else min count mostSignificant
  let (digits, point) :=
    if num = 0 then (List.replicate needed 0, (1 : Int)) else significant num den needed
  let shown := if keepZeros then digits else (digits.reverse.dropWhile (· = 0)).reverse
  let shown := if shown.isEmpty then [0] else shown
  if -4 < point && point ≤ count then positional (if keepZeros then "." else "") shown point
  else scientific "e" 2 keepZeros shown point

/-- A magnitude in a style. The point and the zeros at the end are kept if `pointed`. -/
def Style.magnitude (style : Style) (pointed : Bool) (precision num den : Nat) : String :=
  match style with
  | fixed => fixedMagnitude pointed precision num den
  | scientific => scientificMagnitude pointed precision num den
  | general => generalMagnitude pointed precision num den

def Style.render (style : Style) (pointed : Bool) (precision : Nat) (x : Float) : String :=
  match Binary.ofFloat x with
  | .notNumber => Layout.plain.notNumber
  | .infinite negative => (if negative then "-" else "") ++ Layout.plain.infinity
  | .finite negative significand exponent =>
    let (num, den) := quotient significand exponent
    (if negative then "-" else "") ++ style.magnitude pointed precision num den

end Reattempt.Decimal
