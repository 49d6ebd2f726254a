import Reattempt.Decimal.Binary

/-!
# The fewest digits that read back

The interval of reals that round to a float holds many decimals. `shortest` tries one digit, two
digits, and so on up to seventeen, and takes the first grid of decimals with a point inside the
interval; of two such points it takes the one nearer to the float. Every test is exact.
-/

namespace Reattempt.Decimal

/-- A positive decimal `0.d₁d₂… · 10^point`, the first digit not zero. -/
structure Digits where
  digits : List Nat
  point : Int
  deriving Repr, DecidableEq

/-- The decimal digits of a natural, most significant first; zero has one digit. -/
def digitsOf (n : Nat) : List Nat :=
  (Nat.toDigits 10 n).map fun c => c.toNat - '0'.toNat

def inTens (num den : Nat) (exponent : Int) : Nat × Nat :=
  match exponent with
  | .ofNat up => (num, den * 10 ^ up)
  | .negSucc down => (num * 10 ^ (down + 1), den)

/-- The `point` with `10^(point - 1) ≤ num / den < 10^point`, for a positive quotient. -/
def decimalPoint (num den : Nat) : Int :=
  let bits : Int := (Nat.log2 num : Int) - (Nat.log2 den : Int) - 1
  let guess : Int := bits * 30103 / 100000
  let below (point : Int) : Bool :=
    let (n, d) := inTens num den point
    n < d
  if below guess then guess
  else if below (guess + 1) then guess + 1
  else guess + 2

/-- The reals that round to `significand · 2^exponent`, as quotients over one denominator:
the value itself, the two ends, and whether the ends belong. -/
structure Interval where
  value : Nat
  low : Nat
  high : Nat
  denominator : Nat
  closed : Bool

/-- The interval of a positive finite float. Below a power of two the neighbours are closer. -/
def Interval.of (significand : Nat) (exponent : Int) : Interval :=
  let narrow := significand = 2 ^ 52 && -1074 < exponent
  let (scale, denominator) : Nat × Nat :=
    match exponent with
    | .ofNat up => (2 ^ up, 4)
    | .negSucc down => (1, 4 * 2 ^ (down + 1))
  { value := 4 * significand * scale
    low := (4 * significand - if narrow then 1 else 2) * scale
    high := (4 * significand + 2) * scale
    denominator := denominator
    closed := significand % 2 = 0 }

/-- The point of the grid with `count` digits that lies in the interval, nearest to the value. -/
def Interval.onGrid? (interval : Interval) (point : Int) (count : Nat) : Option Nat :=
  let (num, den) := inTens interval.value interval.denominator (point - count)
  let (low, _) := inTens interval.low interval.denominator (point - count)
  let (high, _) := inTens interval.high interval.denominator (point - count)
  let inside (n : Nat) : Bool :=
    if interval.closed then low ≤ n * den && n * den ≤ high
    else low < n * den && n * den < high
  let down := num / den
  let near := roundHalfEven num den
  let far := if near = down then down + 1 else down
  if inside near then some near else if inside far then some far else none

def Interval.search (interval : Interval) (point : Int) : (fuel count : Nat) → Nat × Nat
  | 0, count =>
    let (num, den) := inTens interval.value interval.denominator (point - count)
    (roundHalfEven num den, count)
  | fuel + 1, count =>
    match interval.onGrid? point count with
    | some n => (n, count)
    | none => interval.search point fuel (count + 1)

def Digits.trimmed (n : Nat) (count : Nat) (point : Int) : Digits :=
  let digits := digitsOf n
  let carried : Int := (digits.length : Int) - count
  ⟨(digits.reverse.dropWhile (· = 0)).reverse, point + carried⟩

/-- The fewest digits that read back as the positive float `significand · 2^exponent`. -/
def shortest (significand : Nat) (exponent : Int) : Digits :=
  let interval := Interval.of significand exponent
  let point := decimalPoint interval.value interval.denominator
  let (n, count) := interval.search point 16 1
  .trimmed n count point

/-- Exactly `count` significant digits of the positive quotient `num / den`, rounded half to
even. -/
def significant (num den : Nat) (count : Nat) : List Nat × Int :=
  let point := decimalPoint num den
  let (n, d) := inTens num den (point - count)
  let rounded := roundHalfEven n d
  let digits := digitsOf rounded
  (digits.take count, point + ((digits.length : Int) - count))

end Reattempt.Decimal
