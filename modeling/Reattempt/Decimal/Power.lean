import Reattempt.Decimal.Binary

/-!
# Powers of a float

A power of a float with a whole exponent is computed here to a guard width far beyond the 53 bits
of an answer. That decides exactly whether the power is out of range, and gives it exactly when a
float can hold it. Only a power that has to be rounded is left to the platform's power function,
which settles its last bit.
-/

namespace Reattempt.Decimal

/-- Bits kept of an intermediate product. -/
def guardBits : Nat := 320

def cut (significand : Nat) (exponent : Int) : Nat × Int :=
  let excess := Nat.log2 significand + 1 - guardBits
  (significand / 2 ^ excess, exponent + excess)

/-- `(significand · 2^exponent)^n` by repeated squaring; `fuel` is at least the number of
binary digits of `n`. -/
def powerParts (significand : Nat) (exponent : Int) : (fuel n : Nat) → Nat × Int
  | 0, _ => (1, 0)
  | fuel + 1, n =>
    if n = 0 then (1, 0)
    else
      let (half, halfExponent) := powerParts significand exponent fuel (n / 2)
      let (square, squareExponent) := cut (half * half) (2 * halfExponent)
      if n % 2 = 0 then (square, squareExponent)
      else cut (square * significand) (squareExponent + exponent)

def nearestScaled (negative inverted : Bool) (significand : Nat) (exponent : Int) : Float :=
  let size : Int := Nat.log2 significand + exponent
  let size := if inverted then -size else size
  let exponent := if inverted then -exponent else exponent
  let (num, den) := if inverted then (1, significand) else (significand, 1)
  if 1100 < size then nearest negative (2 ^ 1100) 1
  else if size < -1200 then nearest negative 0 1
  else
    match exponent with
    | .ofNat up => nearest negative (num * 2 ^ up) den
    | .negSucc down => nearest negative num (den * 2 ^ (down + 1))

/-- Whether 53 bits hold a significand, or its inverse. -/
def isHeld (inverted : Bool) (significand : Nat) : Bool :=
  let width := if inverted then 1 else 53
  significand % 2 ^ (Nat.log2 significand + 1 - width) = 0

inductive PowerFault where
  | outOfRange
  | zeroInverse
  deriving Repr, DecidableEq

/-- The answer of the platform, if it is the one computed here or next to it. -/
def settled (computed platform : Float) : Float :=
  let (here, there) := (computed.toBits.toNat, platform.toBits.toNat)
  if platform.isFinite && there ≤ here + 1 && here ≤ there + 1 then platform else computed

/-- A float raised to a whole exponent. An exponent beyond `2^80` acts like one of that size:
unless the base is one, either already leaves the range of floats. -/
def powerInt (x : Float) (n : Int) : Except PowerFault Float :=
  let odd := n % 2 != 0
  if n = 0 then .ok 1.0
  else
    match Binary.ofFloat x with
    | .notNumber => .ok x
    | .infinite negative =>
      .ok (if 0 < n then (if odd then x else x.abs)
           else nearest (odd && negative) 0 1)
    | .finite negative significand exponent =>
      if significand = 0 then
        if n < 0 then .error .zeroInverse else .ok (if odd then x else x.abs)
      else if x.abs == 1.0 then .ok (if negative && odd then -1.0 else 1.0)
      else
        let count := min n.natAbs (2 ^ 80)
        let (power, powerExponent) := powerParts significand exponent (Nat.log2 count + 1) count
        let result := nearestScaled (negative && odd) (n < 0) power powerExponent
        if result.isInf then .error .outOfRange
        else if isHeld (n < 0) power then .ok result
        else
          let platform := x.abs.pow (nearest (n < 0) n.natAbs 1)
          .ok (settled result ((if negative && odd then -1.0 else 1.0) * platform))

/-- A float raised to a float. A whole exponent is taken exactly. -/
def powerFloat (x y : Float) : Except PowerFault Float :=
  if x == 1.0 then .ok 1.0
  else
    match Binary.ofFloat y with
    | .notNumber => .ok y
    | .infinite negative =>
      let size := x.abs
      .ok (if size == 1.0 then 1.0
           else if (!negative) == (1.0 < size) then y.abs
           else if x.isNaN then x else 0.0)
    | .finite _ _ _ =>
      match floor? y with
      | none => .ok y
      | some n =>
        if compareInt? y n == some .eq then powerInt x n
        else if x.isNaN then .ok x
        else if x == 0.0 then (if y < 0.0 then .error .zeroInverse else .ok 0.0)
        else
          let result := x.abs.pow y
          if result.isInf && !x.isInf then .error .outOfRange else .ok result

end Reattempt.Decimal
