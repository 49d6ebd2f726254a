/-!
# Floats, read exactly

A finite float is a natural significand times a power of two. This file takes floats apart,
rounds exact quotients to the nearest float, and compares floats with integers of any size.
Nothing here rounds twice: every function works on the exact value.
-/

namespace Reattempt.Decimal

-- A power with a natural exponent is the core one here and in every file that imports this one,
-- whichever other library is open.
attribute [instance (high), default_instance (high + 1)] instPowNat

/-- What a float stands for: `±significand · 2^exponent`, an infinity, or no number at all. -/
inductive Binary where
  | finite (negative : Bool) (significand : Nat) (exponent : Int)
  | infinite (negative : Bool)
  | notNumber
  deriving Repr, DecidableEq

namespace Binary

def ofFloat (x : Float) : Binary :=
  let bits := x.toBits.toNat
  let negative := bits / 2 ^ 63 == 1
  let biased : Nat := bits / 2 ^ 52 % 2 ^ 11
  let fraction : Nat := bits % 2 ^ 52
  if biased = 2047 then
    if fraction = 0 then .infinite negative else .notNumber
  else if biased = 0 then .finite negative fraction (-1074)
  else .finite negative (2 ^ 52 + fraction) ((biased : Int) - 1075)

end Binary

/-! ### Rounding a quotient -/

/-- The integer nearest to `num / den`; a tie goes to the even neighbour. -/
def roundHalfEven (num den : Nat) : Nat :=
  let quotient := num / den
  let rest := num % den
  if 2 * rest < den then quotient
  else if den < 2 * rest then quotient + 1
  else if quotient % 2 = 0 then quotient else quotient + 1

def inUnits (num den : Nat) (exponent : Int) : Nat × Nat :=
  match exponent with
  | .ofNat up => (num, den * 2 ^ up)
  | .negSucc down => (num * 2 ^ (down + 1), den)

def unitExponent (num den : Nat) : Int :=
  let guess : Int := (Nat.log2 num : Int) - (Nat.log2 den : Int) - 52
  let (n, d) := inUnits num den guess
  max (-1074) (if n / d < 2 ^ 52 then guess - 1 else guess)

/-- The bits of the float nearest to `num / den`, ties to even; a value too large gives an
infinity. -/
def nearestBits (negative : Bool) (num den : Nat) : Nat :=
  let sign := if negative then 2 ^ 63 else 0
  if num = 0 then sign
  else
    let exponent := unitExponent num den
    let (n, d) := inUnits num den exponent
    let count := roundHalfEven n d
    let magnitude :=
      if count < 2 ^ 52 then count
      else (exponent + 1075).toNat * 2 ^ 52 + (count - 2 ^ 52)
    sign + min magnitude (2047 * 2 ^ 52)

def nearest (negative : Bool) (num den : Nat) : Float :=
  Float.ofBits (UInt64.ofNat (nearestBits negative num den))

/-- The float nearest to an integer, or nothing when the integer is beyond the largest float. -/
def ofInt? (i : Int) : Option Float :=
  let x := nearest (i < 0) i.natAbs 1
  if x.isInf then none else some x

/-! ### Exact comparison with integers -/

/-- How a float compares with an integer, exactly; nothing compares with what is no number. -/
def compareInt? (x : Float) (i : Int) : Option Ordering :=
  match Binary.ofFloat x with
  | .notNumber => none
  | .infinite negative => some (if negative then .lt else .gt)
  | .finite negative significand exponent =>
    let signed : Int := if negative then -(significand : Int) else significand
    match exponent with
    | .ofNat up => some (compare (signed * 2 ^ up) i)
    | .negSucc down => some (compare signed (i * 2 ^ (down + 1)))

/-- The integer part of a finite float, toward zero. -/
def truncate? (x : Float) : Option Int :=
  match Binary.ofFloat x with
  | .finite negative significand exponent =>
    let size : Nat :=
      match exponent with
      | .ofNat up => significand * 2 ^ up
      | .negSucc down => significand / 2 ^ (down + 1)
    some (if negative then -(size : Int) else size)
  | _ => none

def floor? (x : Float) : Option Int :=
  (truncate? x).map fun i => if compareInt? x i == some .lt then i - 1 else i

def ceiling? (x : Float) : Option Int :=
  (truncate? x).map fun i => if compareInt? x i == some .gt then i + 1 else i

end Reattempt.Decimal
