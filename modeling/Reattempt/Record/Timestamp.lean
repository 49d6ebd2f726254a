import Reattempt.Value.Arithmetic

/-!
# Timestamps

A moment is a number of seconds since the start of 1970 in universal time. It is written as a date
in the Gregorian calendar and a clock, with a number of milliseconds that is kept apart.
-/

namespace Reattempt

structure Date where
  year : Int
  month : Nat
  day : Nat
  deriving DecidableEq, Repr

namespace Date

def daysPerEra : Int := 146097

/-- The date that lies a number of days after the first of January 1970. Years are counted from
March, so that the leap day comes last. -/
def ofDays (days : Int) : Date :=
  let shifted := days + 719468
  let era := shifted / daysPerEra
  let dayOfEra := (shifted % daysPerEra).toNat
  let yearOfEra :=
    (dayOfEra - dayOfEra / 1460 + dayOfEra / 36524 - dayOfEra / 146096) / 365
  let dayOfYear := dayOfEra - (365 * yearOfEra + yearOfEra / 4 - yearOfEra / 100)
  let monthFromMarch := (5 * dayOfYear + 2) / 153
  let month := if monthFromMarch < 10 then monthFromMarch + 3 else monthFromMarch - 9
  { year := yearOfEra + era * 400 + (if month ≤ 2 then 1 else 0)
    month
    day := dayOfYear - (153 * monthFromMarch + 2) / 5 + 1 }

def text (date : Date) : String :=
  toString date.year ++ "-" ++ Decimal.padded 2 date.month ++ "-" ++ Decimal.padded 2 date.day

end Date

namespace Timestamp

def secondsPerDay : Int := 86400

def lastSecond : Int := 2 ^ 63 - 1

def countsYear (year : Int) : Bool :=
  -(2 ^ 31) ≤ year - 1900 && year - 1900 < 2 ^ 31

def lastYear : Int := 2 ^ 31 - 1

def wholeSeconds (moment : Value) : Except Fault Int :=
  match moment.number? with
  | some (.whole i) => bounded i
  | some (.binary x) =>
    if x.isNaN then .error .timeNotNumber
    else
      match Decimal.floor? x with
      | some i => bounded i
      | none => .error .timeOutOfRange
  | none => .error (.notWhole moment.typeName)
where
  bounded (i : Int) : Except Fault Int :=
    if -lastSecond - 1 ≤ i && i ≤ lastSecond then .ok i else .error .timeOutOfRange

def clockText (seconds : Int) : Except Fault String :=
  let date := Date.ofDays (seconds / secondsPerDay)
  let rest := (seconds % secondsPerDay).toNat
  if !countsYear date.year then .error .timeTooLarge
  else if lastYear < date.year then .error .yearTooLarge
  else
    .ok (date.text ++ "T" ++ Decimal.padded 2 (rest / 3600) ++ ":"
      ++ Decimal.padded 2 (rest / 60 % 60) ++ ":" ++ Decimal.padded 2 (rest % 60))

def threeDigits (i : Int) : String :=
  if i < 0 then "-" ++ Decimal.padded 2 i.natAbs else Decimal.padded 3 i.natAbs

def text (moment milliseconds : Value) : Except Fault String := do
  let clock ← clockText (← wholeSeconds moment)
  let fraction ← milliseconds.toWhole
  pure (clock ++ "." ++ threeDigits fraction ++ "Z")

end Timestamp

end Reattempt
