import Reattempt.Decimal.Power
import Reattempt.Decimal.Reading
import Reattempt.Failure.Fault

/-!
# Arithmetic on values

Order, equality, sums, products and powers of values of any type. Integers are exact; an
integer that meets a float becomes the nearest float, or is a fault when no float is near; integers
and floats are compared exactly. What has no meaning is a fault.
-/

namespace Reattempt

inductive Number where
  | whole (i : Int)
  | binary (x : Float)

namespace Number

/-- How two numbers compare; nothing compares with what is no number. -/
def compare? : Number → Number → Option Ordering
  | whole a, whole b => some (compare a b)
  | whole a, binary y => (Decimal.compareInt? y a).map Ordering.swap
  | binary x, whole b => Decimal.compareInt? x b
  | binary x, binary y =>
    if x < y then some .lt else if x == y then some .eq else if y < x then some .gt else none

def integer? : Number → Option Int
  | whole i => some i
  | binary x =>
    (Decimal.truncate? x).filter fun i => Decimal.compareInt? x i == some Ordering.eq

def toFloat : Number → Except Fault Float
  | whole i =>
    match Decimal.ofInt? i with
    | some x => .ok x
    | none => .error .integerTooLarge
  | binary x => .ok x

def toValue : Number → Value
  | whole i => .int i
  | binary x => .float x

/-- An exact operation on whole numbers, or the float operation when a float takes part. -/
def combine (exact : Int → Int → Int) (rounded : Float → Float → Float) :
    Number → Number → Except Fault Number
  | whole a, whole b => .ok (whole (exact a b))
  | a, b => do
    let x ← a.toFloat
    let y ← b.toFloat
    pure (binary (rounded x y))

/-- A whole power of a whole number. A base of size one or less needs no multiplication. -/
def wholePower (base : Int) (n : Nat) : Int :=
  if base = 1 then 1
  else if base = 0 then (if n = 0 then 1 else 0)
  else
    let size : Int := ((base.natAbs ^ n : Nat) : Int)
    if base < 0 && n % 2 = 1 then -size else size

def floatPower (x y : Float) : Except Fault Number :=
  match Decimal.powerFloat x y with
  | .ok z => .ok (binary z)
  | .error .outOfRange => .error .resultTooLarge
  | .error .zeroInverse => .error .zeroInverse

/-- A power: exact for a whole base and a whole exponent that is not negative. -/
def power : Number → Number → Except Fault Number
  | whole base, whole (.ofNat n) => .ok (whole (wholePower base n))
  | a, b => do
    let x ← a.toFloat
    let y ← b.toFloat
    floatPower x y

end Number

/-! ### Lengths of time -/

def microsecondsOf (days seconds microseconds : Int) : Int :=
  (days * 86400 + seconds) * 1000000 + microseconds

def Value.ofMicroseconds (total : Int) : Value :=
  let seconds := total / 1000000
  .duration (seconds / 86400) (seconds % 86400) (total % 1000000)

def mostDays : Nat := 999999999

def Value.durationOf (total : Int) : Except Fault Value :=
  let days := total / 86400000000
  if days < -(2 ^ 31) || 2 ^ 31 ≤ days then .error (.wordTooSmall "int")
  else if mostDays < days.natAbs then .error (.daysOutOfBounds days)
  else .ok (.ofMicroseconds total)

def scaledMicroseconds (total : Int) (x : Float) : Except Fault Int :=
  match Decimal.Binary.ofFloat x with
  | .notNumber => .error (.noRatio false)
  | .infinite _ => .error (.noRatio true)
  | .finite negative significand exponent =>
    let (num, den) := Decimal.quotient significand exponent
    let size : Int := Decimal.roundHalfEven (num * total.natAbs) den
    .ok (if negative == (total < 0 : Bool) then size else -size)

namespace Value

/-- The number that a value is. Truth values count as one and zero. -/
def number? (v : Value) : Option Number :=
  match v with
  | float x => some (.binary x)
  | _ => v.whole?.map .whole

def isTruthy : Value → Bool
  | null => false
  | bool b => b
  | int i => i ≠ 0
  | float x => !(x == 0.0)
  | text s => !s.isEmpty
  | list items | tuple items | set items => !items.isEmpty
  | dict entries => !entries.isEmpty
  | bytes octets => !octets.isEmpty
  | duration days seconds microseconds => microsecondsOf days seconds microseconds ≠ 0
  | _ => true

end Value

/-! ### Equality -/

mutual

/-- Whether two values are equal. Numbers are equal across their types; failures, tests and
strategies are equal only to themselves. -/
def Value.equals : Value → Value → Bool
  | .null, .null => true
  | .text s, .text t => s == t
  | .bytes s, .bytes t => s == t
  | .list items, .list others | .tuple items, .tuple others => equalAll items others
  | .set items, .set others => items.length == others.length && allWithin items others
  | .dict entries, .dict others => entries.length == others.length && allEntries entries others
  | .duration d s m, .duration d' s' m' => d == d' && s == s' && m == m'
  | .failure f, .failure g => f.id ≠ 0 && f.id == g.id
  | .kind k, .kind l => k.same l
  | .predicate p, .predicate q => p.id == q.id
  | .strategy s, .strategy t => s.id == t.id
  | .classifier c, .classifier d => c.equals d
  | .operation i, .operation j => i == j
  | .thing a b, .thing c d => a == c && b == d
  | v, w =>
    match v.number?, w.number? with
    | some a, some b => a.compare? b == some .eq
    | _, _ => false

def Classifier.equals : Classifier → Classifier → Bool
  | ⟨includes, excludes, predicates⟩, other =>
    equalAll includes other.includes && equalAll excludes other.excludes
      && equalAll predicates other.predicates

def equalAll : List Value → List Value → Bool
  | [], [] => true
  | v :: rest, w :: others => v.equals w && equalAll rest others
  | _, _ => false

def allWithin : List Value → List Value → Bool
  | [], _ => true
  | v :: rest, others => others.any v.equals && allWithin rest others

def allEntries : List (Value × Value) → List (Value × Value) → Bool
  | [], _ => true
  | entry :: rest, others => others.any (equalEntry entry) && allEntries rest others

def equalEntry : Value × Value → Value × Value → Bool
  | (key, item), other => key.equals other.1 && item.equals other.2

end

/-! ### Values that are keys -/

mutual

/-- The type of the first part of a value that can change; such a value is no key. -/
def Value.firstUnhashable? : Value → Option String
  | .list _ => some "list"
  | .dict _ => some "dict"
  | .set _ => some "set"
  | .tuple items => firstUnhashableOf? items
  | .classifier c => c.firstUnhashable?
  | _ => none

def Classifier.firstUnhashable? : Classifier → Option String
  | ⟨includes, excludes, predicates⟩ =>
    (firstUnhashableOf? includes).orElse fun _ =>
      (firstUnhashableOf? excludes).orElse fun _ => firstUnhashableOf? predicates

def firstUnhashableOf? : List Value → Option String
  | [] => none
  | v :: rest => v.firstUnhashable?.orElse fun _ => firstUnhashableOf? rest

end

def Value.checkKey (v : Value) : Except Fault Unit :=
  match v.firstUnhashable? with
  | some typeName => .error (.unhashable typeName)
  | none => .ok ()

/-! ### Order -/

structure Comparison where
  symbol : String
  holds : Ordering → Bool

namespace Comparison

def below : Comparison := ⟨"<", (· == .lt)⟩
def atMost : Comparison := ⟨"<=", (· != .gt)⟩
def above : Comparison := ⟨">", (· == .gt)⟩
def atLeast : Comparison := ⟨">=", (· != .lt)⟩

end Comparison

def compareCodes : List Nat → List Nat → Ordering
  | [], [] => .eq
  | [], _ => .lt
  | _, [] => .gt
  | a :: rest, b :: others => (compare a b).then (compareCodes rest others)

/-- How two sets compare: as one lies within the other. -/
def compareSets? (items others : List Value) : Option Ordering :=
  if allWithin items others then
    if allWithin others items then some .eq else some .lt
  else if allWithin others items then some .gt
  else none

mutual

/-- Whether a comparison holds. Numbers, texts, byte strings, lengths of time and sequences of
these have an order; sets are ordered as far as one lies within the other. -/
def Value.compareBy (comparison : Comparison) : Value → Value → Except Fault Bool
  | .text s, .text t =>
    .ok (comparison.holds (compareCodes (s.toList.map Text.code) (t.toList.map Text.code)))
  | .bytes s, .bytes t =>
    .ok (comparison.holds (compareCodes (s.map UInt8.toNat) (t.map UInt8.toNat)))
  | .set items, .set others => .ok (((compareSets? items others).map comparison.holds).getD false)
  | .duration d s m, .duration d' s' m' =>
    .ok (comparison.holds (compare (microsecondsOf d s m) (microsecondsOf d' s' m')))
  | .list items, .list others | .tuple items, .tuple others =>
    compareItems comparison items others
  | v, w =>
    match v.number?, w.number? with
    | some a, some b =>
      match a.compare? b with
      | some outcome => .ok (comparison.holds outcome)
      | none => .ok false
    | _, _ => .error (.unordered comparison.symbol v.typeName w.typeName)

/-- Sequences compare by the first items that differ, then by length. -/
def compareItems (comparison : Comparison) : List Value → List Value → Except Fault Bool
  | [], [] => .ok (comparison.holds .eq)
  | [], _ => .ok (comparison.holds .lt)
  | _, [] => .ok (comparison.holds .gt)
  | v :: rest, w :: others =>
    if v.equals w then compareItems comparison rest others else v.compareBy comparison w

end

namespace Value

/-- The smaller of two values, the first unless the second is below it. -/
def smaller (v w : Value) : Except Fault Value := do
  if ← w.compareBy .below v then pure w else pure v

/-- The larger of two values, the first unless the second is above it. -/
def larger (v w : Value) : Except Fault Value := do
  if ← w.compareBy .above v then pure w else pure v

/-! ### Sums, products and powers -/

def plus (v w : Value) : Except Fault Value :=
  match v.number?, w.number? with
  | some a, some b => Number.toValue <$> a.combine (· + ·) (· + ·) b
  | _, _ =>
    match v, w with
    | text s, text t => .ok (text (s ++ t))
    | list items, list others => .ok (list (items ++ others))
    | tuple items, tuple others => .ok (tuple (items ++ others))
    | bytes octets, bytes others => .ok (bytes (octets ++ others))
    | duration d s m, duration d' s' m' =>
      durationOf (microsecondsOf d s m + microsecondsOf d' s' m')
    | text _, _ | list _, _ | tuple _, _ => .error (.cannotAppend v.className w.typeName)
    | bytes _, _ => .error (.cannotFollowBytes w.typeName)
    | _, _ => .error (.unsupported "+" v.typeName w.typeName)

def minus (v w : Value) : Except Fault Value :=
  match v.number?, w.number? with
  | some a, some b => Number.toValue <$> a.combine (· - ·) (· - ·) b
  | _, _ =>
    match v, w with
    | duration d s m, duration d' s' m' =>
      durationOf (microsecondsOf d s m - microsecondsOf d' s' m')
    | _, _ => .error (.unsupported "-" v.typeName w.typeName)

def largestIndex : Nat := 2 ^ 63 - 1

def mostItems : Nat := 2 ^ 36

/-- How often a sequence is repeated, if there is room for the result. -/
def copiesOf (n : Int) (size : Nat) (tooLong : Fault) : Except Fault Nat :=
  if n < -largestIndex - 1 || largestIndex < n then .error (.indexTooLarge false)
  else if largestIndex < n * size then .error tooLong
  else if mostItems < n * size then .error .noMemory
  else .ok (if size = 0 then 0 else n.toNat)

def repeatItems {α : Type} (items : List α) (n : Int) (tooLong : Fault) : Except Fault (List α) :=
  (fun copies => (List.replicate copies items).flatten) <$> copiesOf n items.length tooLong

def repeated? (v : Value) (n : Int) : Option (Except Fault Value) :=
  match v with
  | text s => some ((fun cs => text (String.ofList cs)) <$>
      repeatItems s.toList n (.tooLong "string is"))
  | list items => some (list <$> repeatItems items n .noMemory)
  | tuple items => some (tuple <$> repeatItems items n .noMemory)
  | bytes octets => some (bytes <$> repeatItems octets n (.tooLong "bytes are"))
  | _ => none

def isSequence (v : Value) : Bool := (v.repeated? 0).isSome

def times (v w : Value) : Except Fault Value :=
  match v.number?, w.number? with
  | some a, some b => Number.toValue <$> a.combine (· * ·) (· * ·) b
  | none, none =>
    if v.isSequence then .error (.cannotRepeat w.typeName)
    else if w.isSequence then .error (.cannotRepeat v.typeName)
    else .error (.unsupported "*" v.typeName w.typeName)
  | left, right =>
    let other := if left.isSome then w else v
    match other, left.orElse fun _ => right with
    | duration d s m, some (.whole n) => durationOf (microsecondsOf d s m * n)
    | duration d s m, some (.binary x) => do
      durationOf (← scaledMicroseconds (microsecondsOf d s m) x)
    | _, some (.whole n) =>
      (other.repeated? n).getD (.error (.unsupported "*" v.typeName w.typeName))
    | _, _ =>
      if other.isSequence then .error (.cannotRepeat "float")
      else .error (.unsupported "*" v.typeName w.typeName)

def raisedTo (v w : Value) : Except Fault Value :=
  match v.number?, w.number? with
  | some a, some b => Number.toValue <$> a.power b
  | _, _ => .error (.unsupported "** or pow()" v.typeName w.typeName)

/-! ### Conversions -/

/-- A value as a float: numbers, texts that write a number, and lengths of time in seconds. -/
def toSeconds : Value → Except Fault Float
  | duration d s m =>
    let total := microsecondsOf d s m
    .ok (Decimal.nearest (total < 0) total.natAbs 1000000)
  | text s =>
    match Decimal.readFloat? s with
    | some x => .ok x
    | none => .error (.unreadable (Text.quoted s))
  | bytes octets =>
    let read :=
      if octets.all (· < 128) then
        Decimal.readFloat? (String.ofList (octets.map fun o => Char.ofNat o.toNat))
      else none
    match read with
    | some x => .ok x
    | none => .error (.unreadable (Text.quotedBytes octets))
  | v =>
    match v.number? with
    | some a => a.toFloat
    | none => .error (.notNumeric v.typeName)

def toIndex (v : Value) : Except Fault Int :=
  match v.whole? with
  | some i => .ok i
  | none => .error (.notWhole v.typeName)

/-- An index that fits into a machine word. -/
def toSize (v : Value) : Except Fault Int := do
  let i ← v.toIndex
  if -largestIndex - 1 ≤ i && i ≤ largestIndex then pure i else .error (.wordTooSmall "ssize_t")

def readWhole (s quoted : String) : Except Fault Int :=
  match Decimal.readWhole? s with
  | none => .error (.unreadableWhole quoted)
  | some (isNegative, digits) =>
    if Decimal.mostDigits < digits.length then .error (.tooManyDigits digits.length)
    else
      let n : Int := Decimal.naturalOf digits
      .ok (if isNegative then -n else n)

/-- A value as a whole number: a number without its fraction, or a text that writes one. -/
def toWhole : Value → Except Fault Int
  | text s => readWhole s (Text.quoted s)
  | bytes octets =>
    readWhole (String.ofList (octets.map fun o => if o < 128 then Char.ofNat o.toNat else '?'))
      (Text.quotedBytes octets)
  | v =>
    match v.number? with
    | some (.whole i) => .ok i
    | some (.binary x) =>
      match Decimal.truncate? x with
      | some i => .ok i
      | none => .error (if x.isNaN then .notNumberNotWhole else .infinityNotWhole)
    | none => .error (.neitherTextNorNumber v.typeName)

def twoPlaces (v : Value) : Except Fault String :=
  match v.number?, v with
  | some a, _ => Decimal.Style.fixed.render false 2 <$> a.toFloat
  | none, text _ => .error (.unknownFormat "str")
  | none, _ => .error (.unformattable v.typeName)

def items? (v : Value) : Except Fault (List Value) :=
  match v.elements? with
  | some items => .ok items
  | none => .error (.notIterable v.typeName)

end Value

end Reattempt
