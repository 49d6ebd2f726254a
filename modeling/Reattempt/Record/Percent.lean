import Reattempt.Value.Arithmetic

/-!
# Percent formats

A format is text in which conversions, each with a percent sign in front, stand for arguments. A
conversion may name a key of a mapping, and has flags, a width, a precision and a letter.
`Percent.pieces` takes a format apart and `Percent.format` fills in arguments, left to right; the
first fault ends it.
-/

namespace Reattempt.Percent

inductive Amount where
  | absent
  | given (n : Nat)
  | asked
  deriving DecidableEq, Repr

inductive Key where
  | absent
  | named (name : String)
  | unclosed
  deriving DecidableEq, Repr

/-- A conversion. Its letter is missing when the text ends first. -/
structure Conversion where
  key : Key
  flags : List Char
  width : Amount
  precision : Amount
  letter : Option Char
  index : Nat
  deriving DecidableEq, Repr

namespace Conversion

def isLeft (c : Conversion) : Bool := c.flags.contains '-'

def showsPlus (c : Conversion) : Bool := c.flags.contains '+'

/-- Numbers that are not negative leave a blank for the sign. -/
def showsBlank (c : Conversion) : Bool := c.flags.contains ' '

/-- Numbers show their base, or keep their point. -/
def isAlternate (c : Conversion) : Bool := c.flags.contains '#'

def padsZeros (c : Conversion) : Bool := c.flags.contains '0'

end Conversion

inductive Piece where
  | literal (c : Char)
  | conversion (c : Conversion)
  deriving DecidableEq, Repr

/-! ### Taking a format apart -/

/-- The characters of the key after an opening parenthesis, up to the parenthesis that closes it,
and what follows. -/
def splitKey : (depth : Nat) → List Char → Option (List Char × List Char)
  | _, [] => none
  | depth, c :: rest =>
    let depth := if c = '(' then depth + 1 else if c = ')' then depth - 1 else depth
    if depth = 0 then some ([], rest)
    else (splitKey depth rest).map fun (key, after) => (c :: key, after)

def takeKey : List Char → Key × List Char
  | '(' :: rest =>
    match splitKey 1 rest with
    | some (key, after) => (.named (String.ofList key), after)
    | none => (.unclosed, [])
  | cs => (.absent, cs)

def isFlag (c : Char) : Bool := "-+ #0".toList.contains c

def numberOf (digits : List Char) : Nat :=
  digits.foldl (fun n c => 10 * n + (c.toNat - '0'.toNat)) 0

/-- An amount, and what follows; without digits it is the given one. -/
def takeAmount (default : Amount) : List Char → Amount × List Char
  | '*' :: rest => (.asked, rest)
  | cs =>
    let digits := cs.takeWhile Char.isDigit
    (if digits.isEmpty then default else .given (numberOf digits), cs.dropWhile Char.isDigit)

def takePrecision : List Char → Amount × List Char
  | '.' :: rest => takeAmount (.given 0) rest
  | cs => (.absent, cs)

/-- What follows a length mark, which has no meaning. -/
def dropLength : List Char → List Char
  | c :: rest => if "hlL".toList.contains c then rest else c :: rest
  | [] => []

def takeConversion (size : Nat) (cs : List Char) : Conversion × List Char :=
  let (key, cs) := takeKey cs
  let flags := cs.takeWhile isFlag
  let (width, cs) := takeAmount .absent (cs.dropWhile isFlag)
  let (precision, cs) := takePrecision cs
  let cs := dropLength cs
  (⟨key, flags, width, precision, cs.head?, size - cs.length⟩, cs.drop 1)

def piecesFrom (size : Nat) : (fuel : Nat) → List Char → List Piece
  | 0, _ | _, [] => []
  | fuel + 1, '%' :: '%' :: rest => .literal '%' :: piecesFrom size fuel rest
  | fuel + 1, '%' :: rest =>
    let (c, rest) := takeConversion size rest
    .conversion c :: piecesFrom size fuel rest
  | fuel + 1, c :: rest => .literal c :: piecesFrom size fuel rest

/-- The pieces of a format; each has at least one character. -/
def pieces (cs : List Char) : List Piece := piecesFrom cs.length cs.length cs

/-! ### Converting one argument -/

/-- A whole number of an argument, for a decimal conversion; a fraction is dropped. -/
def wholeOf (letter : Char) (v : Value) : Except Fault Int :=
  match v.number? with
  | some _ => v.toWhole
  | none => .error (.formatNeedsNumber letter v.typeName)

def exactlyWholeOf (letter : Char) (v : Value) : Except Fault Int :=
  match v.number? with
  | some (.whole i) => .ok i
  | _ => .error (.formatNeedsInteger letter v.typeName)

def floatOf (v : Value) : Except Fault Float :=
  match v.number? with
  | some n => n.toFloat
  | none => .error (.formatNeedsReal v.typeName)

/-- The character of an argument: one of its own, or the one of a code. -/
def characterOf : Value → Except Fault Char
  | .text s =>
    match s.toList with
    | [c] => .ok c
    | _ => .error .characterRequired
  | v =>
    match v.number? with
    | some (.whole i) =>
      if 0 ≤ i && i < 0x110000 then .ok (Text.ofCode i.toNat) else .error .characterOutOfRange
    | _ => .error .characterRequired

/-- An argument before padding: its sign, the mark of its base, and the rest. Only numbers are
padded with zeros. -/
structure Converted where
  isNumber : Bool
  sign : String
  mark : String
  body : String

def signOf (c : Conversion) (isNegative : Bool) : String :=
  if isNegative then "-" else if c.showsPlus then "+" else if c.showsBlank then " " else ""

def convertText (precision : Option Nat) (s : String) : Converted :=
  ⟨false, "", "", match precision with
    | some n => String.ofList (s.toList.take n)
    | none => s⟩

def largestWholePrecision : Nat := 2 ^ 31 - 4

def convertWhole (c : Conversion) (precision : Option Nat) (base : Nat) (mark : String)
    (i : Int) : Except Fault Converted :=
  if largestWholePrecision < precision.getD 0 then .error .precisionTooLarge
  else
    let digits := String.ofList (Nat.toDigits base i.natAbs)
    .ok ⟨true, signOf c (i < 0), if c.isAlternate then mark else "",
      "".pushn '0' (precision.getD 0 - digits.length) ++ digits⟩

def convertFloat (c : Conversion) (precision : Option Nat) (style : Decimal.Style) (x : Float) :
    Converted :=
  let written := style.render c.isAlternate (precision.getD 6) x
  let isNegative := written.startsWith "-"
  ⟨true, signOf c isNegative, "", if isNegative then (written.drop 1).toString else written⟩

def Converted.inCapitals (t : Converted) : Converted :=
  { t with mark := t.mark.toUpper, body := t.body.toUpper }

def convert (c : Conversion) (precision : Option Nat) (letter : Char) (v : Value) :
    Except Fault Converted :=
  let toFloat (style : Decimal.Style) : Except Fault Converted :=
    convertFloat c precision style <$> floatOf v
  let toBase (base : Nat) (mark : String) : Except Fault Converted :=
    exactlyWholeOf letter v >>= convertWhole c precision base mark
  match letter with
  | 's' => .ok (convertText precision v.display)
  | 'r' => .ok (convertText precision v.quote)
  | 'a' => .ok (convertText precision (Text.asciiOnly v.quote))
  | 'd' | 'i' | 'u' => wholeOf letter v >>= convertWhole c precision 10 ""
  | 'o' => toBase 8 "0o"
  | 'x' => toBase 16 "0x"
  | 'X' => Converted.inCapitals <$> toBase 16 "0x"
  | 'e' => toFloat .scientific
  | 'f' => toFloat .fixed
  | 'g' => toFloat .general
  | 'E' => Converted.inCapitals <$> toFloat .scientific
  | 'F' => Converted.inCapitals <$> toFloat .fixed
  | 'G' => Converted.inCapitals <$> toFloat .general
  | 'c' => (fun ch => convertText none ch.toString) <$> characterOf v
  | _ => .error (.unsupportedFormat letter c.index)

def Converted.pad (c : Conversion) (isLeft : Bool) (width : Nat) (t : Converted) :
    Except Fault String :=
  let start := t.sign ++ t.mark
  let missing := width - (start.length + t.body.length)
  if Value.mostItems < missing then .error .noMemory
  else if isLeft then .ok (start ++ t.body ++ "".pushn ' ' missing)
  else if t.isNumber && c.padsZeros then .ok (start ++ "".pushn '0' missing ++ t.body)
  else .ok ("".pushn ' ' missing ++ start ++ t.body)

/-! ### Filling in arguments -/

def sequenceWord : Value → String
  | .bytes _ => "byte"
  | _ => "list"

def hasItems : Value → Bool
  | .dict _ | .list _ | .bytes _ => true
  | _ => false

/-- What is left of the arguments, and the mapping that keys are looked up in. -/
structure Supply where
  items : List Value
  mapping : Option Value

/-- The arguments of a format. A tuple holds several; anything else is one, and a mapping if its
items can be found. -/
def Supply.of : Value → Supply
  | .tuple items => ⟨items, none⟩
  | v => ⟨[v], if hasItems v then some v else none⟩

def Supply.next (supply : Supply) : Except Fault (Value × Supply) :=
  match supply.items with
  | v :: rest => .ok (v, { supply with items := rest })
  | [] => .error .tooFewArguments

/-- Look a key up; its value becomes the only argument. -/
def Supply.select (supply : Supply) : Key → Except Fault Supply
  | .absent => .ok supply
  | key =>
    match supply.mapping, key with
    | none, _ => .error .mappingRequired
    | some _, .unclosed => .error .incompleteKey
    | some (.dict entries), .named name =>
      match entries.find? fun entry => entry.1.equals (.text name) with
      | some (_, v) => .ok { supply with items := [v] }
      | none => .error (.missingKey (.text name))
    | some v, _ => .error (.indexNotWhole (sequenceWord v) "str")

/-- A bound on a width or on a precision that is given: the word for it, the largest number, and
the machine word that has to hold one taken from the arguments. -/
structure Bound where
  part : String
  largest : Nat
  word : String

namespace Bound

def width : Bound := ⟨"width", 2 ^ 63 - 1, "ssize_t"⟩
def precision : Bound := ⟨"precision", 2 ^ 31 - 1, "int"⟩

end Bound

def Supply.amount (supply : Supply) (bound : Bound) :
    Amount → Except Fault (Option Int × Supply)
  | .absent => .ok (none, supply)
  | .given n =>
    if bound.largest < n then .error (.formatTooBig bound.part) else .ok (some n, supply)
  | .asked => do
    let (v, supply) ← supply.next
    match v.whole? with
    | some i =>
      if -bound.largest - 1 ≤ i && i ≤ bound.largest then pure (some i, supply)
      else .error (.wordTooSmall bound.word)
    | none => .error .starNotWhole

/-- The size of a width. The lowest number has no opposite of its size and counts as nothing. -/
def widthOf (i : Int) : Nat := if i < -Bound.width.largest then 0 else i.natAbs

/-- Fill in one conversion. A negative width pads to the right, and a negative precision is
zero. A value that was looked up has to be used. -/
def fill (c : Conversion) (supply : Supply) : Except Fault (String × Supply) := do
  let supply ← supply.select c.key
  let (width, supply) ← supply.amount .width c.width
  let (precision, supply) ← supply.amount .precision c.precision
  let letter ← c.letter.elim (.error .incompleteFormat) .ok
  let (v, supply) ← supply.next
  let converted ← convert c (precision.map Int.toNat) letter v
  let width := width.getD 0
  let text ← converted.pad c (c.isLeft || width < 0) (widthOf width)
  if supply.mapping.isSome && !supply.items.isEmpty then .error .tooManyArguments
  else pure (text, supply)

/-- Fill in the pieces of a format. Without a mapping every argument has to be used. -/
def fillAll : List Piece → Supply → Except Fault String
  | [], supply =>
    if supply.mapping.isNone && !supply.items.isEmpty then .error .tooManyArguments else .ok ""
  | .literal c :: rest, supply => do
    let after ← fillAll rest supply
    pure (c.toString ++ after)
  | .conversion c :: rest, supply => do
    let (text, supply) ← fill c supply
    let after ← fillAll rest supply
    pure (text ++ after)

def format (text : String) (arguments : Value) : Except Fault String :=
  fillAll (pieces text.toList) (.of arguments)

end Reattempt.Percent
