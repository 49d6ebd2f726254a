import Reattempt.Value.Arithmetic

/-!
# The order of the items of a set

A set of numbers gives its items in the order of their slots in a table. The slot of a number comes
from its residue. When that slot is taken, the slots behind it are tried if there is room for a
whole run of them, and then other places, as long as all are taken. The table grows before it is
full. A set with other items keeps the order in which they were given.
-/

namespace Reattempt.Slots

/-! ### Residues -/

/-- The prime by which residues are taken. -/
def modulus : Nat := 2 ^ 61 - 1

/-- A residue with the sign of its number; minus one is not in use. -/
def signed (negative : Bool) (residue : Nat) : Int :=
  let r : Int := if negative then -residue else residue
  if r = -1 then -2 else r

/-- The residue of a number. Equal numbers have equal residues, whole or not. -/
def residue? : Number → Option Int
  | .whole i => some (signed (i < 0) (i.natAbs % modulus))
  | .binary x =>
    match Decimal.Binary.ofFloat x with
    | .finite negative significand exponent =>
      some (signed negative (significand * 2 ^ (exponent % 61).toNat % modulus))
    | .infinite negative => some (signed negative 314159)
    | .notNumber => none

/-! ### Tables -/

/-- An item with its residue, as an unsigned word. -/
abbrev Entry := Nat × Value

abbrev Table := Array (Option Entry)

def free? (table : Table) (first count : Nat) : Option Nat :=
  (List.range count).findSome? fun offset =>
    match table[first + offset]? with
    | some none => some (first + offset)
    | _ => none

/-- The number of slots behind a taken one that are tried. -/
def runLength : Nat := 9

/-- Put an entry into the first free slot of its places, of which it visits as many as the patience
says. -/
def place (entry : Entry) : (patience first disturbance : Nat) → Table → Table
  | 0, _, _, table => table
  | patience + 1, first, disturbance, table =>
    let count := if first + runLength < table.size then runLength + 1 else 1
    match free? table first count with
    | some slot => table.setIfInBounds slot (some entry)
    | none =>
      let disturbance := disturbance / 32
      place entry patience ((first * 5 + 1 + disturbance) % table.size) disturbance table

/-- Put an entry into a table. After the disturbance has died down, all slots are visited. -/
def put (table : Table) (entry : Entry) : Table :=
  place entry (table.size + 13) (entry.1 % table.size) entry.1 table

def entries (table : Table) : List Entry := table.toList.filterMap id

def empty (size : Nat) : Table := Array.replicate size none

/-- Add an entry, and move to a larger table when three fifths of the slots are taken. -/
def add (table : Table) (entry : Entry) : Table :=
  let table := put table entry
  let count := (entries table).length
  if count * 5 < (table.size - 1) * 3 then table
  else (entries table).foldl put (empty (2 ^ ((count * 4).log2 + 1)))

def entry? (v : Value) : Option Entry :=
  (v.number?.bind residue?).map fun r => ((r % 2 ^ 64).toNat, v)

/-- The items of a set in order, from distinct items in the order in which they were given. -/
def arranged (items : List Value) : List Value :=
  match items.mapM entry? with
  | some given => (entries (given.foldl add (empty 8))).map Prod.snd
  | none => items

end Reattempt.Slots
