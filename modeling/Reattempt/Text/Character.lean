/-!
# Characters

Every number below `0x110000` is a code. The codes from `0xd800` to `0xdfff` are halves of pairs
of sixteen-bit units and no characters; a half that stands alone is kept as a private character of
the last plane.

A character with the Unicode decimal digit property stands for a number from 0 to 9. The digits of
a script are ten neighbours, so a table of the zeros is enough.
-/

namespace Reattempt.Text

/-! ### Codes -/

def isHalf (code : Nat) : Bool := 0xd800 ≤ code && code < 0xe000

/-- How far above a half its private character lies. -/
def halfShift : Nat := 0x100000

def ofCode (code : Nat) : Char :=
  Char.ofNat (if isHalf code then code + halfShift else code)

def code (c : Char) : Nat :=
  if halfShift ≤ c.toNat && isHalf (c.toNat - halfShift) then c.toNat - halfShift else c.toNat

/-- The sixteen-bit units of a code: one, or a pair above `0xffff`. -/
def units (code : Nat) : List Nat :=
  if code < 0x10000 then [code]
  else
    let rest := code - 0x10000
    [0xd800 + rest / 0x400, 0xdc00 + rest % 0x400]

/-! ### Digits and blanks -/

def digitZeros : List Nat :=
  [0x30, 0x660, 0x6f0, 0x7c0, 0x966, 0x9e6, 0xa66, 0xae6, 0xb66, 0xbe6,
    0xc66, 0xce6, 0xd66, 0xde6, 0xe50, 0xed0, 0xf20, 0x1040, 0x1090, 0x17e0,
    0x1810, 0x1946, 0x19d0, 0x1a80, 0x1a90, 0x1b50, 0x1bb0, 0x1c40, 0x1c50, 0xa620,
    0xa8d0, 0xa900, 0xa9d0, 0xa9f0, 0xaa50, 0xabf0, 0xff10, 0x104a0, 0x10d30, 0x11066,
    0x110f0, 0x11136, 0x111d0, 0x112f0, 0x11450, 0x114d0, 0x11650, 0x116c0, 0x11730, 0x118e0,
    0x11950, 0x11c50, 0x11d50, 0x11da0, 0x16a60, 0x16ac0, 0x16b50, 0x1d7ce, 0x1d7d8, 0x1d7e2,
    0x1d7ec, 0x1d7f6, 0x1e140, 0x1e2f0, 0x1e950, 0x1fbf0]

def digitValue? (c : Char) : Option Nat :=
  (digitZeros.find? fun start => start ≤ c.toNat && c.toNat < start + 10).map (c.toNat - ·)

def isBlank (c : Char) : Bool :=
  let n := c.toNat
  (9 ≤ n && n ≤ 13) || n = 0x20 || n = 0x85 || n = 0xa0 || n = 0x1680
    || (0x2000 ≤ n && n ≤ 0x200a) || n = 0x2028 || n = 0x2029 || n = 0x202f || n = 0x205f
    || n = 0x3000

/-- Whether a character is white: a blank or one of the four separators among the controls. -/
def isWhite (c : Char) : Bool := isBlank c || (0x1c ≤ c.toNat && c.toNat ≤ 0x1f)

def stripBlanks (cs : List Char) : List Char :=
  ((cs.dropWhile isBlank).reverse.dropWhile isBlank).reverse

end Reattempt.Text
