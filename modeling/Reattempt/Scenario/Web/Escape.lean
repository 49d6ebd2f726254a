import Reattempt.Text.Quoted

/-!
# Escapes in addresses

A character that may not stand in a part of an address is written by the octets of its UTF-8 form,
each in two hexadecimal digits behind a percent sign. Escapes that are there already stay. In the
settings of a form only letters, digits and four marks stand for themselves, and a blank is a plus
sign.
-/

namespace Reattempt.Address.Escape

/-! ### Characters that stay -/

def isUnreserved (c : Char) : Bool := c.isAlphanum || "-._~".contains c

def isVisibleBut (others : String) (c : Char) : Bool :=
  isUnreserved c || ' ' < c && c < '\x7f' && !others.contains c

def staysInQuery : Char → Bool := isVisibleBut "\"#<>"

def staysInPath : Char → Bool := isVisibleBut "\"#<>?`\x7b\x7d"

def staysInFragment : Char → Bool := isVisibleBut "\"<>`"

def staysInUser : Char → Bool := isVisibleBut "\"#<>?`\x7b\x7d/;=@[\\]^|"

def staysInHost (c : Char) : Bool :=
  isUnreserved c || "!$&'()*+,;=\"`\x7b\x7d%|\\".contains c

/-! ### Writing -/

def octet (o : UInt8) : List Char := '%' :: ((Text.hex 2 o.toNat).toList.map Char.toUpper)

def character (c : Char) : List Char := c.toString.toUTF8.toList.flatMap octet

def keepOrEscape (stays : Char → Bool) (c : Char) : List Char :=
  if stays c then [c] else character c

def isHexDigit (c : Char) : Bool :=
  c.isDigit || 'a' ≤ c && c ≤ 'f' || 'A' ≤ c && c ≤ 'F'

/-- Text with escapes for the characters that do not stay. Two digits behind a percent sign are an
escape already. -/
def part (stays : Char → Bool) : List Char → List Char
  | '%' :: a :: b :: rest =>
    if isHexDigit a && isHexDigit b then '%' :: a :: b :: part stays rest
    else keepOrEscape stays '%' ++ part stays (a :: b :: rest)
  | c :: rest => keepOrEscape stays c ++ part stays rest
  | [] => []

def text (stays : Char → Bool) (s : String) : String := String.ofList (part stays s.toList)

def form (s : String) : String :=
  String.ofList (s.toList.flatMap fun c => if c = ' ' then ['+'] else keepOrEscape isUnreserved c)

def formOf (settings : List (String × String)) : String :=
  "&".intercalate (settings.map fun (name, item) => form name ++ "=" ++ form item)

end Reattempt.Address.Escape
