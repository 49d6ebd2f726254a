import Reattempt.Scenario.Web.Escape

/-!
# Hosts

A host is a name, four numbers with points, or an address of groups in brackets. Names are written
in lower case; numbers and groups are checked and stay.
-/

namespace Reattempt

inductive Flaw where
  | tooLong
  | control (c : Char) (index : Nat)
  | badNumber (written : String)
  /-- A host that looks like four numbers and is not, or like an address in brackets. -/
  | badQuad (host : String)
  | badBrackets (host : String)
  | pathAfterHost
  | doubleSlash
  | leadingColon

def Flaw.wording : Flaw → String
  | tooLong => "URL too long"
  | control c index =>
    "Invalid non-printable ASCII character in URL, " ++ Text.quoted c.toString ++ " at position "
      ++ toString index ++ "."
  | badNumber written => "Invalid port: " ++ Text.quoted written
  | badQuad host => "Invalid IPv4 address: " ++ Text.quoted host
  | badBrackets host => "Invalid IPv6 address: " ++ Text.quoted host
  | pathAfterHost => "For absolute URLs, path must be empty or begin with '/'"
  | doubleSlash => "Relative URLs cannot have a path starting with '//'"
  | leadingColon => "Relative URLs cannot have a path starting with ':'"

namespace Host

open Address

/-! ### Four numbers -/

mutual

/-- Whether text is so many runs of digits more than one, each two with one character between
them. -/
def looksNumeric : (more : Nat) → List Char → Bool
  | 0, cs => !cs.isEmpty && cs.all Char.isDigit
  | more + 1, c :: rest => c.isDigit && goesOn more rest
  | _ + 1, [] => false
termination_by _ cs => (cs.length, 0)

/-- Whether text is the rest of a run of digits, a character, and more runs. -/
def goesOn (more : Nat) : List Char → Bool
  | [] => false
  | c :: rest => looksNumeric more rest || c.isDigit && goesOn more rest
termination_by cs => (cs.length, 1)

end

def isOctet (s : String) : Bool :=
  match s.toNat? with
  | some n =>
    s.all Char.isDigit && s.length ≤ 3 && n < 256 && (s.length = 1 || !s.startsWith "0")
  | none => false

def isNumbers (s : String) : Bool :=
  let octets := s.splitOn "."
  octets.length = 4 && octets.all isOctet

/-! ### Groups in brackets -/

def isGroup (s : String) : Bool :=
  1 ≤ s.length && s.length ≤ 4 && s.all Escape.isHexDigit

/-- The groups of an address; four numbers at the end count as two groups. -/
def groups? (s : String) : Option (List String) :=
  let parts := s.splitOn ":"
  match parts.getLast? with
  | some last =>
    if last.contains '.' then if isNumbers last then some (parts.dropLast ++ ["0", "0"]) else none
    else some parts
  | none => none

/-- Whether groups are eight, or less with one gap, which is empty groups inside, or two of them at
an end. -/
def fillAddress (groups : List String) : Bool :=
  let inner := (groups.drop 1).dropLast
  let gaps := (inner.filter String.isEmpty).length
  let first := groups.headD ""
  let last := groups.getLast?.getD ""
  if groups.length < 3 || 9 < groups.length || 1 < gaps then false
  else if gaps = 0 then groups.length = 8 && groups.all isGroup
  else
    let before := inner.takeWhile fun group => !group.isEmpty
    let after := (inner.dropWhile fun group => !group.isEmpty).drop 1
    let opens := if first.isEmpty then before.isEmpty else isGroup first
    let closes := if last.isEmpty then after.isEmpty else isGroup last
    let count := before.length + after.length + (if first.isEmpty then 0 else 1)
      + (if last.isEmpty then 0 else 1)
    opens && closes && (before ++ after).all isGroup && count < 8

def isGroups (s : String) : Bool :=
  match s.splitOn "%" with
  | [address] => (groups? address).any fillAddress
  | [address, zone] => !zone.isEmpty && (groups? address).any fillAddress
  | _ => false

/-! ### All hosts -/

def read (host : String) : Except Flaw String :=
  if looksNumeric 3 host.toList then
    if isNumbers host then .ok host else .error (.badQuad host)
  else if host.startsWith "[" && host.endsWith "]" && 2 ≤ host.length then
    let inner := String.ofList ((host.toList.drop 1).dropLast)
    if isGroups inner then .ok inner else .error (.badBrackets host)
  else .ok (Escape.text Escape.staysInHost (String.ofList (host.toList.map Char.toLower)))

def write (host : String) : String := if host.contains ':' then "[" ++ host ++ "]" else host

end Host

end Reattempt
