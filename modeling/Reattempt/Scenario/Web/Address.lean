import Reattempt.Value.Arithmetic
import Reattempt.Scenario.Web.Host

/-!
# Addresses

An address has a scheme, a user, a host with a number, a path, a query and a fragment. Reading an
address brings its parts into their usual form: the scheme and the host in lower case, no number
that goes without saying, no dots that walk through the path, and escapes for characters that may
not stand.
-/

namespace Reattempt

structure Address where
  scheme : String
  user : String
  host : String
  number : Option Int
  path : String
  query : Option String
  fragment : Option String

namespace Address

/-! ### Parts of a text -/

/-- What stands before the first of some characters, and the rest from there on. -/
def upTo (ends : List Char) (cs : List Char) : List Char × List Char :=
  cs.span fun c => !ends.contains c

/-- What stands behind a mark, if the text starts with it, and the rest. -/
def behind (mark : Char) (ends : List Char) (cs : List Char) :
    Option (List Char) × List Char :=
  match cs with
  | c :: rest =>
    if c = mark then ((upTo ends rest).1, (upTo ends rest).2) else (none, cs)
  | [] => (none, [])

def isOfScheme (c : Char) : Bool := c.isAlphanum || "+.-".contains c

def splitScheme (cs : List Char) : List Char × List Char :=
  let (scheme, rest) := cs.span isOfScheme
  match rest with
  | ':' :: after => if scheme.head?.all Char.isAlpha then (scheme, after) else ([], cs)
  | _ => ([], cs)

def splitAuthority : List Char → List Char × List Char
  | '/' :: '/' :: rest => upTo ['/', '?', '#'] rest
  | cs => ([], cs)

/-- The text before the last of a character and the text behind it, or nothing and the text. -/
def splitLast (mark : Char) (cs : List Char) : List Char × List Char :=
  let (behind, before) := cs.reverse.span (· ≠ mark)
  (before.tail.reverse, behind.reverse)

def splitNumber (cs : List Char) : List Char × List Char :=
  let (host, rest) :=
    if cs.head? = some '[' && cs.contains ']' then
      ((splitLast ']' cs).1 ++ [']'], (splitLast ']' cs).2)
    else upTo [':'] cs
  match rest with
  | ':' :: number => (host, number)
  | number => (host, number)

/-! ### Usual forms -/

def usualNumber (scheme : String) : Option Int :=
  [("ftp", 21), ("http", 80), ("https", 443), ("ws", 80), ("wss", 443)].lookup scheme

def unusual (scheme : String) (number : Option Int) : Option Int :=
  if number = usualNumber scheme then none else number

def readNumber (scheme number : String) : Except Flaw (Option Int) :=
  if number.isEmpty then .ok none
  else
    match (Value.text number).toWhole with
    | .ok i => .ok (unusual scheme (some i))
    | .error _ => .error (.badNumber number)

/-- The segments of a path without dots; two dots take back the segment before them. -/
def withoutDots : List String → List String → List String
  | kept, [] => kept.reverse
  | kept, "." :: rest => withoutDots kept rest
  | kept, ".." :: rest =>
    withoutDots (if kept = [""] then kept else kept.tail) rest
  | kept, segment :: rest => withoutDots (segment :: kept) rest

def normalPath (path : String) : String :=
  let segments := path.splitOn "/"
  if segments.contains "." || segments.contains ".." then
    "/".intercalate (withoutDots [] segments)
  else path

def checkPath (hasScheme hasHost : Bool) (path : String) : Except Flaw Unit :=
  if hasHost && !path.isEmpty && !path.startsWith "/" then .error .pathAfterHost
  else if !hasScheme && !hasHost && path.startsWith "//" then .error .doubleSlash
  else if !hasScheme && !hasHost && path.startsWith ":" then .error .leadingColon
  else .ok ()

/-! ### Reading and writing -/

def mostLength : Nat := 65536

def control? (cs : List Char) : Option Flaw :=
  let isControl (c : Char) : Bool := c < ' ' || c = '\x7f'
  (cs.find? isControl).map fun c => .control c (cs.takeWhile fun d => !isControl d).length

def ofParts (scheme authority path : String) (query fragment : Option String) :
    Except Flaw Address := do
  let (user, place) := splitLast '@' authority.toList
  let (host, number) := splitNumber place
  let host ← Host.read (String.ofList host)
  let number ← readNumber scheme (String.ofList number)
  let hasHost := !user.isEmpty || !host.isEmpty || number.isSome
  checkPath (!scheme.isEmpty) hasHost path
  let path := if scheme.isEmpty && !hasHost then path else normalPath path
  pure {
    scheme := String.ofList (scheme.toList.map Char.toLower)
    user := Escape.text Escape.staysInUser (String.ofList user)
    host, number
    path := Escape.text Escape.staysInPath path
    query := query.map (Escape.text Escape.staysInQuery)
    fragment := fragment.map (Escape.text Escape.staysInFragment) }

def read (s : String) : Except Flaw Address :=
  if mostLength < s.length then .error .tooLong
  else
    match control? s.toList with
    | some flaw => .error flaw
    | none =>
      let (scheme, rest) := splitScheme s.toList
      let (authority, rest) := splitAuthority rest
      let (path, rest) := upTo ['?', '#'] rest
      let (query, rest) := behind '?' ['#'] rest
      let (fragment, _) := behind '#' [] rest
      ofParts (String.ofList scheme) (String.ofList authority) (String.ofList path)
        (query.map String.ofList) (fragment.map String.ofList)

def authority (a : Address) : String :=
  (if a.user.isEmpty then "" else a.user ++ "@") ++ Host.write a.host
    ++ (match a.number with
        | some number => ":" ++ toString number
        | none => "")

def write (a : Address) : String :=
  (if a.scheme.isEmpty then "" else a.scheme ++ ":")
    ++ (if a.authority.isEmpty then "" else "//" ++ a.authority)
    ++ a.path
    ++ (match a.query with
        | some query => "?" ++ query
        | none => "")
    ++ (match a.fragment with
        | some fragment => "#" ++ fragment
        | none => "")

/-! ### What requests do with addresses -/

def isAbsolute (a : Address) : Bool := !a.scheme.isEmpty && !a.host.isEmpty

/-- An address as it is asked: one that does not say where to go is a path from the root. -/
def fromRoot (a : Address) : Address :=
  if a.isAbsolute then a
  else
    ⟨"", "", "", none, "/" ++ String.ofList (a.path.toList.dropWhile (· = '/')), a.query, none⟩

def withQuery (query : Option String) (a : Address) : Address :=
  { a with
    query := query.map (Escape.text Escape.staysInQuery)
    number := unusual a.scheme a.number }

end Address

end Reattempt
