/-!
# Addresses of services

What keeps a text from being a URI. A URI is a path, or an authority by itself, or a scheme, an
authority and a path with an optional query; a fragment behind them is not looked at. The parts are
checked in this order and octet by octet, so a character beyond ASCII is only taken where every octet
from 127 on is.
-/

set_option autoImplicit false

namespace RpcProxy

/-- What is wrong with a URI. -/
inductive UriFault where
  /-- It is longer than 65534 octets. -/
  | tooLong
  | empty
  /-- Its scheme is longer than 64 characters. -/
  | schemeTooLong
  /-- Some octet may not stand where it stands. -/
  | badCharacter
  /-- Its brackets, colons, percent signs or what is behind its at sign do not fit. -/
  | badAuthority
  /-- Its parts do not fit together. -/
  | badForm
deriving DecidableEq, Repr

def UriFault.message : UriFault → String
  | tooLong => "uri too long"
  | empty => "empty string"
  | schemeTooLong => "scheme too long"
  | badCharacter => "invalid uri character"
  | badAuthority => "invalid authority"
  | badForm => "invalid format"

namespace Uri

/-! ## The scheme -/

/-- Whether a character may stand in a scheme. -/
def inScheme (c : Char) : Bool := c.isAlphanum || c == '+' || c == '-' || c == '.' || c == '~'

/-- What follows the scheme and `://`, if a text starts with a scheme. -/
def afterScheme? (cs : List Char) : Except UriFault (Option (List Char)) :=
  match cs.dropWhile inScheme with
  | ':' :: '/' :: '/' :: rest =>
    if cs.length < 4 then .ok none
    else if 64 < (cs.takeWhile inScheme).length then .error .schemeTooLong
    else .ok (some rest)
  | _ => .ok none

/-! ## The authority -/

/-- The characters behind which an authority is over. -/
def endsAuthority (c : Char) : Bool := c == '/' || c == '?' || c == '#'

/-- Whether a character may stand in an authority. -/
def inAuthority (c : Char) : Bool :=
  c.isAlphanum || "!$&'()*+,-.:;=@[]_~%".toList.contains c

/-- How far an authority was checked. -/
structure Authority where
  /-- The colons that may be in front of a number. -/
  colons : Nat := 0
  opened : Bool := false
  closed : Bool := false
  /-- Whether a percent sign stands where none may be in the end. -/
  percent : Bool := false
  /-- Whether the latest character is an at sign. -/
  endsInAt : Bool := false
deriving DecidableEq, Repr

/-- The most colons of an authority. -/
def maxColons : Nat := 8

/-- One more character. What is in brackets or in front of an at sign is not counted. -/
def Authority.add (a : Authority) (c : Char) : Except UriFault Authority :=
  let a := { a with endsInAt := c == '@' }
  if !inAuthority c then .error .badCharacter
  else if c == ':' then
    if maxColons ≤ a.colons then .error .badAuthority else .ok { a with colons := a.colons + 1 }
  else if c == '[' then
    if a.percent || a.opened then .error .badAuthority else .ok { a with opened := true }
  else if c == ']' then
    if !a.opened || a.closed then .error .badAuthority
    else .ok { a with closed := true, colons := 0, percent := false }
  else if c == '@' then .ok { a with colons := 0, percent := false }
  else .ok { a with percent := a.percent || c == '%' }

/-- Checks an authority; answers what follows it. -/
def afterAuthority (cs : List Char) : Except UriFault (List Char) := do
  let a ← (cs.takeWhile (!endsAuthority ·)).foldlM Authority.add {}
  if a.opened != a.closed || 1 < a.colons || a.endsInAt || a.percent then .error .badAuthority
  else .ok (cs.dropWhile (!endsAuthority ·))

/-! ## The path and the query -/

/-- Whether a character may stand in a path. -/
def inPath (c : Char) : Bool :=
  let n := c.toNat
  n == 0x21 || n == 0x22 || (0x24 ≤ n && n ≤ 0x3B) || n == 0x3D || (0x40 ≤ n && n ≤ 0x5F) ||
    0x61 ≤ n

/-- Whether a character may stand in a query. -/
def inQuery (c : Char) : Bool :=
  let n := c.toNat
  n == 0x21 || (0x24 ≤ n && n ≤ 0x3B) || n == 0x3D || 0x3F ≤ n

/-- What is wrong with a path and the query behind it. -/
def pathFault? (cs : List Char) : Option UriFault :=
  let cs := cs.takeWhile (· != '#')
  let path := cs.takeWhile (· != '?')
  let query := (cs.dropWhile (· != '?')).drop 1
  if path.all inPath && query.all inQuery then none else some .badCharacter

/-! ## The whole -/

/-- What is wrong with a text of one character. -/
def singleFault? (c : Char) : Option UriFault :=
  if c == '/' || c == '*' then none
  else
    match afterAuthority [c] with
    | .error fault => some fault
    | .ok [] => none
    | .ok _ => some .badCharacter

/-- What is wrong with a longer text that does not start with a slash. -/
def fullFault? (cs : List Char) : Option UriFault :=
  match afterScheme? cs with
  | .error fault => some fault
  | .ok scheme =>
    let rest := scheme.getD cs
    match afterAuthority rest with
    | .error fault => some fault
    | .ok path =>
      if scheme.isNone then if path.isEmpty then none else some .badForm
      else if path.length = rest.length then some .badForm
      else pathFault? path

/-- What is wrong with a URI. -/
def fault? (s : String) : Option UriFault :=
  if 65534 < s.utf8ByteSize then some .tooLong
  else
    match s.toList with
    | [] => some .empty
    | [c] => singleFault? c
    | '/' :: cs => pathFault? ('/' :: cs)
    | cs => fullFault? cs

end Uri

end RpcProxy
