/-!
# JSON values

JSON as data, written without blanks and with the members of an object in the order in which they
stand. A number is kept as the numeral that was written, so that none loses digits or its sign.
-/

set_option autoImplicit false

namespace RpcProxy

inductive Json where
  | null
  | bool (b : Bool)
  | number (numeral : String)
  | string (s : String)
  | array (items : List Json)
  | object (members : List (String × Json))
deriving Inhabited

namespace Json

/-! ## Making values -/

def ofNat (n : Nat) : Json := number (toString n)

/-- An integer. -/
def ofInt (n : Int) : Json := number (toString n)

/-- A value that may be missing. -/
def ofOption {α : Type} (f : α → Json) : Option α → Json
  | some a => f a
  | none => null

def ofStrings (l : List String) : Json := array (l.map string)

/-! ## Writing -/

/-- A character inside a string. -/
def escapeChar (c : Char) : List Char :=
  if c = '"' then ['\\', '"']
  else if c = '\\' then ['\\', '\\']
  else if c = '\n' then ['\\', 'n']
  else if c = '\r' then ['\\', 'r']
  else if c = '\t' then ['\\', 't']
  else if c.toNat = 8 then ['\\', 'b']
  else if c.toNat = 12 then ['\\', 'f']
  else if c.toNat < 32 then
    ['\\', 'u', '0', '0'] ++ Nat.toDigits 16 (c.toNat / 16) ++ Nat.toDigits 16 (c.toNat % 16)
  else [c]

/-- A text in quotes. -/
def quote (s : String) : String := "\"" ++ String.ofList (s.toList.flatMap escapeChar) ++ "\""

mutual

/-- The text of a value. -/
def render : Json → String
  | null => "null"
  | bool b => if b then "true" else "false"
  | number numeral => numeral
  | string s => quote s
  | array items => "[" ++ String.intercalate "," (renderItems items) ++ "]"
  | object members => "\x7b" ++ String.intercalate "," (renderMembers members) ++ "\x7d"

/-- The texts of the items of an array. -/
def renderItems : List Json → List String
  | [] => []
  | v :: rest => render v :: renderItems rest

/-- The texts of the members of an object. -/
def renderMembers : List (String × Json) → List String
  | [] => []
  | (key, v) :: rest => (quote key ++ ":" ++ render v) :: renderMembers rest

end

/-! ## Looking into a value -/

/-- The first member of an object with a key. -/
def member? (j : Json) (key : String) : Option Json :=
  match j with
  | object members => members.lookup key
  | _ => none

def string? : Json → Option String
  | string s => some s
  | _ => none

/-- The truth value. -/
def bool? : Json → Option Bool
  | bool b => some b
  | _ => none

/-- The integer that a numeral spells. One with a point or an exponent spells none, and neither does
`-0`, whose sign would be lost. -/
def integer? : Json → Option Int
  | number numeral =>
    if numeral != "-0" && numeral.toList.all fun c => c.isDigit || c == '-' then numeral.toInt?
    else none
  | _ => none

/-- An integer of 64 bits with a sign. -/
def int? (j : Json) : Option Int :=
  j.integer?.filter fun n => -Int.pow 2 63 ≤ n && n < Int.pow 2 63

/-- An integer of 64 bits without a sign. -/
def nat? (j : Json) : Option Nat :=
  match j.integer? with
  | some (.ofNat n) => if n < UInt64.size then some n else none
  | _ => none

/-- The items of an array; any other value has none. -/
def items : Json → List Json
  | array items => items
  | _ => []

/-- The members of an object; any other value has none. -/
def members : Json → List (String × Json)
  | object members => members
  | _ => []

end Json

end RpcProxy
