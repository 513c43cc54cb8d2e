import RpcProxy.Decimal.Read
import RpcProxy.Json.Basic
import RpcProxy.Toml.Value

/-!
# Settings in JSON

A JSON value with the structure of a settings file stands for a TOML value. An object is a table with
its keys in order. There is no null in TOML: members that are null are left out, but for one that
stands alone, which names a choice. Integers are those of 64 bits, with or without a sign; beyond
them a numeral is a float.
-/

set_option autoImplicit false

namespace RpcProxy

/-- The number that a numeral or a text stands for, zero if it is none. -/
def Json.float : Json → Float
  | .number numeral => (Double.ofText? numeral).getD 0
  | .string s => (Double.ofText? s).getD 0
  | _ => 0

namespace Toml.Value

mutual

/-- The TOML value that a JSON value stands for. -/
def ofJson : Json → Value
  | .null => .table []
  | .bool b => .boolean b
  | .number numeral =>
    let j := Json.number numeral
    match j.int?, j.nat? with
    | some n, _ => .integer n
    | none, some n => .integer n
    | none, none => .float j.float
  | .string s => .string s
  | .array items => .array (ofItems items)
  | .object [(key, .null)] => .table [(key, .table [])]
  | .object members => .table ((ofMembers members).mergeSort fun a b => decide (a.1 ≤ b.1))

/-- The values of the items of an array. -/
def ofItems : List Json → List Value
  | [] => []
  | v :: rest => ofJson v :: ofItems rest

/-- The entries of the members of an object. -/
def ofMembers : List (String × Json) → List (String × Value)
  | [] => []
  | (_, .null) :: rest => ofMembers rest
  | (key, v) :: rest => (key, ofJson v) :: ofMembers rest

end

end Toml.Value

end RpcProxy
