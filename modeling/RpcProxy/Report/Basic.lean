import RpcProxy.Bytes
import RpcProxy.Decimal.Shortest
import RpcProxy.Json.Basic
import RpcProxy.Metrics.Basic

/-!
# Reports

What the parts of the proxy hold, as JSON for people and for other programs. This file has the
pieces that all reports share: octets, doubles, counts, lines of an export.
-/

set_option autoImplicit false

namespace RpcProxy.Report

open Json (ofNat ofInt ofOption ofStrings)

/-- A hexadecimal digit in lower case. -/
def hexDigit (n : Nat) : Char := if n < 10 then Char.ofNat (48 + n) else Char.ofNat (87 + n)

/-- Octets as hexadecimal digits. -/
def hex (bs : Bytes) : String :=
  String.ofList (bs.flatMap fun b => [hexDigit (b.toNat / 16), hexDigit (b.toNat % 16)])

/-- Octets: as text if they are text, else as digits. -/
def octets (bs : Bytes) : Json :=
  match bs.toText? with
  | some s => .string s
  | none => .object [("hex", .string (hex bs))]

/-- A double, with as many digits as it takes to tell it from its neighbours. -/
def double (x : Float) : Json := .object [("float", .string (Double.text x))]

/-- Keys with their values. -/
def pairs (l : List (String × String)) : Json := .array (l.map fun (k, v) => ofStrings [k, v])

def counts (l : List (String × Nat)) : Json :=
  .array (l.map fun (k, n) => .array [.string k, ofNat n])

/-- The lines of an export, with an empty one behind the last line end. -/
def lines (ls : List String) : Json := ofStrings ((Export.text ls).splitOn "\n")

/-- The lines of an export that give a value, those of single buckets left out. -/
def values (ls : List String) : Json :=
  ofStrings (((Export.text ls).splitOn "\n").filter fun l =>
    !l.isEmpty && !l.startsWith "#" && (l.splitOn "_bucket").length == 1)

def error (kind : String) : Json := .object [("error", .string kind)]

/-- An error by its kind, with what there is to say about it. -/
def errorWith (kind message : String) : Json :=
  .object [("error", .string kind), ("message", .string message)]

/-! ## Long texts -/

/-- The longest text that is shown whole, in octets. -/
def longest : Nat := 2000

/-- A text, or the length and both ends of one that is too long. -/
def text (s : String) : Json :=
  if s.utf8ByteSize > longest then
    let cs := s.toList
    .object [("long", ofNat s.utf8ByteSize), ("head", .string (String.ofList (cs.take 64))),
      ("tail", .string (String.ofList (cs.drop (cs.length - 64))))]
  else .string s

mutual

/-- A value with all its long texts cut. -/
def shorten : Json → Json
  | .string s => text s
  | .array items => .array (shortenItems items)
  | .object members => .object (shortenMembers members)
  | j => j

/-- The items of an array with long texts cut. -/
def shortenItems : List Json → List Json
  | [] => []
  | v :: rest => shorten v :: shortenItems rest

/-- The members of an object with long texts cut. -/
def shortenMembers : List (String × Json) → List (String × Json)
  | [] => []
  | (key, v) :: rest => (key, shorten v) :: shortenMembers rest

end

end RpcProxy.Report
