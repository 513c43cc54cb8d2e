import RpcProxy.Bytes

/-!
# Text from octets that need not be text

Octets that are no UTF-8 are shown as text all the same: every longest part that could have begun a
character, and every other octet that fits nowhere, becomes one replacement character.
-/

set_option autoImplicit false

namespace RpcProxy.Bytes

/-- How many octets follow the first octet of a character; none if it cannot begin a longer one. -/
def following (first : Nat) : Nat :=
  if 0xC2 ≤ first && first < 0xE0 then 1
  else if 0xE0 ≤ first && first < 0xF0 then 2
  else if 0xF0 ≤ first && first < 0xF5 then 3
  else 0

/-- Whether an octet continues a character. -/
def continues (b : UInt8) : Bool := 0x80 ≤ b.toNat && b.toNat < 0xC0

/-- Whether an octet can stand second, behind a given first one. -/
def second (first : Nat) (b : UInt8) : Bool :=
  continues b &&
    (first != 0xE0 || 0xA0 ≤ b.toNat) && (first != 0xED || b.toNat < 0xA0) &&
    (first != 0xF0 || 0x90 ≤ b.toNat) && (first != 0xF4 || b.toNat < 0x90)

/-- The octets behind the first one that belong to the same character. -/
def tailOf (first : Nat) : Bytes → Bytes
  | b :: rest =>
    if 0 < following first && second first b then
      b :: (rest.take (following first - 1)).takeWhile continues
    else []
  | [] => []

def replacement : Char := Char.ofNat 0xFFFD

/-- The first character of octets, and how many octets it takes. -/
def firstChar (a : UInt8) (rest : Bytes) : Char × Nat :=
  let first := a.toNat
  let tail := tailOf first rest
  if first < 0x80 then (Char.ofNat first, 1)
  else if following first ≠ 0 && tail.length = following first then
    let start := if tail.length = 1 then first % 32 else if tail.length = 2 then first % 16 else first % 8
    (Char.ofNat (tail.foldl (fun v b => v * 64 + b.toNat % 64) start), tail.length + 1)
  else (replacement, tail.length + 1)

/-- The characters of octets; `done` holds those so far, the latest first. -/
def lossyChars : Nat → List Char → Bytes → List Char
  | 0, done, _ => done.reverse
  | _ + 1, done, [] => done.reverse
  | fuel + 1, done, a :: rest =>
    let (c, n) := firstChar a rest
    lossyChars fuel (c :: done) (rest.drop (n - 1))

/-- Octets as text, with a replacement character for whatever is none. -/
def toTextLossy (bs : Bytes) : String :=
  match bs.toText? with
  | some s => s
  | none => String.ofList (lossyChars bs.length [] bs)

end RpcProxy.Bytes
