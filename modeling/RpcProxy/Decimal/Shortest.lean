/-!
# The shortest decimal of a binary fraction

A finite double is `mantissa * 2 ^ exponent`. Among all decimals that round back to it, the text of
a double takes one with the fewest digits, and of those the one nearest to the double. The search
is exact: for one digit, two digits, and so on up to seventeen, it tests the two neighbours of the
value on that decimal grid against the interval of reals that round to the double.

`Double.text` writes the digits without an exponent, however large or small the number is.
-/

set_option autoImplicit false

namespace RpcProxy.Decimal

/-- A positive double, or zero, as `mantissa * 2 ^ exponent`. -/
structure Binary where
  /-- The significand. -/
  mantissa : Nat
  /-- The power of two it is scaled by. -/
  exponent : Int
deriving DecidableEq, Repr

/-- A decimal: `digits * 10 ^ exponent`. -/
structure Scaled where
  digits : Nat
  /-- The power of ten it is scaled by. -/
  exponent : Int
deriving DecidableEq, Repr

/-- The interval of reals that round to a double, over one denominator: `low / den` to
`high / den`, the value being `value / den`; the ends belong to it if `closed`. -/
structure Interval where
  /-- Numerator of the lower end. -/
  low : Nat
  /-- Numerator of the double itself. -/
  value : Nat
  /-- Numerator of the upper end. -/
  high : Nat
  /-- The common denominator. -/
  den : Nat
  /-- Whether the ends round to the double too. -/
  closed : Bool
deriving DecidableEq, Repr

/-- The interval of a double. Below a power of two the neighbour is half as far. -/
def Binary.interval (b : Binary) : Interval :=
  let narrow := b.mantissa == Nat.pow 2 52 && b.exponent != -1074
  let scale := 4
  let low := scale * b.mantissa - (if narrow then 1 else 2)
  let high := scale * b.mantissa + 2
  let closed := b.mantissa % 2 == 0
  match b.exponent with
  | .ofNat e =>
    ⟨low * Nat.pow 2 e, scale * b.mantissa * Nat.pow 2 e, high * Nat.pow 2 e, scale, closed⟩
  | .negSucc e => ⟨low, scale * b.mantissa, high, scale * Nat.pow 2 (e + 1), closed⟩

/-- Whether `num / den'` lies in the interval. -/
def Interval.holds (i : Interval) (num den' : Nat) : Bool :=
  let x := num * i.den
  if i.closed then i.low * den' ≤ x && x ≤ i.high * den'
  else i.low * den' < x && x < i.high * den'

/-- Of the two neighbours of the value among the multiples of `10 ^ k`, the nearer one that lies in
the interval; half way counts for the upper one. -/
def Interval.neighbour? (i : Interval) (k : Int) : Option Nat :=
  let up := Nat.pow 10 (-k).toNat
  let down := Nat.pow 10 k.toNat
  let num := i.value * up
  let den := i.den * down
  let below := num / den
  let above := below + 1
  let holdsBelow := i.holds (below * down) up
  let holdsAbove := i.holds (above * down) up
  if holdsBelow && holdsAbove then
    some (if 2 * (num - below * den) < den then below else above)
  else if holdsBelow then some below
  else if holdsAbove then some above
  else none

/-- The least `e` with `num / den < 10 ^ e`, searched upwards from `e`. -/
def magnitudeFrom (num den : Nat) (e : Int) : Nat → Int
  | 0 => e
  | fuel + 1 =>
    if num * Nat.pow 10 (-e).toNat < den * Nat.pow 10 e.toNat then e
    else magnitudeFrom num den (e + 1) fuel

/-- The number of digits before the point of a positive `num / den`; below one tenth it is
negative, by the zeros behind the point. A power of two bounds it from below. -/
def magnitude (num den : Nat) : Int :=
  let bits : Int := (Nat.log2 num : Int) - (Nat.log2 den : Int) - 1
  magnitudeFrom num den (bits * 30103 / 100000 - 1) 6

/-- The first grid of at most `fuel` more digits on which a neighbour lies in the interval. -/
def Interval.search (i : Interval) (top : Int) (n : Nat) : Nat → Scaled
  | 0 => ⟨0, 0⟩
  | fuel + 1 =>
    match i.neighbour? (top - n) with
    | some d => ⟨d, top - n⟩
    | none => i.search top (n + 1) fuel

/-- The shortest decimal that rounds to a positive double, nearest to it among the shortest. -/
def Binary.shortest (b : Binary) : Scaled :=
  let i := b.interval
  i.search (magnitude i.value i.den) 1 17

end RpcProxy.Decimal

namespace RpcProxy.Double

open Decimal

/-- The parts of a double: whether it is negative, its exponent field and its fraction field. -/
def parts (x : Float) : Bool × Nat × Nat :=
  let bits := x.toBits.toNat
  (bits / Nat.pow 2 63 == 1, bits / Nat.pow 2 52 % 2048, bits % Nat.pow 2 52)

/-- A decimal written out in full, without an exponent and without zeros behind the last digit. -/
def positional (s : Scaled) : String :=
  let digits := Nat.toDigits 10 s.digits
  let zeros (n : Nat) : List Char := List.replicate n '0'
  match s.exponent with
  | .ofNat e => String.ofList (digits ++ zeros e)
  | .negSucc e =>
    let places := e + 1
    let digits := zeros (places + 1 - digits.length) ++ digits
    let whole := digits.take (digits.length - places)
    let frac := Text.trimZeros (digits.drop (digits.length - places))
    if frac.isEmpty then String.ofList whole else String.ofList (whole ++ '.' :: frac)
where
  /-- The digits without the zeros at their end. -/
  Text.trimZeros (ds : List Char) : List Char := (ds.reverse.dropWhile (· == '0')).reverse

/-- The text of a double: the shortest digits that read back, never with an exponent. -/
def text (x : Float) : String :=
  let (negative, exponent, fraction) := parts x
  let sign := if negative then "-" else ""
  if exponent = 2047 then
    if fraction = 0 then sign ++ "inf" else "NaN"
  else if exponent = 0 && fraction = 0 then sign ++ "0"
  else
    let b : Binary :=
      if exponent = 0 then ⟨fraction, -1074⟩
      else ⟨Nat.pow 2 52 + fraction, (exponent : Int) - 1075⟩
    sign ++ positional b.shortest

end RpcProxy.Double
