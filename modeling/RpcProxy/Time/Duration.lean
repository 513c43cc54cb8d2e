import RpcProxy.Time.Civil
import RpcProxy.Time.Clock

/-!
# Spans of time as text

A span of time is told in the largest unit that it fills, with as many digits behind the point as
it takes to lose nothing: `1.000000001s`, `2ms`, `1.5µs`, `1ns`.
-/

set_option autoImplicit false

namespace RpcProxy

/-- `n / 10 ^ places` in decimal digits, without zeros at the end. -/
def scaledText (n places : Nat) : String :=
  let unit := Nat.pow 10 places
  let digits := (Civil.padded places (n % unit)).toList.reverse.dropWhile (· == '0')
  toString (n / unit) ++ (if n % unit = 0 then "" else "." ++ String.ofList digits.reverse)

/-- A span of so many nanoseconds. -/
def durationText (nanos : Nat) : String :=
  if second ≤ nanos then scaledText nanos 9 ++ "s"
  else if milli ≤ nanos then scaledText nanos 6 ++ "ms"
  else if micro ≤ nanos then scaledText nanos 3 ++ "µs"
  else toString nanos ++ "ns"

end RpcProxy
