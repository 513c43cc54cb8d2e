/-!
# Reading decimal numerals

The double that a numeral stands for. A numeral has an optional sign, digits with an optional point
among them, and an optional exponent; the words for infinity and for what is no number are read in
any case.
-/

set_option autoImplicit false

namespace RpcProxy.Double

/-- The number that decimal digits spell. -/
def digitsValue (ds : List Char) : Nat := ds.foldl (fun n d => n * 10 + (d.toNat - 48)) 0

/-- The double nearest to `mantissa * 10 ^ e`. Far beyond the largest double and far below the
smallest the power itself is not computed. -/
def scaled (mantissa : Nat) (e : Int) : Float :=
  let magnitude : Int := e + (Nat.toDigits 10 mantissa).length
  if mantissa = 0 || magnitude < -400 then 0
  else if magnitude > 400 then 1.0 / 0.0
  else
    match e with
    | .ofNat n => Float.ofScientific mantissa false n
    | .negSucc n => Float.ofScientific mantissa true (n + 1)

/-- A sign in front of a text: whether it is a minus, and the rest. -/
def splitSign : List Char → Bool × List Char
  | '-' :: rest => (true, rest)
  | '+' :: rest => (false, rest)
  | cs => (false, cs)

/-- The exponent that ends a numeral: nothing, or `e` with digits. -/
def exponent? : List Char → Option Int
  | [] => some 0
  | c :: rest =>
    let (minus, ds) := splitSign rest
    if (c == 'e' || c == 'E') && !ds.isEmpty && ds.all Char.isDigit then
      some (if minus then -(digitsValue ds : Int) else digitsValue ds)
    else none

/-- A numeral without a sign. -/
def unsigned? (cs : List Char) : Option Float :=
  let whole := cs.takeWhile Char.isDigit
  let rest := cs.dropWhile Char.isDigit
  let (fraction, rest) := match rest with
    | '.' :: more => (more.takeWhile Char.isDigit, more.dropWhile Char.isDigit)
    | _ => ([], rest)
  if whole.isEmpty && fraction.isEmpty then none
  else (exponent? rest).map fun e => scaled (digitsValue (whole ++ fraction)) (e - fraction.length)

/-- The double that a numeral stands for. -/
def ofText? (s : String) : Option Float :=
  let (minus, cs) := splitSign s.toList
  let word := String.ofList (cs.map Char.toLower)
  let x? : Option Float :=
    if word == "inf" || word == "infinity" then some (1.0 / 0.0)
    else if word == "nan" then some (0.0 / 0.0)
    else unsigned? cs
  x?.map fun x => if minus then -x else x

end RpcProxy.Double
