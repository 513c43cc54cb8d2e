import RpcProxy.Decimal.Read
import RpcProxy.Toml.Value

/-!
# Scalars and keys of TOML

Readers for the parts of a document that do not nest: keys, strings in their four spellings,
integers in four bases, floats, dates and times. A reader takes characters off the front of the
text and answers nothing when they do not fit.
-/

set_option autoImplicit false

namespace RpcProxy.Toml

/-- Takes characters off the front of a text. -/
abbrev Reader := StateT (List Char) Option

namespace Reader

/-- The next character, which stays where it is. -/
def peek : Reader (Option Char) := fun cs => some (cs.head?, cs)

/-- Takes the character `c`. -/
def char (c : Char) : Reader Unit := fun
  | d :: cs => if d = c then some ((), cs) else none
  | [] => none

/-- Takes the text `s`. -/
def text (s : String) : Reader Unit := fun cs =>
  let p := s.toList
  if p.isPrefixOf cs then some ((), cs.drop p.length) else none

/-- Takes one character of a class. -/
def oneOf (p : Char → Bool) : Reader Char := fun
  | d :: cs => if p d then some (d, cs) else none
  | [] => none

/-- Takes all characters of a class, perhaps none. -/
def manyOf (p : Char → Bool) : Reader (List Char) := fun cs =>
  some (cs.takeWhile p, cs.dropWhile p)

/-- Takes exactly `n` characters of a class. -/
def exactly (n : Nat) (p : Char → Bool) : Reader (List Char) := fun cs =>
  let taken := cs.take n
  if taken.length = n && taken.all p then some (taken, cs.drop n) else none

/-- Succeeds only if the condition holds. -/
def check (b : Bool) : Reader Unit := if b then pure () else failure

end Reader

open Reader

/-! ## Blanks and comments -/

/-- Space and tab. -/
def isGap (c : Char) : Bool := c == ' ' || c == '\t'

/-- The characters of a comment or of a string that are not singled out: tab, the printable ones
of ASCII, and all beyond ASCII. -/
def isPlain (c : Char) : Bool := c == '\t' || (0x20 ≤ c.toNat && c.toNat != 0x7F)

/-- Skips spaces and tabs. -/
def gap : Reader Unit := do let _ ← manyOf isGap

/-- A line end: a newline, perhaps behind a carriage return. -/
def lineEnd : Reader Unit := text "\n" <|> text "\r\n"

/-- Skips a comment, if one starts here. -/
def comment : Reader Unit := do
  match ← peek with
  | some '#' => let _ ← manyOf isPlain
  | _ => pure ()

/-- The end of a line with what may stand before it, or the end of the text. -/
def finishLine : Reader Unit := do
  gap
  comment
  match ← peek with
  | none => pure ()
  | some _ => lineEnd

/-- A text without the blanks, comments and line ends that it starts with; `inside` tells that a
comment has begun. -/
def dropLines (inside : Bool) : List Char → List Char
  | [] => []
  | '\n' :: cs => dropLines false cs
  | '\r' :: '\n' :: cs => dropLines false cs
  | c :: cs =>
    if inside then if isPlain c then dropLines true cs else c :: cs
    else if isGap c then dropLines false cs
    else if c == '#' then dropLines true cs
    else c :: cs

/-- Skips blanks, comments and line ends. -/
def skipLines : Reader Unit := modify (dropLines false)

/-! ## Strings -/

/-- The number that hexadecimal digits spell. -/
def hexValue (ds : List Char) : Nat :=
  ds.foldl (fun n c =>
    let k := c.toNat
    n * 16 + (if k ≤ 57 then k - 48 else if k ≤ 70 then k - 55 else k - 87)) 0

/-- A hexadecimal digit. -/
def isHex (c : Char) : Bool :=
  c.isDigit || ('a' ≤ c && c ≤ 'f') || ('A' ≤ c && c ≤ 'F')

/-- A character given by `n` hexadecimal digits. -/
def codePoint (n : Nat) : Reader Char := do
  let v := hexValue (← exactly n isHex)
  check (v < 0xD800 || (0xE000 ≤ v && v < 0x110000))
  return Char.ofNat v

/-- The character that an escape stands for, behind its backslash. -/
def escaped : Reader Char := do
  match ← oneOf fun _ => true with
  | 'b' => return Char.ofNat 8
  | 'f' => return Char.ofNat 12
  | 'n' => return '\n'
  | 'r' => return '\r'
  | 't' => return '\t'
  | '"' => return '"'
  | '\\' => return '\\'
  | 'u' => codePoint 4
  | 'U' => codePoint 8
  | _ => failure

/-- The text that is left, which bounds the steps of a loop that takes a character in each. -/
def remaining : Reader (List Char) := get

/-- The rest of a string in double quotes on one line; `done` is what was read, in reverse. -/
def basicRest (done : List Char) : List Char → Reader String
  | [] => failure
  | _ :: fuel => do
    match ← oneOf fun _ => true with
    | '"' => return String.ofList done.reverse
    | '\\' => basicRest ((← escaped) :: done) fuel
    | c => check (isPlain c); basicRest (c :: done) fuel

/-- The rest of a string in single quotes on one line. -/
def literalRest : Reader String := do
  let cs ← manyOf fun c => isPlain c && c != '\''
  char '\''
  return String.ofList cs

/-- Closes a string of several lines where quotes `q` stand: three end it, and of up to five the
surplus belongs to the text; fewer than three belong to it and the string goes on. Answers the
quotes that belong to the text and whether the string ended. -/
def closeQuotes (q : Char) : Reader (List Char × Bool) := fun cs =>
  let run := (cs.takeWhile (· == q)).length
  if run < 3 then some ((List.replicate run q, false), cs.drop run)
  else
    let surplus := min (run - 3) 2
    some ((List.replicate surplus q, true), cs.drop (surplus + 3))

/-- A text without the blanks and line ends that it starts with. -/
def dropBlankLines : List Char → List Char
  | ' ' :: cs => dropBlankLines cs
  | '\t' :: cs => dropBlankLines cs
  | '\n' :: cs => dropBlankLines cs
  | '\r' :: '\n' :: cs => dropBlankLines cs
  | cs => cs

/-- Skips blanks and line ends behind a backslash that ends a line. -/
def joinLine : Reader Unit := do
  gap
  lineEnd
  modify dropBlankLines

/-- The rest of a string in double quotes over several lines. -/
def basicLines (done : List Char) : List Char → Reader String
  | [] => failure
  | _ :: fuel => do
    match ← peek with
    | none => failure
    | some '"' =>
      let (quotes, ended) ← closeQuotes '"'
      let done := quotes ++ done
      if ended then return String.ofList done.reverse else basicLines done fuel
    | some '\\' =>
      char '\\'
      match ← optional joinLine with
      | some _ => basicLines done fuel
      | none => basicLines ((← escaped) :: done) fuel
    | some c =>
      match ← optional lineEnd with
      | some _ => basicLines ('\n' :: done) fuel
      | none =>
        check (isPlain c)
        char c
        basicLines (c :: done) fuel

/-- The rest of a string in single quotes over several lines. -/
def literalLines (done : List Char) : List Char → Reader String
  | [] => failure
  | _ :: fuel => do
    match ← peek with
    | none => failure
    | some '\'' =>
      let (quotes, ended) ← closeQuotes '\''
      let done := quotes ++ done
      if ended then return String.ofList done.reverse else literalLines done fuel
    | some c =>
      match ← optional lineEnd with
      | some _ => literalLines ('\n' :: done) fuel
      | none =>
        check (isPlain c)
        char c
        literalLines (c :: done) fuel

/-- A string in double quotes on one line. -/
def basicString : Reader String := do char '"'; basicRest [] (← remaining)

/-- A string in single quotes on one line. -/
def literalString : Reader String := do char '\''; literalRest

/-- A string in any of its four spellings. A line end right behind three quotes does not count. -/
def anyString : Reader String := do
  match ← optional (text "\"\"\"") with
  | some _ => let _ ← optional lineEnd; basicLines [] (← remaining)
  | none =>
    match ← optional (text "'''") with
    | some _ => let _ ← optional lineEnd; literalLines [] (← remaining)
    | none => basicString <|> literalString

/-! ## Keys -/

/-- A character of a key without quotes. -/
def isBare (c : Char) : Bool := c.isAlphanum || c == '_' || c == '-'

def simpleKey : Reader String := do
  match ← peek with
  | some '"' => basicString
  | some '\'' => literalString
  | _ =>
    let cs ← manyOf isBare
    check (!cs.isEmpty)
    return String.ofList cs

/-- The parts of a key behind its first. -/
def keyRest (done : List String) : List Char → Reader (List String)
  | [] => return done.reverse
  | _ :: fuel => do
    gap
    match ← optional (char '.') with
    | none => return done.reverse
    | some _ =>
      gap
      keyRest ((← simpleKey) :: done) fuel

/-- Nesting, and the parts of one key, stay below this number. -/
def maxDepth : Nat := 80

/-- A key of one or more parts, divided by dots, with the blanks around it. -/
def dottedKey : Reader (List String) := do
  gap
  let first ← simpleKey
  let key ← keyRest [first] (← remaining)
  check (key.length < maxDepth)
  return key

/-! ## Numbers -/

/-- Digits of a class, with single underscores between them; `done` is what was read, in
reverse. -/
def digitsRest (p : Char → Bool) (done : List Char) : Reader (List Char) := fun
  | '_' :: d :: cs => if p d then digitsRest p (d :: done) cs else none
  | '_' :: [] => none
  | c :: cs => if p c then digitsRest p (c :: done) cs else some (done.reverse, c :: cs)
  | [] => some (done.reverse, [])

/-- One or more digits of a class, with single underscores between them. -/
def digits (p : Char → Bool) : Reader (List Char) := do
  let d ← oneOf p
  digitsRest p [d]

/-- A sign, if there is one: whether it is a minus. -/
def sign : Reader Bool := do
  match ← peek with
  | some '+' => char '+'; return false
  | some '-' => char '-'; return true
  | _ => return false

/-- Decimal digits without a zero in front. -/
def wholeDigits : Reader (List Char) := do
  match ← peek with
  | some '0' => char '0'; return ['0']
  | _ => digits Char.isDigit

/-- The number that digits of a base up to eight spell. -/
def baseValue (base : Nat) (ds : List Char) : Nat :=
  ds.foldl (fun n c => n * base + (c.toNat - 48)) 0

/-- An integer of 64 bits. -/
def integer : Reader Int := do
  let fits (n : Int) : Bool := -Int.pow 2 63 ≤ n && n < Int.pow 2 63
  let unsigned (n : Nat) : Reader Int := do
    check (fits n)
    return n
  match ← optional (text "0x") with
  | some _ => unsigned (hexValue (← digits isHex))
  | none =>
    match ← optional (text "0o") with
    | some _ => unsigned (baseValue 8 (← digits fun c => '0' ≤ c && c ≤ '7'))
    | none =>
      match ← optional (text "0b") with
      | some _ => unsigned (baseValue 2 (← digits fun c => c == '0' || c == '1'))
      | none =>
        let minus ← sign
        let n : Int := Double.digitsValue (← wholeDigits)
        let n := if minus then -n else n
        check (fits n)
        return n

def exponent : Reader Int := do
  let _ ← oneOf fun c => c == 'e' || c == 'E'
  let minus ← sign
  let n : Int := Double.digitsValue (← digits Char.isDigit)
  return if minus then -n else n

/-- A float that is no ordinary number. -/
def specialFloat : Reader Float := do
  let minus ← sign
  let x : Float ← (do text "inf"; return 1.0 / 0.0) <|> (do text "nan"; return 0.0 / 0.0)
  return if minus then -x else x

/-- A float with a point or an exponent; one too large for a double is refused. -/
def decimalFloat : Reader Float := do
  let minus ← sign
  let whole ← wholeDigits
  let frac ← optional (do char '.'; digits Char.isDigit)
  let e ← if frac.isSome then (fun e => e.getD 0) <$> optional exponent else exponent
  let frac := frac.getD []
  let x := Double.scaled (Double.digitsValue (whole ++ frac)) (e - frac.length)
  let x := if minus then -x else x
  check (!(x == 1.0 / 0.0))
  return x

/-! ## Dates and times -/

/-- A number of exactly `n` digits between two bounds. -/
def field (n low high : Nat) : Reader Nat := do
  let v := Double.digitsValue (← exactly n Char.isDigit)
  check (low ≤ v && v ≤ high)
  return v

def monthDays (year month : Nat) : Nat :=
  if month = 2 then
    if year % 4 = 0 && (year % 100 ≠ 0 || year % 400 = 0) then 29 else 28
  else if month = 4 || month = 6 || month = 9 || month = 11 then 30
  else 31

def date : Reader Date := do
  let year ← field 4 0 9999
  char '-'
  let month ← field 2 1 12
  char '-'
  let day ← field 2 1 31
  check (day ≤ monthDays year month)
  return { year, month, day }

/-- Digits behind a point as nanoseconds; those beyond the ninth do not count. -/
def fraction (ds : List Char) : Nat :=
  let ds := ds.take 9
  Double.digitsValue ds * Nat.pow 10 (9 - ds.length)

/-- A time of day, the hour at most `lastHour`. -/
def time (lastHour : Nat) : Reader Time := do
  let hour ← field 2 0 lastHour
  char ':'
  let minute ← field 2 0 59
  char ':'
  let second ← field 2 0 60
  match ← peek with
  | some '.' =>
    char '.'
    let ds ← manyOf Char.isDigit
    check (!ds.isEmpty)
    return { hour, minute, second, nanos := fraction ds }
  | _ => return { hour, minute, second }

/-- An offset from UTC; its hours and minutes must fit together. -/
def offset (fits : Nat → Nat → Bool) : Reader Offset := do
  match ← oneOf fun c => c == 'Z' || c == 'z' || c == '+' || c == '-' with
  | '+' => return .minutes (← distance)
  | '-' => return .minutes (-(← distance))
  | _ => return .utc
where
  /-- Hours and minutes as minutes. -/
  distance : Reader Int := do
    let h ← field 2 0 99
    char ':'
    let m ← field 2 0 99
    check (fits h m)
    return (h * 60 + m : Nat)

/-- A date, a date with a time, or a time. -/
def datetime : Reader Datetime :=
  (do
    let d ← date
    let t ← optional (do
      let _ ← oneOf fun c => c == 'T' || c == 't' || c == ' '
      let t ← time 23
      let o ← optional (offset fun h m => h ≤ 23 && m ≤ 59)
      return (t, o))
    match t with
    | some (t, o) => return { date := some d, time := some t, offset := o }
    | none => return { date := some d }) <|>
  (do return { time := some (← time 23) })

/-- A number, a date or a time. The longest reading that fits is taken first. -/
def number : Reader Value :=
  (do return .datetime (← datetime)) <|> (do return .float (← decimalFloat)) <|>
    (do return .float (← specialFloat)) <|> (do return .integer (← integer))

end RpcProxy.Toml
