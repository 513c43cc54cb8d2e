import RpcProxy.Time.Civil

/-!
# TOML values

What a TOML document holds. Tables are kept as lists of entries; two tables are the same if each
has every key of the other with the same value, in whatever order they stand. Numbers compare as
numbers, so a value that holds no number (`nan`) is not even the same as itself.
-/

set_option autoImplicit false

namespace RpcProxy.Toml

/-- A day of the calendar. -/
structure Date where
  year : Nat
  month : Nat
  day : Nat
deriving DecidableEq, Repr

structure Time where
  hour : Nat
  minute : Nat
  second : Nat
  /-- The nanoseconds within the second. -/
  nanos : Nat := 0
deriving DecidableEq, Repr

/-- The distance from UTC. -/
inductive Offset where
  /-- UTC itself, written `Z`. -/
  | utc
  /-- So many minutes east of it. -/
  | minutes (n : Int)
deriving DecidableEq, Repr

/-- A date, a time, or both, the latter perhaps with an offset. -/
structure Datetime where
  date : Option Date := none
  time : Option Time := none
  offset : Option Offset := none
deriving DecidableEq, Repr

open Civil (padded)

def Date.text (d : Date) : String :=
  padded 4 d.year ++ "-" ++ padded 2 d.month ++ "-" ++ padded 2 d.day

/-- A time as text, with as many digits behind the point as the nanoseconds need. -/
def Time.text (t : Time) : String :=
  let fraction := if t.nanos = 0 then ""
    else "." ++ String.ofList (((padded 9 t.nanos).toList.reverse.dropWhile (· == '0')).reverse)
  padded 2 t.hour ++ ":" ++ padded 2 t.minute ++ ":" ++ padded 2 t.second ++ fraction

def Offset.text : Offset → String
  | .utc => "Z"
  | .minutes n =>
    (if n < 0 then "-" else "+") ++ padded 2 (n.natAbs / 60) ++ ":" ++ padded 2 (n.natAbs % 60)

/-- A date and time as text. -/
def Datetime.text (d : Datetime) : String :=
  (d.date.map Date.text).getD "" ++
    (if d.date.isSome && d.time.isSome then "T" else "") ++
    (d.time.map Time.text).getD "" ++ (d.offset.map Offset.text).getD ""

inductive Value where
  | string (s : String)
  | integer (n : Int)
  | float (x : Float)
  | boolean (b : Bool)
  | datetime (d : Datetime)
  | array (items : List Value)
  | table (entries : List (String × Value))
deriving Inhabited, Repr

namespace Value

def string? : Value → Option String
  | string s => some s
  | _ => none

def table? : Value → Option (List (String × Value))
  | table entries => some entries
  | _ => none

mutual

/-- Whether two values are the same. -/
def same : Value → Value → Bool
  | string a, string b => a == b
  | integer a, integer b => a == b
  | float a, float b => a == b
  | boolean a, boolean b => a == b
  | datetime a, datetime b => a == b
  | array as, array bs => sameItems as bs
  | table es, table fs => es.length == fs.length && sameEntries es fs
  | _, _ => false

/-- Whether two lists hold the same values one by one. -/
def sameItems : List Value → List Value → Bool
  | [], [] => true
  | a :: as, b :: bs => same a b && sameItems as bs
  | _, _ => false

/-- Whether every entry has its like in a table. -/
def sameEntries : List (String × Value) → List (String × Value) → Bool
  | [], _ => true
  | (key, a) :: es, fs =>
    match fs.lookup key with
    | some b => same a b && sameEntries es fs
    | none => false

end

/-! ## Dates as tables -/

/-- The key under which a date stands when it is spelled as a table. -/
def dateKey : String := "$__toml_private_datetime"

mutual

/-- A value with every date in it spelled as a table of one text. -/
def spellDates : Value → Value
  | datetime d => table [(dateKey, string d.text)]
  | array items => array (spellDatesIn items)
  | table entries => table (spellDatesUnder entries)
  | v => v

/-- Items with their dates spelled as tables. -/
def spellDatesIn : List Value → List Value
  | [] => []
  | v :: vs => spellDates v :: spellDatesIn vs

/-- Entries with their dates spelled as tables. -/
def spellDatesUnder : List (String × Value) → List (String × Value)
  | [] => []
  | (key, v) :: es => (key, spellDates v) :: spellDatesUnder es

end

end Value

end RpcProxy.Toml
