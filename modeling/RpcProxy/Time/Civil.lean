/-!
# Dates

The wall clock in the two spellings that access logs use, `10/Oct/2000:13:55:36 +0000` and
`2000-10-10T13:55:36.120+00:00`, and in the one of the process's own log. The calendar is the
Gregorian one, in both directions without end, and the zone is always UTC.
-/

set_option autoImplicit false

namespace RpcProxy

/-- A moment in UTC. -/
structure Civil where
  /-- The year, negative before year 0. -/
  year : Int
  month : Nat
  day : Nat
  hour : Nat
  minute : Nat
  /-- The second, 60 in a leap second. -/
  second : Nat
  /-- The nanoseconds within the second. -/
  nanos : Nat
deriving DecidableEq, Repr

namespace Civil

/-- Year, month and day of a day counted from the first of January 1970. Years are counted from
March, so that the leap day is the last one, in eras of 400 years. -/
def ofDay (day : Int) : Int × Nat × Nat :=
  let z := day + 719468
  let era := z / 146097
  let doe := (z % 146097).toNat
  let yoe := (doe - doe / 1460 + doe / 36524 - doe / 146096) / 365
  let doy := doe - (365 * yoe + yoe / 4 - yoe / 100)
  let mp := (5 * doy + 2) / 153
  let d := doy - (153 * mp + 2) / 5 + 1
  let m := if mp < 10 then mp + 3 else mp - 9
  let y : Int := yoe + era * 400
  (if m ≤ 2 then y + 1 else y, m, d)

/-- The moment some seconds and nanoseconds after the start of 1970. A leap second is the second
before it with its nanoseconds counted on. -/
def ofSeconds (seconds : Int) (nanos : Nat) : Civil :=
  let (year, month, day) := ofDay (seconds / 86400)
  let s := (seconds % 86400).toNat
  { year, month, day, hour := s / 3600, minute := s / 60 % 60,
    second := s % 60 + nanos / 1000000000, nanos := nanos % 1000000000 }

/-- The moment some nanoseconds after the start of 1970. -/
def ofNanos (nanos : Int) : Civil :=
  ofSeconds (nanos / 1000000000) (nanos % 1000000000).toNat

/-- A number with zeros in front up to a width. -/
def padded (width n : Nat) : String :=
  let digits := Nat.toDigits 10 n
  String.ofList (List.replicate (width - digits.length) '0' ++ digits)

/-- A year: four digits from 0 to 9999, else a sign and at least four digits. -/
def yearText (year : Int) : String :=
  if 0 ≤ year && year ≤ 9999 then padded 4 year.toNat
  else (if year < 0 then "-" else "+") ++ padded 4 year.natAbs

/-- The short name of a month. -/
def monthName (month : Nat) : String :=
  ["Jan", "Feb", "Mar", "Apr", "May", "Jun", "Jul", "Aug", "Sep", "Oct", "Nov", "Dec"].getD
    (month - 1) ""

/-- Hours, minutes and seconds, divided by colons. -/
def timeText (c : Civil) : String :=
  padded 2 c.hour ++ ":" ++ padded 2 c.minute ++ ":" ++ padded 2 c.second

/-- The spelling of the common log format: `10/Oct/2000:13:55:36 +0000`. -/
def logText (c : Civil) : String :=
  padded 2 c.day ++ "/" ++ monthName c.month ++ "/" ++ yearText c.year ++ ":" ++ c.timeText ++
    " +0000"

/-- The fraction of a second with three, six or nine digits, or nothing when it is zero. -/
def fractionText (nanos : Nat) : String :=
  if nanos = 0 then ""
  else if nanos % 1000000 = 0 then "." ++ padded 3 (nanos / 1000000)
  else if nanos % 1000 = 0 then "." ++ padded 6 (nanos / 1000)
  else "." ++ padded 9 nanos

/-- Date and time, with a `T` between them. -/
def dateTimeText (c : Civil) : String :=
  yearText c.year ++ "-" ++ padded 2 c.month ++ "-" ++ padded 2 c.day ++ "T" ++ c.timeText

/-- The internet spelling: `2000-10-10T13:55:36.120+00:00`. -/
def internetText (c : Civil) : String := c.dateTimeText ++ fractionText c.nanos ++ "+00:00"

/-- The spelling in front of the lines that the process logs: `2000-10-10T13:55:36.120000Z`. -/
def stampText (c : Civil) : String := c.dateTimeText ++ "." ++ padded 6 (c.nanos / 1000) ++ "Z"

end Civil

end RpcProxy
