import RpcProxy.Toml.Scalar

/-!
# Dates spelled as tables

Where a setting may be any value, a table whose first key is `Value.dateKey` is a date, and the text
under that key must spell one. The spelling is a little wider than in a document: midnight may be
the 24th hour, an offset may stand behind a date alone, and it may be anything up to a whole day.
-/

set_option autoImplicit false

namespace RpcProxy.Toml

open Reader

/-- An offset of at most a day, or nothing. -/
def spelledOffset : Reader (Option Offset) := do
  match ← peek with
  | none => return none
  | some _ => return some (← offset fun h m => h * 60 + m ≤ 24 * 60)

/-- The time behind a date, or nothing. -/
def spelledTime : Reader (Option Time) := do
  match ← peek with
  | some c =>
    if c == 'T' || c == 't' || c == ' ' then
      let _ ← oneOf fun _ => true
      return some (← time 24)
    else return none
  | none => return none

/-- A date, a date with a time, or a time. A time by itself has no offset. -/
def spelledDatetime : Reader Datetime := do
  if (← get)[2]? = some ':' then return { time := some (← time 24) }
  else
    let d ← date
    let t ← spelledTime
    return { date := some d, time := t, offset := ← spelledOffset }

/-- The date that a whole text spells. -/
def Datetime.ofText? (s : String) : Option Datetime :=
  match spelledDatetime s.toList with
  | some (d, []) => some d
  | _ => none

namespace Value

/-- An integer of 64 bits with a sign. -/
def isInt64 (n : Int) : Bool := -Int.pow 2 63 ≤ n && n < Int.pow 2 63

mutual

/-- A value with the tables that spell dates read as dates. There is none if such a table spells no
date, or if an integer is out of range. -/
def readDates? : Value → Option Value
  | integer n => if isInt64 n then some (integer n) else none
  | array items => (readDatesIn? items).map array
  | table ((key, v) :: rest) =>
    if key = dateKey then
      match v with
      | string s => (Datetime.ofText? s).map datetime
      | _ => none
    else
      match readDates? v, readDatesUnder? rest with
      | some v, some rest => some (table ((key, v) :: rest))
      | _, _ => none
  | v => some v

def readDatesIn? : List Value → Option (List Value)
  | [] => some []
  | v :: vs =>
    match readDates? v, readDatesIn? vs with
    | some v, some vs => some (v :: vs)
    | _, _ => none

def readDatesUnder? : List (String × Value) → Option (List (String × Value))
  | [] => some []
  | (key, v) :: es =>
    match readDates? v, readDatesUnder? es with
    | some v, some es => some ((key, v) :: es)
    | _, _ => none

end

end Value

end RpcProxy.Toml
