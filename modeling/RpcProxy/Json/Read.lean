import RpcProxy.Json.Basic

/-!
# Reading JSON

A reader for JSON texts. It is lenient where a stricter one would refuse: what follows the value
is handed back, and commas may be missing or stand twice.
-/

set_option autoImplicit false

namespace RpcProxy.Json

/-- Blanks between tokens. -/
def isGap (c : Char) : Bool := c == ' ' || c == '\n' || c == '\t' || c == '\r'

/-- The text without the blanks in front. -/
def skip (cs : List Char) : List Char := cs.dropWhile isGap

/-- The value of a hexadecimal digit. -/
def hexDigit? (c : Char) : Option Nat :=
  if c.isDigit then some (c.toNat - 48)
  else if 'a' ≤ c && c ≤ 'f' then some (c.toNat - 87)
  else if 'A' ≤ c && c ≤ 'F' then some (c.toNat - 55)
  else none

/-- The number that the first four hexadecimal digits spell. -/
def unit? (cs : List Char) : Option Nat :=
  if cs.length < 4 then none
  else (cs.take 4).foldl (fun n c => do pure ((← n) * 16 + (← hexDigit? c))) (some 0)

/-- The character behind a backslash. -/
def unescape (c : Char) : Char :=
  if c = 'n' then '\n' else if c = 't' then '\t' else if c = 'r' then '\r'
  else if c = 'b' then Char.ofNat 8 else if c = 'f' then Char.ofNat 12 else c

/-- The character of one or two units behind `\u`, with what follows. -/
def readUnits? (cs : List Char) : Option (Char × List Char) := do
  let first ← unit? cs
  let rest := cs.drop 4
  if 0xD800 ≤ first && first < 0xDC00 then
    match rest with
    | '\\' :: 'u' :: more =>
      let second ← unit? more
      pure (Char.ofNat (0x10000 + (first - 0xD800) * 1024 + (second - 0xDC00)), more.drop 4)
    | _ => pure (Char.ofNat 0xFFFD, rest)
  else pure (Char.ofNat first, rest)

/-- The rest of a string behind its opening quote; `done` is what was read, the latest first. -/
def readString? : Nat → List Char → List Char → Option (String × List Char)
  | 0, _, _ => none
  | fuel + 1, done, cs =>
    match cs with
    | [] => none
    | '"' :: rest => some (String.ofList done.reverse, rest)
    | '\\' :: 'u' :: rest =>
      match readUnits? rest with
      | some (c, rest) => readString? fuel (c :: done) rest
      | none => none
    | '\\' :: c :: rest => readString? fuel (unescape c :: done) rest
    | c :: rest => readString? fuel (c :: done) rest

/-- Whether a character can stand in a numeral. -/
def isNumeral (c : Char) : Bool :=
  c.isDigit || c == '-' || c == '+' || c == '.' || c == 'e' || c == 'E'

mutual

/-- The value in front of a text, with what follows it. -/
def readValue? : Nat → List Char → Option (Json × List Char)
  | 0, _ => none
  | fuel + 1, cs =>
    match skip cs with
    | '"' :: rest => (readString? fuel [] rest).map fun (s, rest) => (.string s, rest)
    | '[' :: rest => readItems? fuel [] (skip rest)
    | '\x7b' :: rest => readMembers? fuel [] (skip rest)
    | 't' :: rest => some (.bool true, rest.drop 3)
    | 'f' :: rest => some (.bool false, rest.drop 4)
    | 'n' :: rest => some (.null, rest.drop 3)
    | cs =>
      match cs.takeWhile isNumeral with
      | [] => none
      | numeral => some (.number (String.ofList numeral), cs.dropWhile isNumeral)

/-- The rest of an array; `done` holds its items so far, the latest first. -/
def readItems? : Nat → List Json → List Char → Option (Json × List Char)
  | 0, _, _ => none
  | fuel + 1, done, cs =>
    match cs with
    | ']' :: rest => some (.array done.reverse, rest)
    | ',' :: rest => readItems? fuel done (skip rest)
    | cs =>
      match readValue? fuel cs with
      | some (v, rest) => readItems? fuel (v :: done) (skip rest)
      | none => none

/-- The rest of an object; `done` holds its members so far, the latest first. -/
def readMembers? : Nat → List (String × Json) → List Char → Option (Json × List Char)
  | 0, _, _ => none
  | fuel + 1, done, cs =>
    match cs with
    | '\x7d' :: rest => some (.object done.reverse, rest)
    | ',' :: rest => readMembers? fuel done (skip rest)
    | '"' :: rest =>
      match readString? fuel [] rest with
      | some (key, rest) =>
        match readValue? fuel ((skip rest).drop 1) with
        | some (v, rest) => readMembers? fuel ((key, v) :: done) (skip rest)
        | none => none
      | none => none
    | _ => none

end

/-- The value that a text spells. -/
def ofText? (s : String) : Option Json :=
  let cs := s.toList
  (readValue? (2 * cs.length + 2) cs).map (·.1)

end RpcProxy.Json
