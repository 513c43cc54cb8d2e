import RpcProxy.Bytes
import RpcProxy.Message

/-!
# Messages as lines of text

A request is the line `service method key=value …`, a response the line `code "message" key=value …`.
In the message of a response the quote, the backslash, the newline and the carriage return are
escaped, so a message never ends its line or its quotation early.

Requests arrive as a stream of octets. `Wire.decode` takes every complete line off the front of a
buffer and reports a request or a failure for each; a failure throws the rest of the buffer away.
-/

set_option autoImplicit false

namespace RpcProxy

/-- The name of the protocol that is spoken downstream. -/
def Wire.protocol : String := "text"

/-- An unfinished line longer than this many octets counts as malformed. -/
def Wire.maxLine : Nat := 65536

/-! ## Properties -/

/-- Reads one `key=value` word; the key ends at the first `=` and must not be empty. -/
def Wire.readProperty? (word : List Char) : Option (String × String) :=
  match Text.splitOnce? '=' word with
  | none => none
  | some ([], _) => none
  | some (key, value) => some (String.ofList key, String.ofList value)

/-- Reads words as properties; of two with one key the later stays. -/
def Wire.readProperties? (words : List (List Char)) : Option Properties :=
  (words.mapM Wire.readProperty?).map StringMap.ofList

/-- The properties of a message, each behind a space. -/
def Wire.writeProperties (properties : Properties) : String :=
  String.join (properties.toList.map fun (key, value) => " " ++ key ++ "=" ++ value)

/-! ## Requests -/

/-- Reads a request from a line without its end. -/
def Request.parse? (line : String) : Option Request :=
  match Text.words line.toList with
  | service :: method :: rest =>
    (Wire.readProperties? rest).map fun properties =>
      { service := String.ofList service, method := String.ofList method, properties }
  | _ => none

/-! ## Quoted messages -/

namespace Wire

/-- How a character is written inside quotes. -/
def escapeChar (c : Char) : List Char :=
  if c = '"' then ['\\', '"']
  else if c = '\\' then ['\\', '\\']
  else if c = '\n' then ['\\', 'n']
  else if c = '\r' then ['\\', 'r']
  else [c]

/-- A message as it stands between the quotes. -/
def escape (cs : List Char) : List Char := cs.flatMap escapeChar

/-- The character that stands for itself or, for `n` and `r`, for a line end, behind a backslash. -/
def unescapeChar (c : Char) : Char :=
  if c = 'n' then '\n' else if c = 'r' then '\r' else c

/-- Reads up to the closing quote, `done` being what was read so far in reverse. Answers the
message and the text behind the quote. -/
def unescape? (done : List Char) : List Char → Option (List Char × List Char)
  | [] => none
  | '"' :: rest => some (done.reverse, rest)
  | '\\' :: [] => none
  | '\\' :: c :: rest => unescape? (unescapeChar c :: done) rest
  | c :: rest => unescape? (c :: done) rest

/-- Reads a quoted message and answers it with the text behind it. -/
def readQuoted? : List Char → Option (List Char × List Char)
  | '"' :: rest => unescape? [] rest
  | _ => none

end Wire

/-! ## Responses -/

/-- Reads a response from a line without its end. -/
def Response.parse? (line : String) : Option Response := do
  let (code, rest) ← Text.splitOnce? ' ' (Text.trimStart line.toList)
  let code ← StatusCode.ofName? (String.ofList code)
  let (message, rest) ← Wire.readQuoted? (Text.trimStart rest)
  let properties ← Wire.readProperties? (Text.words rest)
  return { status := { code, message := String.ofList message }, properties }

/-- A response as a line without its end. -/
def Response.text (r : Response) : String :=
  r.status.code.name ++ " \"" ++ String.ofList (Wire.escape r.status.message.toList) ++ "\"" ++
    Wire.writeProperties r.properties

def Response.toLine (r : Response) : String := r.text ++ "\n"

/-- A response as it is written to the client: its status, and its properties one after another as
it shows them. -/
def Response.encode (r : Response) : Bytes :=
  let line := r.status.code.name ++ " \"" ++ String.ofList (Wire.escape r.status.message.toList) ++ "\""
  let line := r.properties.visit (fun line key value => (line ++ " " ++ key ++ "=" ++ value, true)) line
  Bytes.ofText (line ++ "\n")

/-! ## Taking requests off a stream -/

/-- What the reader of a request stream reports. -/
inductive Wire.Event where
  | request (r : Request)
  /-- Octets that are no request; everything buffered was thrown away. -/
  | failure
deriving DecidableEq, Repr

/-- What one line of a request stream holds. -/
inductive Wire.LineContent where
  /-- Nothing but blanks. -/
  | blank
  | request (r : Request)
  | malformed
deriving DecidableEq, Repr

/-- Reads one line without its newline; carriage returns at its end are dropped. -/
def Wire.readLine (line : Bytes) : Wire.LineContent :=
  match line.toText? with
  | none => .malformed
  | some text =>
    let cs := Text.trimEnd (· == '\r') text.toList
    if cs.all Text.isBlank then .blank
    else
      match Request.parse? (String.ofList cs) with
      | some r => .request r
      | none => .malformed

/-- Takes complete lines off a buffer. Answers what was found, in order, and what is left. -/
def Wire.decode (buffer : Bytes) : List Wire.Event × Bytes :=
  match _h : buffer.splitLine? with
  | none => if buffer.length > Wire.maxLine then ([.failure], []) else ([], buffer)
  | some (line, rest) =>
    match Wire.readLine line with
    | .malformed => ([.failure], [])
    | .blank => Wire.decode rest
    | .request r =>
      let (events, left) := Wire.decode rest
      (.request r :: events, left)
termination_by buffer.length
decreasing_by
  all_goals exact Bytes.length_lt_of_splitLine? _h

end RpcProxy
