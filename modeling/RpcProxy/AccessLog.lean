import RpcProxy.Json.Basic
import RpcProxy.Text.Blank
import RpcProxy.Time.Civil

/-!
# Access log lines

One line for every stream, in one of two formats: the common log format, or a JSON object with its
keys in order.
-/

set_option autoImplicit false

namespace RpcProxy.AccessLog

inductive Format where
  | common
  | json
deriving DecidableEq, Repr, Inhabited

/-- A format by name, in any case; any other name means the common one. -/
def Format.ofName (name : String) : Format :=
  if Text.lowerName name == "json" then .json else .common

/-- What a line says about a stream. -/
structure Entry where
  /-- When the stream began. -/
  timestamp : Civil
  stream : Nat := 0
  protocol : String := ""
  service : String := ""
  method : String := ""
  path : String := ""
  /-- The name of the status, or a dash for a stream without a reply. -/
  status : String := "-"
  /-- Whether the proxy itself made the reply. -/
  localReply : Bool := false
  /-- How long the stream lived, in milliseconds. -/
  millis : Nat := 0
deriving DecidableEq, Repr

/-- The line of the common log format. -/
def Entry.common (e : Entry) : String :=
  "[" ++ e.timestamp.logText ++ "] \"" ++ e.service ++ " " ++ e.method ++ " " ++
    (if e.path.isEmpty then "-" else e.path) ++ "\" " ++ e.status ++
    (if e.localReply then " local" else "") ++ " " ++ toString e.millis ++ "ms stream=" ++
    toString e.stream

/-- The line as a JSON object, its keys in order. -/
def Entry.json (e : Entry) : Json :=
  .object [
    ("duration_ms", .number (toString e.millis)),
    ("local_reply", .bool e.localReply),
    ("method", .string e.method),
    ("path", .string e.path),
    ("protocol", .string e.protocol),
    ("service", .string e.service),
    ("status", .string e.status),
    ("stream_id", .number (toString e.stream)),
    ("timestamp", .string e.timestamp.internetText)]

def Entry.line (e : Entry) : Format → String
  | .common => e.common
  | .json => e.json.render

end RpcProxy.AccessLog
