import RpcProxy.Filter

/-!
# Filters that follow a script

A filter whose settings list what it does with each request and each response. It logs every message
that it sees and the end of every stream, which makes the order of a chain visible.

An action is written as a word, some with parts behind colons: `stop`, `set:key=value`,
`erase:key`, `reply:code:message`, `respond:code:message`, `continue_decoding`,
`continue_encoding`, `complete`, `reset`, `reset_connection`, `route`, `is_reset`.
-/

set_option autoImplicit false

namespace RpcProxy

/-- Something that a filter with a script does. -/
inductive FilterAction where
  /-- The message stops here, and so does the script. -/
  | stop
  | set (key value : String)
  /-- A property is removed. -/
  | erase (key : String)
  | ask (op : StreamOp)
  /-- The name of the route is logged. -/
  | showRoute
  /-- It is logged whether the stream was reset. -/
  | showReset

namespace FilterAction

/-- A status written as a code and a message; an unknown code means the code `unknown`. -/
def readStatus (s : String) : Status :=
  let (code, message) := Text.cut ':' s
  { code := (StatusCode.ofName? code).getD .unknown, message }

def ofText? (s : String) : Option FilterAction :=
  let (word, rest) := Text.cut ':' s
  match word with
  | "stop" => some .stop
  | "set" => let (key, value) := Text.cut '=' rest; some (.set key value)
  | "erase" => some (.erase rest)
  | "reply" => some (.ask (.localReply (readStatus rest) .nothing))
  | "respond" => some (.ask (.respond { status := readStatus rest }))
  | "continue_decoding" => some (.ask .continueDecoding)
  | "continue_encoding" => some (.ask .continueEncoding)
  | "complete" => some (.ask .complete)
  | "reset" => some (.ask .reset)
  | "reset_connection" => some (.ask .resetConnection)
  | "route" => some .showRoute
  | "is_reset" => some .showReset
  | _ => none

/-- What following a script makes of a message, given how its properties are set and removed. -/
def follow {α : Type} (name : String) (view : StreamView) (set : α → String → String → α)
    (erase : α → String → α) : List FilterAction → Verdict α → Verdict α
  | [], v => v
  | .stop :: _, v => { v with status := .stop }
  | .set key value :: rest, v =>
    follow name view set erase rest { v with message := set v.message key value }
  | .erase key :: rest, v => follow name view set erase rest { v with message := erase v.message key }
  | .ask op :: rest, v => follow name view set erase rest { v with asks := v.asks ++ [(view.id, op)] }
  | .showRoute :: rest, v =>
    let route := (view.route.map (·.name)).getD "-"
    follow name view set erase rest { v with notes := v.notes ++ ["route:" ++ name ++ ":" ++ route] }
  | .showReset :: rest, v =>
    let reset := if view.isReset then "true" else "false"
    follow name view set erase rest { v with notes := v.notes ++ ["is_reset:" ++ name ++ ":" ++ reset] }

end FilterAction

/-- A filter that follows one script for requests and another for responses. -/
def scripted (name : String) (onRequests onResponses : List FilterAction) : Behaviour :=
  let line (word : String) (id : Nat) : String := word ++ ":" ++ toString id ++ ":" ++ name
  { onRequest := fun view r =>
      FilterAction.follow name view Request.set Request.erase onRequests
        { message := r, notes := [line "decode" view.id ++ ":" ++ r.service ++ "." ++ r.method] }
    onResponse := fun view _ r =>
      FilterAction.follow name view Response.set Response.erase onResponses
        { message := r, notes := [line "encode" view.id ++ ":" ++ r.status.code.name] }
    onEnd := fun id => { notes := [line "destroy" id] }
    onResponseEnd := fun id => { notes := [line "encoder_destroy" id] } }

def readScript (f : Config.Filter) (key : String) : List FilterAction :=
  match f.settings.find? key with
  | some (.array vs) => vs.filterMap fun v => v.string?.bind FilterAction.ofText?
  | _ => []

/-- Builds filters with a script. The setting `reg` tells which messages pass. -/
def scriptedBuilder : FilterBuilder := fun f =>
  let side : Side := match f.string? "reg" with
    | some "encoder" => .encoder
    | some "dual" => .both
    | _ => .decoder
  .ok [⟨side, .plain (scripted ((f.string? "id").getD "p") (readScript f "decode")
    (readScript f "encode"))⟩]

end RpcProxy
