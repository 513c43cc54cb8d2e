import RpcProxy.AccessLog
import RpcProxy.Exchange.Basic
import RpcProxy.Route

/-!
# Filters

A filter stands on the way of requests, of responses, or of both. It may change the message, stop
it, and ask something of its stream or of others; what it asks is done once the present work is over.
Most filters are a `Behaviour`, which says what they make of every message that they can meet. Two
kinds keep notes that others read: the access log and the router.

A configured filter stands for any number of such parts. Which ones is found by name, first among
registered filters and then among those that are built in.
-/

set_option autoImplicit false

namespace RpcProxy

/-- The number of a stream on its connection. -/
abbrev StreamId := Nat

/-- Something that is asked of a stream. -/
inductive StreamOp where
  /-- Its request goes on to the next filter. -/
  | continueDecoding
  /-- Its response goes on to the next filter. -/
  | continueEncoding
  /-- The proxy answers it with a status, and the answer is changed before it goes on. -/
  | localReply (status : Status) (update : Change)
  | respond (response : Response)
  /-- It ends without a reply. -/
  | complete
  /-- It ends because something went wrong. -/
  | reset
  /-- The client's connection goes down. -/
  | resetConnection

/-- What a filter sees of its stream. -/
structure StreamView where
  id : StreamId
  route : Option Route
  isReset : Bool
deriving DecidableEq, Repr

/-- What a filter does besides changing a message. -/
structure Asides where
  /-- What is asked of streams, in order: of its own, or of any other whose handle it got hold of. -/
  asks : List (StreamId × StreamOp) := []
  /-- What is logged, in order. -/
  notes : List String := []

/-- What a filter makes of a message. -/
structure Verdict (α : Type) extends Asides where
  message : α
  /-- Whether the message goes on. -/
  status : FilterStatus := .continue

/-- What a filter does whenever it is called.

A filter may remember what it has met, so the same message can be answered differently when it comes
once more. Requests cannot: the request of a stream meets a filter at most once. Responses can, but
each one that a stream is given meets a filter at most once, too. So they are numbered from one, in the
order in which the stream is given them, and `onResponse` is told the number: as a function of it, of
the stream and of the message, a behaviour can answer each call in its own way. -/
structure Behaviour where
  onRequest : StreamView → Request → Verdict Request := fun _ r => { message := r }
  /-- The number says which response of the stream this is. -/
  onResponse : StreamView → Nat → Response → Verdict Response := fun _ _ r => { message := r }
  /-- What it does when a stream ends, given the number of the stream. -/
  onEnd : StreamId → Asides := fun _ => {}
  /-- What it does when a stream ends if it stands on the way of responses only. -/
  onResponseEnd : StreamId → Asides := fun _ => {}

/-- Where access log lines go, and in which format. -/
structure AccessSink where
  format : AccessLog.Format := .common
  /-- The file, or the log of the process. -/
  file : Option String := none
deriving DecidableEq, Repr, Inhabited

inductive FilterKind where
  | plain (behaviour : Behaviour)
  /-- Logs one line for each stream. -/
  | accessLog (sink : AccessSink)
  /-- Sends requests to the hosts of a generation of clusters. -/
  | router (generation : Nat)

/-- Which messages pass a filter. -/
inductive Side where
  | decoder
  | encoder
  /-- Both. -/
  | both
deriving DecidableEq, Repr, Inhabited

/-- Whether requests pass. -/
def Side.decodes : Side → Bool
  | decoder | both => true
  | encoder => false

/-- Whether responses pass. -/
def Side.encodes : Side → Bool
  | encoder | both => true
  | decoder => false

/-- A filter as it stands in a chain. -/
structure Part where
  /-- Which messages pass it. -/
  side : Side
  kind : FilterKind

/-- What a filter does when a stream ends, given on which side it stands. One that both messages pass
is told once, as a filter of requests. -/
def Behaviour.atEnd (b : Behaviour) (side : Side) : StreamId → Asides :=
  if side.decodes then b.onEnd else b.onResponseEnd

/-- Whether a filter notes the time when a stream begins. -/
def Part.stamps (p : Part) : Bool :=
  match p.kind with
  | .accessLog _ => true
  | .plain _ | .router _ => false

/-! ## The filters that are built in -/

/-- The reply to a request that no route matches. -/
def noRoute (r : Request) : Status :=
  { code := .notFound, message := "no route for " ++ r.service ++ "." ++ r.method }

/-- Answers requests whose route has an answer, and those that match no route. -/
def directResponse : Behaviour where
  onRequest view r :=
    let reply (s : Status) : Verdict Request :=
      { message := r, asks := [(view.id, .localReply s .nothing)], status := .stop }
    match view.route with
    | none => reply (noRoute r)
    | some route =>
      match route.direct with
      | some s => reply s
      | none => { message := r }

/-- Sets properties of requests. -/
def setOnRequests (values : List (String × String)) : Behaviour where
  onRequest _ r := { message := values.foldl (fun r (key, value) => r.set key value) r }

/-- Sets properties of responses. -/
def setOnResponses (values : List (String × String)) : Behaviour where
  onResponse _ _ r := { message := r.setAll values }

/-- Why files cannot be written to; nothing is wrong with a file for which there is no reason. -/
abbrev FileFaults := String → Option String

def Config.outputFiles (c : Config) : List String :=
  c.listeners.flatMap fun l => l.filters.filterMap fun f =>
    if f.name == "access_log" then f.string? "path" else none

def builtIn (faults : FileFaults) (f : Config.Filter) : Except BuildError (List Part) :=
  match f.name with
  | "access_log" =>
    let format := AccessLog.Format.ofName ((f.string? "format").getD "common")
    let file := f.string? "path"
    match file.bind faults with
    | some reason => .error (.output reason)
    | none => .ok [⟨.both, .accessLog { format, file }⟩]
  | "direct_response" => .ok [⟨.decoder, .plain directResponse⟩]
  | "set_metadata" =>
    let requests := (f.stringMap "request").toList
    let responses := (f.stringMap "response").toList
    .ok ((if requests.isEmpty then [] else [⟨.decoder, .plain (setOnRequests requests)⟩]) ++
      (if responses.isEmpty then [] else [⟨.encoder, .plain (setOnResponses responses)⟩]))
  | name => .error (.unknownFilter name)

/-! ## Filters by name -/

/-- How filters with a certain name are built. -/
abbrev FilterBuilder := Config.Filter → Except BuildError (List Part)

/-- Filters that are not built in, by name. -/
abbrev FilterRegistry := StringMap FilterBuilder

/-- The parts of a filter; a registered name goes before one that is built in. -/
def FilterRegistry.build (registry : FilterRegistry) (faults : FileFaults) (f : Config.Filter) :
    Except BuildError (List Part) :=
  match registry.find? f.name with
  | some builder => builder f
  | none => builtIn faults f

/-- The name of the filter that sends requests to hosts. -/
def routerName : String := "router"

/-- The registry in which requests go to the hosts of a generation of clusters. -/
def FilterRegistry.routing (generation : Nat) : FilterRegistry :=
  StringMap.ofList [(routerName, fun _ => .ok [⟨.decoder, .router generation⟩])]

end RpcProxy
