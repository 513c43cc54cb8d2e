import RpcProxy.Report.Session
import RpcProxy.Server.Basic

/-!
# Reports on servers

What the listeners of a server run, what the whole server counts, and why one cannot be set up.
-/

set_option autoImplicit false

namespace RpcProxy.Report

open Json (ofNat ofOption ofStrings)

/-- An error in the settings with what is behind it. What the file system says is not repeated. -/
def setup (chain : List String) (isOutput : Bool) : Json :=
  if isOutput then error "Setup" else errorWith "Setup" (String.intercalate ": " chain)

/-- Why a server cannot be set up. -/
def setupError (e : SetupError) : Json := setup e.chain e.isOutput

/-- Why the settings of a listener cannot be put to use. -/
def buildError (e : BuildError) : Json :=
  match e with
  | .output _ => error "Io"
  | .unknownCodec _ => errorWith "UnknownCodec" e.message
  | .unknownFilter _ => errorWith "UnknownFilter" e.message
  | .invalidStatus _ => errorWith "InvalidStatus" e.message

def tracing (t : Config.Tracing) : Json :=
  .object [("op", .string t.operation.title), ("sampling", double t.randomSampling),
    ("verbose", .bool t.verbose), ("max_path", ofNat t.maxPathLength)]

/-- What a listener runs, with the routes of some requests. -/
def listener (requests : List Request) (h : ListenerHandle) : List (String × Json) :=
  let route (r : Request) : Json := ofOption (fun x => .string x.name) (h.plan.routes.find? r)
  [("prefix", .string h.plan.label), ("stats_prefix", .string h.stats.label),
    ("rq_total", ofNat h.stats.requests.value), ("codec", .string h.plan.codec.name),
    ("decoders", ofNat h.plan.decoders.length), ("encoders", ofNat h.plan.encoders.length),
    ("tracing", ofOption tracing h.plan.tracing), ("tracer", .bool h.plan.tracing.isSome),
    ("routes", .array (requests.map route))]

/-- What a listener runs after an attempt to give it other settings. -/
def reloaded (requests : List Request) (h : ListenerHandle) (failure : Option BuildError) : Json :=
  .object (listener requests h ++ [("replaced", .bool failure.isNone)] ++
    failure.toList.map fun e => ("reload_error", setup e.chain e.isOutput))

def serverStats (s : Server) : Json :=
  let r := s.side.stats
  .object ([("listeners", Json.array (s.listeners.map fun h =>
      .object (("prefix", .string h.stats.label) :: listenerStats h.stats)))] ++
    [("cx", r.connections), ("fail", r.connectFailures), ("overflow", r.overflows),
      ("success", r.replySuccess), ("error", r.replyError), ("exception", r.exceptions),
      ("local", r.localExceptions), ("decoding", r.decodingErrors)].map fun (name, c) =>
        (name, counts c.toList))

/-- A listener with the router that its routes need. -/
def withRouter (l : Config.Listener) : Json :=
  .object [("filters", ofStrings (l.withRouter.filters.map (·.name))),
    ("appended", .bool (l.withRouter.filters.length != l.filters.length)),
    ("again", ofNat l.withRouter.withRouter.filters.length)]

/-- The filters of a chain, and what the settings say for some keys. -/
def filter (f : Config.Filter) (chain : List Part) (keys : List String) (isRegistered : Bool) :
    Json :=
  .object [("decoders", ofNat (chain.filter (·.side.decodes)).length),
    ("encoders", ofNat (chain.filter (·.side.encodes)).length),
    ("keys", .array (keys.map fun k => .object [("str", ofOption .string (f.string? k)),
      ("map", pairs (f.stringMap k).toList)])),
    ("registered", .bool isRegistered)]

end RpcProxy.Report
