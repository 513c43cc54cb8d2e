import RpcProxy.Exchange.Solo
import RpcProxy.Pool.Solo
import RpcProxy.Report.Message

/-!
# Reports on hosts

Hosts, clusters, exchanges with hosts, and connections to them.
-/

set_option autoImplicit false

namespace RpcProxy.Report

open Json (ofNat ofOption ofStrings)

/-- The health of a host. -/
def detector (d : Detector) : Json :=
  .object [("health", .string d.health.name), ("ext", ofNat d.requestFailures),
    ("local", ofNat d.connectFailures), ("ejections", ofNat d.ejections)]

/-- Why no host can be had. -/
def routeError (e : RouteError) : Json :=
  errorWith (match e with
    | .unknownCluster _ => "UnknownCluster"
    | .noHosts _ => "NoHosts"
    | .noHealthyHost _ => "NoHealthyHost") e.message

/-- A cluster, as somebody sees it who looks now. -/
def cluster (now : Instant) (c : Cluster) : Json :=
  .object [("name", .string c.name),
    ("hosts", .array (c.hosts.map fun h => .array [.string h.address, .string h.cluster,
      .string h.label, .bool (h.detector.isEjected now), ofNat h.active.value.toNat])),
    ("debug", ofStrings (c.hosts.map (·.describe now))),
    ("transport", .string c.config.transport.name), ("protocol", .string c.config.protocol.name),
    ("close_downstream_on_error", .bool c.config.closeDownstreamOnError),
    ("max_connections", ofNat c.config.maxConnections),
    ("connect_timeout_s", ofNat c.config.connectTimeout)]

/-- How a connection was closed, if it was. -/
def closeType : Option CloseType → Json := ofOption fun t => .string t.name

/-- What was decided about an upgrade. -/
def linkState (s : LinkState) : Json := .array [.bool s.upgradeAttempted, .bool s.upgraded]

/-- A connection that takes notes. -/
def notedLink (l : NotedLink) : Json :=
  .object [("written", octets l.written), ("closed", closeType l.closed),
    ("callbacks", ofNat l.attachments), ("state", ofOption linkState l.state?)]

def exchange (e : Exchange) : Json :=
  .object [("request_complete", .bool e.requestComplete), ("started", .bool e.responseStarted),
    ("complete", .bool e.responseComplete), ("draining", .bool e.draining),
    ("underflow", .bool e.underflow), ("pending", .bool e.pending.isSome),
    ("connected", .bool e.link.isSome), ("upgrading", .bool e.upgrading.isSome),
    ("host", ofOption (fun h => .string h.address) e.host), ("metadata", envelope e.envelope)]

/-- The connections of a pool: idle, in use, under way. -/
def poolCounts (p : TcpPool) : Json :=
  .array [ofNat p.idle.length, ofNat p.busy, ofNat p.connecting]

def poolClient (s : SoloPool) (c : PoolClient) : Json :=
  .object [
    ("conn", ofOption (fun l => .string l.state.name) (c.link.bind (s.pools.links[·]?))),
    ("failure", ofOption (fun r => .string r.text) c.failure), ("data", octets c.data),
    ("events", ofStrings (c.events.map (·.name)))]

/-- A pool with its clients: what it holds, unless it is gone, and what was counted. There are no
peers but those of the connections that were made. -/
def soloPool (s : SoloPool) (ret : Json) : Json :=
  let label := SoloPool.host.label
  .object [("ret", ret),
    ("counts", ofOption poolCounts ((s.pools.pools[0]?).filter (!·.gone))),
    ("clients", .array (s.clients.map (ofOption (poolClient s)))),
    ("peers", ofNat s.pools.links.length),
    ("stats", .array ([s.stats.connections, s.stats.overflows, s.stats.connectFailures].map
      fun c => ofNat (c.get label)))]

def poolAnswer : PoolAnswer → Json
  | .ready _ _ => .string "ready"
  | .pending _ => .string "pending"
  | .failure reason host => .array [.string reason.text, .bool host.isSome]

/-- What a pool tells, connections being called by `name`. -/
def poolNote (name : Nat → String) : PoolNote → String
  | .released link => "released:" ++ name link
  | .cancelled handle policy => "cancel:" ++ name handle ++ ":" ++ policy.name

def resetDecision (reason : FailureReason) (d : ResetDecision) (host : Option HostRef) : Json :=
  .object [("action", match d.action with
      | .localReply close => .array [.string "local_reply", .bool close]
      | .resetConnection => ofStrings ["reset_downstream"]
      | .nothing => ofStrings ["nothing"]),
    ("outlier", ofOption (fun r => .string r.name) d.hostResult),
    ("reason_outlier", .string reason.hostResult.name),
    ("close_downstream", .bool d.closesClient),
    ("message", .string (reason.replyMessage host)), ("reason", .string reason.text)]

/-- The name of a truth value. -/
def flag (b : Bool) : String := if b then "true" else "false"

/-- What an exchange asks of its owner, in a line; other effects are not shown. -/
def effect : Effect → Option String
  | .startCall protocol => some ("converter:" ++ protocol)
  | .beginCall envelope =>
    some ("begin:" ++ match envelope.sequence with
      | some n => "Some(" ++ toString n.toInt ++ ")"
      | none => "None")
  | .startResponse transport protocol =>
    some ("start_response:" ++ transport.name ++ ":" ++ protocol)
  | .resume => some "continue_decoding"
  | .localReply exception close => some ("local_reply:" ++ exception.text ++ ":" ++ flag close)
  | .resetConnection => some "reset_downstream"
  | .resetStream => some "on_reset"
  | _ => none

/-- An exchange by itself, after a step: what it answered and what was logged, the connections by
their names, and the response that was read meanwhile. The exchange may be gone. -/
def solo (s : Solo) (isThere : Bool) (names : List String) (ret : Json) (log : List String)
    (response : Option Response) : Json :=
  let (host, s) := s.look
  .object [("ret", ret), ("log", ofStrings log),
    ("request", if isThere then exchange s.exchange else .null),
    ("conns", .object (names.zip (s.side.pools.links.map notedLink))),
    ("detector", detector host.detector), ("active", ofNat host.active.value.toNat),
    ("size", ofNat s.size), ("response", ofOption (fun r => .string r.toLine) response),
    ("decode_error", replyError s.decoder.error)]

end RpcProxy.Report
