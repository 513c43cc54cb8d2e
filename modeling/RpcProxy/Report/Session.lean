import RpcProxy.Report.Host
import RpcProxy.Session.Scripted

/-!
# Reports on sessions

A session after a step: the connection, the streams in flight, what waits, the counters, the pools
and the hosts, and what was logged.
-/

set_option autoImplicit false

namespace RpcProxy.Report

open Json (ofNat ofOption ofStrings)

def listenerStats (m : ListenerStats) : List (String × Json) :=
  [("cx", .array [ofNat m.connections.value, ofNat m.activeConnections.value.toNat,
      ofNat m.drainCloses.value]),
    ("rq", .array [ofNat m.requests.value, ofNat m.activeRequests.value.toNat]),
    ("decoding_error", ofNat m.decodingErrors.value), ("local_reply", ofNat m.localReplies.value),
    ("reset", ofNat m.resets.value), ("by_status", counts m.byStatus.toList)]

/-- What was done with a span, one line for each call. -/
def spanCallLine : SpanCall → String
  | .tag name value => "tag " ++ name ++ "=" ++ value
  | .log event => "span_log " ++ event
  | .finish => "span_finish"

def linkName (i : Nat) : String := "c" ++ toString i

/-- What was logged, in lines. With `allSpans` every call on every span is shown, else only what the
log of the process shows of spans. Lines for a file are not shown. -/
def logLines (allSpans : Bool) : LogEvent → List String
  | .note text => [text]
  | .access none line => ["access " ++ line]
  | .access (some _) _ => []
  | .spanStart t r d known =>
    if allSpans then
      ["span_start " ++ t.operation.title ++ " " ++ r.service ++ "." ++ r.method ++ " traced=" ++
        flag d.traced ++ " reason=" ++ d.reason.name ++ " info=" ++ match known with
          | some reason => "Some(" ++ reason.name ++ ")"
          | none => "None"]
    else (spanStartLine t r d).toList
  | .spanEnd recorded calls =>
    if allSpans then calls.map spanCallLine
    else if recorded then spanEndLines calls
    else []
  | .pool n => [poolNote linkName n]

def fileLines (file : String) (log : List LogEvent) : List String :=
  log.reverse.filterMap fun
    | .access (some f) line => if f == file then some line else none
    | _ => none

/-- The pools, each connection's octets at its first pool only. -/
def scriptedPools (s : Session ScriptedPools) : Json :=
  let pools := s.side.pools.pools
  .array (pools.zipIdx.map fun (p, i) =>
    let link := s.side.pools.links.getD p.link {}
    let isFirst := pools.findIdx? (·.link == p.link) == some i
    .object [("conn", .string (linkName p.link)),
      ("written", octets (if isFirst then link.written else [])),
      ("closed", closeType link.closed), ("waiting", .bool (s.waiting? p).isSome)])

/-- The hosts of all clusters. Clusters that share a name share the hosts of the first one. -/
def allHosts (cs : Clusters) (now : Instant) : Json :=
  let hosts (c : Cluster) : List Host := ((cs.list.find? (·.name == c.name)).getD c).hosts
  .array ((cs.list.flatMap hosts).map fun h =>
    .array [.string h.label, ofNat h.active.value.toNat, .bool (h.detector.isEjected now)])

/-- A session whose connection's output was `out`. -/
def session (s : Session ScriptedPools) (ret : Json) (log : List String) (out : Json) : Json :=
  .object [("ret", ret), ("log", ofStrings log), ("out", out),
    ("conn", .string s.connection.state.name), ("close", closeType s.connection.closeType),
    ("written", ofNat s.connection.written),
    ("down_closed", if s.isServed then .bool s.isClosed else .null),
    ("active", .array (s.active.map ofNat)), ("idle", .bool s.queue.isIdle),
    ("deferred", ofNat s.queue.deferred.length), ("buffered", ofNat s.buffer.length),
    ("pools", scriptedPools s),
    ("hosts", allHosts (s.side.clusters 0) s.now),
    ("stats", .object (listenerStats s.stats ++ [("timed", ofNat s.stats.duration.count)]))]

def stream (x : Stream) : Json :=
  .object [("id", ofNat x.id), ("reset", .bool x.isReset), ("completed", .bool x.isCompleted),
    ("span", .bool x.span.isSome), ("route", ofOption (fun r => .string r.name) x.route?),
    ("info", streamInfo x.info)]

/-- What a handle to a stream knows, whether or not the stream is still there. -/
def streamHandle (id : StreamId) (x : Option Stream) : Json :=
  .object [("id", ofNat id), ("reset", .bool (x.all (·.isReset))),
    ("route", ofOption (fun r => .string r.name) (x.bind (·.route?))),
    ("info", ofOption (fun x => streamInfo x.info) x)]

end RpcProxy.Report
