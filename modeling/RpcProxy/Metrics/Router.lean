import RpcProxy.Cluster
import RpcProxy.Metrics.Basic

/-!
# What routing measures

Counters of the host side, shared by all listeners. Most are labelled with a host or, before one is
known, with its cluster; requests that reach no cluster are counted by service.
-/

set_option autoImplicit false

namespace RpcProxy

/-- Something that routing counts. -/
inductive RouterEvent where
  /-- A request for a service matched no route. -/
  | routeMissing (service : String)
  | unknownCluster (cluster : String)
  /-- All hosts of a cluster were ejected. -/
  | noHealthyHost (cluster : String)
  | connected (host : String)
  /-- A host had no connection to spare. -/
  | overflow (host : String)
  | connectFailed (host : String)
  /-- A request of so many octets was written. -/
  | requestSize (cluster : String) (octets : Nat)
  /-- A response of so many octets was read. -/
  | responseSize (cluster : String) (octets : Nat)
  /-- A response took so many milliseconds. -/
  | responseTime (label : String) (millis : Nat)
  | replySuccess (label : String)
  | replyError (label : String)
  | exception (label : String)
  /-- The response was no reply at all. -/
  | invalidType (label : String)
  /-- The response could not be read. -/
  | decodingError (label : String)
  /-- The proxy answered with an error of its own. -/
  | localException (cluster : String)
  /-- A host asked to leave a connection. -/
  | drainClose (cluster : String)
deriving DecidableEq, Repr

/-- The counters of the host side. -/
structure RouterStats where
  routeMissing : LabelledCounter := {}
  unknownCluster : LabelledCounter := {}
  noHealthyHost : LabelledCounter := {}
  connections : LabelledCounter := {}
  overflows : LabelledCounter := {}
  connectFailures : LabelledCounter := {}
  requestSize : LabelledHistogram
  responseSize : LabelledHistogram
  responseTime : LabelledHistogram
  replySuccess : LabelledCounter := {}
  replyError : LabelledCounter := {}
  exceptions : LabelledCounter := {}
  invalidType : LabelledCounter := {}
  decodingErrors : LabelledCounter := {}
  localExceptions : LabelledCounter := {}
  drainCloses : LabelledCounter := {}
deriving Inhabited

namespace RouterStats

/-- The bounds for sizes, in octets. -/
def sizeBounds : List Float :=
  [64.0, 256.0, 1024.0, 4096.0, 16384.0, 65536.0, 262144.0, 1048576.0]

/-- The bounds for times, in milliseconds. -/
def timeBounds : List Float :=
  [1.0, 5.0, 10.0, 25.0, 50.0, 100.0, 250.0, 500.0, 1000.0, 2500.0, 5000.0, 10000.0]

/-- Counters before anything is counted. -/
def start : RouterStats :=
  { requestSize := { bounds := sizeBounds }
    responseSize := { bounds := sizeBounds }
    responseTime := { bounds := timeBounds } }

def record (s : RouterStats) : RouterEvent → RouterStats
  | .routeMissing label => { s with routeMissing := s.routeMissing.inc label }
  | .unknownCluster label => { s with unknownCluster := s.unknownCluster.inc label }
  | .noHealthyHost label => { s with noHealthyHost := s.noHealthyHost.inc label }
  | .connected label => { s with connections := s.connections.inc label }
  | .overflow label => { s with overflows := s.overflows.inc label }
  | .connectFailed label => { s with connectFailures := s.connectFailures.inc label }
  | .requestSize label n => { s with requestSize := s.requestSize.observe label (Float.ofNat n) }
  | .responseSize label n => { s with responseSize := s.responseSize.observe label (Float.ofNat n) }
  | .responseTime label n => { s with responseTime := s.responseTime.observe label (Float.ofNat n) }
  | .replySuccess label => { s with replySuccess := s.replySuccess.inc label }
  | .replyError label => { s with replyError := s.replyError.inc label }
  | .exception label => { s with exceptions := s.exceptions.inc label }
  | .invalidType label => { s with invalidType := s.invalidType.inc label }
  | .decodingError label => { s with decodingErrors := s.decodingErrors.inc label }
  | .localException label => { s with localExceptions := s.localExceptions.inc label }
  | .drainClose label => { s with drainCloses := s.drainCloses.inc label }

/-- Every counter: its name, the name of its label, what it counts, and its counts. -/
def counters (s : RouterStats) : List (String × String × String × LabelledCounter) :=
  [("router_route_missing", "service", "Requests matching no route", s.routeMissing),
    ("router_unknown_cluster", "cluster", "Requests routed to a cluster that does not exist",
      s.unknownCluster),
    ("router_no_healthy_upstream", "cluster", "Requests finding every host ejected",
      s.noHealthyHost),
    ("upstream_cx", "host", "Upstream connections established", s.connections),
    ("upstream_cx_overflow", "host", "Connection requests over the host's connection budget",
      s.overflows),
    ("upstream_cx_connect_fail", "host", "Failed or timed out upstream connects",
      s.connectFailures),
    ("upstream_resp_reply_success", "host", "Successful replies", s.replySuccess),
    ("upstream_resp_reply_error", "host", "Replies carrying an error", s.replyError),
    ("upstream_resp_exception", "host", "Exception responses", s.exceptions),
    ("upstream_resp_invalid_type", "host", "Responses with an unexpected message type",
      s.invalidType),
    ("upstream_resp_decoding_error", "host", "Responses that failed to decode", s.decodingErrors),
    ("upstream_resp_local_exception", "cluster", "Error replies generated locally",
      s.localExceptions),
    ("upstream_cx_drain_close", "cluster", "Upstream connections closed on a draining signal",
      s.drainCloses)]

/-- Every histogram: its name, the name of its label, what it measures, and its values. -/
def histograms (s : RouterStats) : List (String × String × String × LabelledHistogram) :=
  [("upstream_rq_size_bytes", "cluster", "Upstream request size", s.requestSize),
    ("upstream_resp_size_bytes", "cluster", "Upstream response size", s.responseSize),
    ("upstream_resp_time_ms", "host", "Upstream response time", s.responseTime)]

def counterLines : String × String × String × LabelledCounter → List String :=
  fun (name, label, help, counter) =>
    let name := "conduit_" ++ name ++ "_total"
    Export.header name help "counter" ++
      counter.toList.map (fun (value, n) => Export.sample name [(label, value)] n)

def histogramLines : String × String × String × LabelledHistogram → List String :=
  fun (name, label, help, histogram) =>
    let name := "conduit_" ++ name
    Export.header name help "histogram" ++ histogram.lines name label

/-- The export of the counters, line by line, with an empty line between any two metrics. -/
def lines (s : RouterStats) : List String :=
  s.counters.flatMap (fun c => counterLines c ++ [""]) ++
    List.intercalate [""] (s.histograms.map histogramLines)

end RouterStats

end RpcProxy
