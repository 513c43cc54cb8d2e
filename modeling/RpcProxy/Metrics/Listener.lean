import RpcProxy.Metrics.Basic
import RpcProxy.Status
import RpcProxy.Time.Clock

/-!
# What a listener measures

The counters of the client side of one listener, shared by all its connections and kept across
reloads, and how long a shutdown waits for those connections.
-/

set_option autoImplicit false

namespace RpcProxy

structure ListenerStats where
  /-- The label under which they are exported. -/
  label : String
  /-- When counting began. -/
  started : Instant := 0
  /-- Connections accepted. -/
  connections : Counter := {}
  /-- Connections open now. -/
  activeConnections : Gauge := {}
  /-- Connections closed because the listener was draining. -/
  drainCloses : Counter := {}
  requests : Counter := {}
  /-- Streams in flight. -/
  activeRequests : Gauge := {}
  /-- Octets that were no request. -/
  decodingErrors : Counter := {}
  /-- Replies made by the proxy itself. -/
  localReplies : Counter := {}
  /-- Streams reset before they were complete. -/
  resets : Counter := {}
  /-- Replies by the name of their status. -/
  byStatus : LabelledCounter := {}
  /-- How long streams lived, in seconds. -/
  duration : Histogram
deriving Inhabited

namespace ListenerStats

/-- The bounds for the time of a request, in seconds. -/
def durationBounds : List Float :=
  [0.001, 0.005, 0.01, 0.025, 0.05, 0.1, 0.25, 0.5, 1.0, 2.5, 5.0, 10.0]

def start (label : String) (now : Instant) : ListenerStats :=
  { label, started := now, duration := Histogram.ofBounds durationBounds }

/-- The export of a listener's counters, line by line. -/
def lines (s : ListenerStats) (now : Instant) : List String :=
  let single (kind : String) : String × String × Nat → List String := fun (name, help, value) =>
    let name := "conduit_" ++ name
    Export.header name help kind ++ [Export.sample name [("listener", s.label)] value, ""]
  let statusName := "conduit_downstream_rq_by_status_total"
  let timeName := "conduit_downstream_rq_time_seconds"
  single "gauge" ("uptime_seconds", "Listener uptime in seconds", (now - s.started) / second) ++
  [("downstream_cx_total", "Downstream connections accepted", s.connections.value),
    ("downstream_cx_drain_close", "Connections closed by drain", s.drainCloses.value),
    ("downstream_rq_total", "Downstream requests decoded", s.requests.value),
    ("downstream_rq_decoding_error", "Downstream decoding errors", s.decodingErrors.value),
    ("downstream_rq_local_reply", "Locally generated replies", s.localReplies.value),
    ("downstream_rq_reset", "Streams reset before completion", s.resets.value)].flatMap
    (single "counter") ++
  [("downstream_cx_active", "Open downstream connections", s.activeConnections.value.toNat),
    ("downstream_rq_active", "In-flight downstream streams", s.activeRequests.value.toNat)].flatMap
    (single "gauge") ++
  Export.header statusName "Replies by status code" "counter" ++
  s.byStatus.toList.map (fun (status, n) =>
    Export.sample statusName [("listener", s.label), ("status", status)] n) ++
  [""] ++
  Export.header timeName "Stream duration in seconds" "histogram" ++
  s.duration.lines timeName ("listener=\"" ++ s.label ++ "\"")

end ListenerStats

/-! ## Waiting for connections to end -/

/-- How waiting for the open connections ended. -/
inductive DrainOutcome where
  /-- All connections were gone after some milliseconds. -/
  | drained (waited : Nat)
  /-- Connections were left when the time was up. -/
  | expired (waited : Nat)
  /-- The number of open connections does not fit into 64 bits. -/
  | overflow
deriving DecidableEq, Repr

/-- How often the number of open connections is looked at, in milliseconds. -/
def drainInterval : Nat := 100

/-- Waits until no connection is open or `timeout` milliseconds are over, `active waited` being
the open connections of each listener after `waited` milliseconds. -/
def awaitDrain (active : Nat → List Nat) (timeout : Nat) (waited : Nat) : DrainOutcome :=
  let open_ := (active waited).foldr (· + ·) 0
  if open_ ≥ UInt64.size then .overflow
  else if open_ = 0 then .drained waited
  else if _h : waited ≥ timeout then .expired waited
  else awaitDrain active timeout (waited + drainInterval)
termination_by timeout - waited
decreasing_by
  unfold drainInterval
  omega

end RpcProxy
