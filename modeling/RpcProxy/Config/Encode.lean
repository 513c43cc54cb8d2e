import RpcProxy.Config.Basic

/-!
# Settings as TOML

The TOML value of a configuration: every setting is present, those that may be missing and are
missing left out. A number that TOML cannot hold makes the whole value unwritable.
-/

set_option autoImplicit false

namespace RpcProxy.Config

open Toml (Value)

/-- A number, if it fits into the integers of TOML. -/
def number? (n : Nat) : Option Value := if n < Nat.pow 2 63 then some (.integer n) else none

def textMap (m : StringMap String) : Value := .table (m.toList.map fun (k, v) => (k, .string v))

def entryOf (key : String) : Option Value → List (String × Value)
  | some v => [(key, v)]
  | none => []

def Transport.name : Transport → String
  | .framed => "framed"
  | .unframed => "unframed"

def Protocol.name : Protocol → String
  | .binary => "binary"
  | .compact => "compact"

def Operation.name : Operation → String
  | .ingress => "ingress"
  | .egress => "egress"

def OutlierDetection.toValue? (d : OutlierDetection) : Option Value := do
  return .table [
    ("consecutive_failures", ← number? d.consecutiveFailures),
    ("consecutive_local_origin_failures", ← number? d.consecutiveLocalFailures),
    ("success_threshold", ← number? d.successThreshold),
    ("base_ejection_time_ms", ← number? d.baseEjectionMillis)]

def Cluster.toValue? (c : Cluster) : Option Value := do
  return .table [
    ("name", .string c.name),
    ("hosts", .array (c.hosts.map .string)),
    ("transport", .string c.transport.name),
    ("protocol", .string c.protocol.name),
    ("close_downstream_on_error", .boolean c.closeDownstreamOnError),
    ("max_connections", ← number? c.maxConnections),
    ("connect_timeout", ← number? c.connectTimeout),
    ("outlier_detection", ← c.outlierDetection.toValue?)]

def DirectResponse.toValue (d : DirectResponse) : Value :=
  .table [("status", .string d.status), ("message", .string d.message)]

def Route.toValue (r : Route) : Value :=
  .table (
    [("name", .string r.name)] ++
    entryOf "service" (r.service.map .string) ++
    entryOf "method" (r.method.map .string) ++
    [("properties", textMap r.properties)] ++
    entryOf "cluster" (r.cluster.map .string) ++
    entryOf "direct_response" (r.directResponse.map DirectResponse.toValue) ++
    [("metadata", textMap r.metadata)])

/-- A filter as a value, dates in its settings being spelled as tables. -/
def Filter.toValue (f : Filter) : Value :=
  .table [("name", .string f.name), ("config", (Value.table f.settings.toList).spellDates)]

def Tracing.toValue? (t : Tracing) : Option Value := do
  return .table [
    ("random_sampling", .float t.randomSampling),
    ("operation_name", .string t.operation.name),
    ("verbose", .boolean t.verbose),
    ("max_path_tag_length", ← number? t.maxPathLength),
    ("custom_tags", textMap t.customTags)]

def Listener.toValue? (l : Listener) : Option Value := do
  let tracing ← match l.tracing with
    | some t => do pure (entryOf "tracing" (some (← t.toValue?)))
    | none => some []
  return .table (
    [("name", .string l.name), ("address", .string l.address), ("codec", .string l.codec)] ++
    entryOf "stat_prefix" (l.statLabel.map .string) ++
    [("drain_close", .boolean l.drainClose)] ++
    tracing ++
    [("filters", .array (l.filters.map Filter.toValue)),
      ("routes", .array (l.routes.map Route.toValue))])

def clustersValue? (cs : List Cluster) : Option Value :=
  (cs.mapM Cluster.toValue?).map .array

def toValue? (c : Config) : Option Value := do
  return .table [
    ("global", .table [("log_level", .string c.global.logLevel),
      ("grace_period", ← number? c.global.gracePeriod)]),
    ("telemetry", .table [("enabled", .boolean c.telemetry.enabled),
      ("otlp_endpoint", .string c.telemetry.endpoint),
      ("service_name", .string c.telemetry.serviceName),
      ("sampling_ratio", .float c.telemetry.samplingRatio)]),
    ("runtime", .table [("overrides",
      .table (c.overrides.toList.map fun (k, x) => (k, .float x)))]),
    ("listeners", .array (← c.listeners.mapM Listener.toValue?)),
    ("clusters", ← clustersValue? c.clusters)]

end RpcProxy.Config
