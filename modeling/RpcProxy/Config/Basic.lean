import RpcProxy.StringMap
import RpcProxy.Toml.Value

/-!
# Settings

What a configuration file can say, with the value that each setting has when the file is silent.
-/

set_option autoImplicit false

namespace RpcProxy.Config

/-- How messages to a cluster are framed. -/
inductive Transport where
  /-- Each message behind its length. -/
  | framed
  /-- Each message on a line of its own. -/
  | unframed
deriving DecidableEq, Repr, Inhabited

/-- The message protocol of a cluster. -/
inductive Protocol where
  | binary
  | compact
deriving DecidableEq, Repr, Inhabited

/-- The direction that a span reports. -/
inductive Operation where
  | ingress
  | egress
deriving DecidableEq, Repr, Inhabited

/-- The thresholds for taking a host out of service. -/
structure OutlierDetection where
  /-- Failed requests in a row before a host is ejected. -/
  consecutiveFailures : Nat := 5
  /-- Failed connects in a row before a host is ejected. -/
  consecutiveLocalFailures : Nat := 5
  /-- Successes that bring an ejected host back. -/
  successThreshold : Nat := 2
  /-- How long an ejected host stays out, in milliseconds. -/
  baseEjectionMillis : Nat := 30000
deriving DecidableEq, Repr, Inhabited

/-- A group of hosts. -/
structure Cluster where
  name : String
  hosts : List String
  transport : Transport := .framed
  protocol : Protocol := .binary
  /-- Whether the client's connection is closed behind a local error reply. -/
  closeDownstreamOnError : Bool := true
  /-- Connections to one host at a time. -/
  maxConnections : Nat := 1024
  /-- How long a connect may take, in seconds. -/
  connectTimeout : Nat := 10
  /-- When hosts are ejected. -/
  outlierDetection : OutlierDetection := {}
deriving DecidableEq, Repr, Inhabited

/-- The answer that a route gives by itself. -/
structure DirectResponse where
  /-- The name of the status code. -/
  status : String := "ok"
  message : String := ""
deriving DecidableEq, Repr, Inhabited

structure Route where
  name : String
  service : Option String := none
  method : Option String := none
  /-- The properties that a request must have. -/
  properties : StringMap String := {}
  /-- The cluster that requests go to. -/
  cluster : Option String := none
  /-- The answer that is given without a cluster. -/
  directResponse : Option DirectResponse := none
  /-- Anything else worth saying about the route. -/
  metadata : StringMap String := {}
deriving DecidableEq, Repr, Inhabited

/-- A filter by name, with its settings. -/
structure Filter where
  name : String
  settings : StringMap Toml.Value := {}
deriving Inhabited

/-- A setting that is a text. -/
def Filter.string? (f : Filter) (key : String) : Option String :=
  (f.settings.find? key).bind Toml.Value.string?

/-- The texts in a setting that is a table; other values are left out. -/
def Filter.stringMap (f : Filter) (key : String) : StringMap String :=
  let entries := ((f.settings.find? key).bind Toml.Value.table?).getD []
  StringMap.ofList (entries.filterMap fun (k, v) => v.string?.map (k, ·))

/-- What is traced of a listener's streams. -/
structure Tracing where
  /-- The percentage of streams that are traced. -/
  randomSampling : Float := 100
  /-- The direction that spans report. -/
  operation : Operation := .ingress
  /-- Whether spans carry more detail. -/
  verbose : Bool := false
  /-- The longest path that a span shows, in octets. -/
  maxPathLength : Nat := 256
  customTags : StringMap String := {}
deriving Inhabited

/-- A place where clients connect. -/
structure Listener where
  name : String
  address : String
  /-- The name of the codec that its clients speak. -/
  codec : String := "text"
  /-- The label of its counters, if not its name. -/
  statLabel : Option String := none
  /-- Whether idle connections are closed while the proxy drains. -/
  drainClose : Bool := true
  tracing : Option Tracing := none
  filters : List Filter := []
  routes : List Route := []
deriving Inhabited

/-- The label of a listener's counters. -/
def Listener.label (l : Listener) : String := l.statLabel.getD l.name

/-- Settings of the whole process. -/
structure Global where
  logLevel : String := "info"
  /-- How long a shutdown waits for connections, in seconds. -/
  gracePeriod : Nat := 30
deriving DecidableEq, Repr, Inhabited

/-- Where spans are exported. -/
structure Telemetry where
  /-- Whether spans are exported at all. -/
  enabled : Bool := false
  /-- The collector. -/
  endpoint : String := "http://localhost:4317"
  /-- The name that spans report. -/
  serviceName : String := "conduit"
  /-- The share of spans that are exported. -/
  samplingRatio : Float := 1
deriving Inhabited

end RpcProxy.Config

namespace RpcProxy

structure Config where
  /-- Settings of the process. -/
  global : Config.Global := {}
  /-- Where spans go. -/
  telemetry : Config.Telemetry := {}
  /-- Feature flags in percent. -/
  overrides : StringMap Float := {}
  /-- Where clients connect. -/
  listeners : List Config.Listener := []
  /-- Where requests go. -/
  clusters : List Config.Cluster := []
deriving Inhabited

/-- The first cluster with a name. -/
def Config.cluster? (c : Config) (name : String) : Option Config.Cluster :=
  c.clusters.find? (·.name == name)

end RpcProxy
