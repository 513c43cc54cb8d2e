import RpcProxy.Config.Decode
import RpcProxy.Decimal.Shortest

/-!
# Which configurations are accepted

A configuration that can be read may still make no sense. `Config.validate` looks at the clusters
in order and then at the listeners in order, and reports the first fault it meets. `Config.parse`
reads a text and validates it.
-/

set_option autoImplicit false

namespace RpcProxy.Config

/-- Why a configuration is refused. -/
inductive Fault where
  /-- Two clusters have one name. -/
  | duplicateCluster (name : String)
  | noHosts (cluster : String)
  | noConnections (cluster : String)
  /-- Two listeners have one name. -/
  | duplicateListener (name : String)
  | noAddress (listener : String)
  /-- A percentage is none. -/
  | badSampling (listener : String) (percent : Float)
  /-- A route leads nowhere. -/
  | noTarget (route : String)
  /-- A route leads to a cluster that there is not. -/
  | unknownCluster (route cluster : String)
deriving Repr

def Fault.message : Fault → String
  | duplicateCluster name => "Duplicate cluster name '" ++ name ++ "'"
  | noHosts cluster => "Cluster '" ++ cluster ++ "' has no hosts"
  | noConnections cluster => "Cluster '" ++ cluster ++ "' needs max_connections of at least 1"
  | duplicateListener name => "Duplicate listener name '" ++ name ++ "'"
  | noAddress listener => "Listener '" ++ listener ++ "' has no address"
  | badSampling listener percent =>
    "Listener '" ++ listener ++ "' random_sampling must be within 0..=100, got " ++
      Double.text percent
  | noTarget route => "Route '" ++ route ++ "' needs either a cluster or a direct_response"
  | unknownCluster route cluster =>
    "Route '" ++ route ++ "' references unknown cluster '" ++ cluster ++ "'"

/-- The first fault among the clusters, `seen` being the names before them. -/
def clusterFault? (seen : List String) : List Cluster → Option Fault
  | [] => none
  | c :: rest =>
    if seen.contains c.name then some (.duplicateCluster c.name)
    else if c.hosts.isEmpty then some (.noHosts c.name)
    else if c.maxConnections = 0 then some (.noConnections c.name)
    else clusterFault? (c.name :: seen) rest

/-- The fault of a route, given the names of the clusters. -/
def routeFault? (clusters : List String) (r : Route) : Option Fault :=
  match r.cluster, r.directResponse with
  | none, none => some (.noTarget r.name)
  | some cluster, _ =>
    if clusters.contains cluster then none else some (.unknownCluster r.name cluster)
  | none, some _ => none

/-- Whether a percentage lies between 0 and 100. -/
def isPercentage (x : Float) : Bool := 0 ≤ x && x ≤ 100

def tracingFault? (l : Listener) : Option Fault :=
  match l.tracing with
  | some t => if isPercentage t.randomSampling then none else some (.badSampling l.name t.randomSampling)
  | none => none

/-- The first fault among the listeners, `seen` being the names before them. -/
def listenerFault? (clusters seen : List String) : List Listener → Option Fault
  | [] => none
  | l :: rest =>
    if seen.contains l.name then some (.duplicateListener l.name)
    else if l.address.isEmpty then some (.noAddress l.name)
    else (tracingFault? l).or <| (l.routes.findSome? (routeFault? clusters)).or <|
      listenerFault? clusters (l.name :: seen) rest

/-- The first fault of a configuration. -/
def fault? (c : Config) : Option Fault :=
  (clusterFault? [] c.clusters).or (listenerFault? (c.clusters.map (·.name)) [] c.listeners)

/-- Whether a configuration is accepted. -/
def Valid (c : Config) : Prop := fault? c = none

/-! ## Reading a file -/

/-- Why a file gives no configuration. -/
inductive LoadError where
  /-- The file cannot be read as text. -/
  | unreadable
  /-- The text is no TOML, or its values do not fit. -/
  | malformed
  /-- The configuration is refused. -/
  | invalid (fault : Fault)
deriving Repr

/-- Reads and validates a configuration. -/
def parse (text : String) : Except LoadError Config :=
  match (Toml.parse? text).bind ofValue? with
  | none => .error .malformed
  | some c =>
    match fault? c with
    | some fault => .error (.invalid fault)
    | none => .ok c

end RpcProxy.Config
