import RpcProxy.Detector
import RpcProxy.Metrics.Basic
import RpcProxy.Text.Quote

/-!
# Clusters

A cluster is a list of hosts with settings in common. Requests go round among the hosts that are
not ejected: a counter goes up with every choice and its remainder picks one of them.
-/

set_option autoImplicit false

namespace RpcProxy

/-- Where a host stands among all hosts, and what it is called. -/
structure HostRef where
  /-- Which set of clusters it belongs to; a reload makes a new one. -/
  generation : Nat := 0
  clusterIndex : Nat := 0
  /-- Its place in the cluster. -/
  hostIndex : Nat := 0
  cluster : String
  address : String
deriving DecidableEq, Repr, Inhabited

def HostRef.label (h : HostRef) : String := h.cluster ++ "/" ++ h.address

structure Host where
  address : String
  cluster : String
  /-- Its health. -/
  detector : Detector := {}
  /-- Requests that hold a connection to it. -/
  active : Gauge := {}
deriving DecidableEq, Repr, Inhabited

def Host.label (h : Host) : String := h.cluster ++ "/" ++ h.address

/-- A description of a host for people, as somebody sees it who looks now. -/
def Host.describe (h : Host) (now : Instant) : String :=
  "Host \x7b address: " ++ Text.quote h.address ++ ", cluster: " ++ Text.quote h.cluster ++
    ", ejected: " ++ (if h.detector.isEjected now then "true" else "false") ++
    ", active_requests: " ++ toString h.active.value.toNat ++ " \x7d"

/-- Why no host can be had. -/
inductive RouteError where
  | unknownCluster (name : String)
  | noHosts (cluster : String)
  /-- All hosts of the cluster are ejected. -/
  | noHealthyHost (cluster : String)
deriving DecidableEq, Repr

def RouteError.message : RouteError → String
  | unknownCluster name => "Unknown cluster: " ++ name
  | noHosts cluster => "Cluster " ++ cluster ++ " has no hosts"
  | noHealthyHost cluster => "No healthy host in cluster " ++ cluster

/-- A group of hosts. -/
structure Cluster where
  config : Config.Cluster
  /-- Its hosts, in the order of the settings. -/
  hosts : List Host
  /-- Goes up with every choice. -/
  counter : UInt64 := 0
deriving DecidableEq, Repr, Inhabited

namespace Cluster

def name (c : Cluster) : String := c.config.name

/-- A cluster from its settings, which must name a host. -/
def ofConfig (c : Config.Cluster) : Except RouteError Cluster :=
  if c.hosts.isEmpty then .error (.noHosts c.name)
  else .ok {
    config := c
    hosts := c.hosts.map fun address =>
      { address, cluster := c.name, detector := { settings := c.outlierDetection } } }

/-- The cluster after somebody looked at all its hosts. -/
def look (c : Cluster) (now : Instant) : Cluster :=
  { c with hosts := c.hosts.map fun h => { h with detector := h.detector.look now } }

/-- The places of the hosts that are not ejected. -/
def eligible (c : Cluster) (now : Instant) : List Nat :=
  (List.range c.hosts.length).filter fun i =>
    ((c.hosts[i]?).map fun h => !h.detector.isEjected now).getD false

/-- Picks the place of a host. -/
def choose (c : Cluster) (now : Instant) : Except RouteError Nat × Cluster :=
  let c' := c.look now
  match c.eligible now with
  | [] => (.error (.noHealthyHost c.name), c')
  | i :: is =>
    let pick := (i :: is).getD (c.counter.toNat % (i :: is).length) i
    (.ok pick, { c' with counter := c.counter + 1 })

def modifyHost (c : Cluster) (i : Nat) (f : Host → Host) : Cluster :=
  { c with hosts := c.hosts.modify i f }

end Cluster

structure Clusters where
  /-- The clusters in the order of the settings. -/
  list : List Cluster := []
deriving DecidableEq, Repr, Inhabited

namespace Clusters

def ofConfig (cs : List Config.Cluster) : Except RouteError Clusters := do
  return { list := ← cs.mapM Cluster.ofConfig }

/-- The place of the first cluster with a name. -/
def indexOf? (cs : Clusters) (name : String) : Option Nat := cs.list.findIdx? (·.name == name)

def modify (cs : Clusters) (i : Nat) (f : Cluster → Cluster) : Clusters :=
  { cs with list := cs.list.modify i f }

def modifyHost (cs : Clusters) (h : HostRef) (f : Host → Host) : Clusters :=
  cs.modify h.clusterIndex (·.modifyHost h.hostIndex f)

/-- Picks a host of the first cluster with a name. -/
def choose (cs : Clusters) (generation : Nat) (name : String) (now : Instant) :
    Except RouteError (Cluster × HostRef) × Clusters :=
  match cs.indexOf? name with
  | none => (.error (.unknownCluster name), cs)
  | some i =>
    match cs.list[i]? with
    | none => (.error (.unknownCluster name), cs)
    | some c =>
      let (result, c') := c.choose now
      let cs' := cs.modify i fun _ => c'
      match result with
      | .error e => (.error e, cs')
      | .ok hostIndex =>
        let address := ((c.hosts[hostIndex]?).map (·.address)).getD ""
        (.ok (c', { generation, clusterIndex := i, hostIndex, cluster := c.name, address }), cs')

end Clusters

end RpcProxy
