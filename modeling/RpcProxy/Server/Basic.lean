import RpcProxy.Config.Update
import RpcProxy.Metrics.Listener
import RpcProxy.Plan
import RpcProxy.Pool.Tcp
import RpcProxy.Trace

/-!
# The server and its listeners

A server has a handle for every listener of its first configuration. A reload gives handles new
plans for the connections to come; it never adds or removes a handle, and the counters go on. When
a plan cannot be built the handle keeps the one it has.
-/

set_option autoImplicit false

namespace RpcProxy

/-- Why a server cannot be set up. -/
inductive SetupError where
  | clusters (e : RouteError)
  | listener (name : String) (e : BuildError)
deriving DecidableEq, Repr

namespace SetupError

/-- The wording of an error and of what is behind it. -/
def chain : SetupError → List String
  | clusters e => ["Invalid cluster configuration", e.message]
  | listener name e => ("Failed to build listener '" ++ name ++ "'") :: e.chain

/-- Whether the file system is behind an error. -/
def isOutput : SetupError → Bool
  | clusters _ => false
  | listener _ e => e.isOutput

end SetupError

/-- The plan of a listener whose routes may need a router. -/
def Plan.ofListener (registry : FilterRegistry) (faults : FileFaults) (l : Config.Listener) :
    Except BuildError Plan :=
  Plan.ofConfig registry faults l.withRouter

structure ListenerHandle where
  name : String
  address : String
  /-- The plan for the next connection. -/
  plan : Plan
  stats : ListenerStats
  /-- Whether idle connections are closed while the process is about to stop. -/
  drainClose : Bool := true

namespace ListenerHandle

/-- The handle of a listener. -/
def ofConfig (registry : FilterRegistry) (faults : FileFaults) (now : Instant)
    (l : Config.Listener) : Except SetupError ListenerHandle :=
  match Plan.ofListener registry faults l with
  | .ok plan =>
    .ok { name := l.name, address := l.address, plan, stats := .start plan.label now,
          drainClose := l.drainClose }
  | .error e => .error (.listener l.name e)

/-- The handle with a new plan, which counts where the old one did. -/
def reload (h : ListenerHandle) (registry : FilterRegistry) (faults : FileFaults)
    (l : Config.Listener) : Except BuildError ListenerHandle := do
  return { h with plan := ← Plan.ofListener registry faults l }

end ListenerHandle

structure Server where
  listeners : List ListenerHandle
  /-- The feature flags for new connections. -/
  flags : Flags
  /-- What is shared on the side of the hosts. -/
  side : HostSide TcpPools
  /-- Whether the process is about to stop. -/
  draining : Bool := false

namespace Server

def setUpClusters (cs : List Config.Cluster) : Except SetupError Clusters :=
  (Clusters.ofConfig cs).mapError .clusters

/-- A server from its configuration. The clusters are looked at first, then the listeners in
order. -/
def ofConfig (faults : FileFaults) (now : Instant) (c : Config) : Except SetupError Server := do
  let clusters ← setUpClusters c.clusters
  let listeners ← c.listeners.mapM (ListenerHandle.ofConfig (.routing 0) faults now)
  return { listeners, flags := ⟨c.overrides⟩, side := { generations := [clusters], pools := {} } }

def sendsToHosts (l : Config.Listener) : Bool := l.withRouter.filters.any (·.name == routerName)

def concerns (u : Config.Update) (l : Config.Listener) : Bool :=
  u.isChanged l.name || (u.clustersChanged && sendsToHosts l)

/-- The handle after an update: with a new plan if the update concerns it and the plan can be
built. -/
def applyTo (faults : FileFaults) (u : Config.Update) (generation : Nat) (h : ListenerHandle) :
    ListenerHandle :=
  match u.config.listeners.find? (·.name == h.name) with
  | none => h
  | some l =>
    if concerns u l then
      match h.reload (.routing generation) faults l with
      | .ok h' => h'
      | .error _ => h
    else h

/-- The server after an update. With faulty clusters everything stays as it is. -/
def apply (s : Server) (faults : FileFaults) (u : Config.Update) : Server :=
  match setUpClusters u.config.clusters with
  | .error _ => s
  | .ok clusters =>
    let generation := s.side.generations.length
    { s with
      listeners := s.listeners.map (applyTo faults u generation)
      flags := ⟨u.config.overrides⟩
      side := { s.side with generations := s.side.generations ++ [clusters] } }

end Server

end RpcProxy
