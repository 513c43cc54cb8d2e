import RpcProxy.Exchange.Basic

/-!
# Where connections to hosts come from

An exchange asks a pool for a connection and then works on it. What a pool is stays open: a
`PoolSource` says how its state answers and changes. `HostSide` puts such a state together with the
hosts and their counters, and `HostSide.apply` carries out what an exchange does to any of them.
-/

set_option autoImplicit false

namespace RpcProxy

/-- Whom a pool answers, and to whom the octets of a connection go: one filter of one stream. -/
structure RouterRef where
  /-- The client's connection. -/
  session : Nat := 0
  stream : Nat
  /-- The place of the filter in the stream's chain. -/
  slot : Nat := 0
deriving DecidableEq, Repr, Inhabited

/-- Something that a pool tells about its connections. -/
inductive PoolNote where
  /-- A connection was given back. -/
  | released (link : LinkId)
  /-- A request for a connection was taken back. -/
  | cancelled (handle : HandleId) (policy : CancelPolicy)
deriving DecidableEq, Repr

/-- What is to be told to a router. -/
inductive Delivery where
  /-- Its connection has come. -/
  | ready (link : LinkId) (host : HostRef)
  /-- It will get none. -/
  | failure (reason : FailureReason) (host : Option HostRef)
  | data (octets : Bytes)
  /-- Something happened to its connection. -/
  | event (event : ConnectionEvent)
deriving DecidableEq, Repr

/-- How pools of a certain state answer and change. -/
structure PoolSource (σ : Type) where
  /-- Asks for a connection to a host of a cluster. -/
  ask : Config.Cluster → HostRef → RouterRef → σ → PoolAnswer × List RouterEvent × σ
  state? : LinkId → σ → Option LinkState
  /-- Does something to a connection or a request on behalf of a router. -/
  perform : RouterRef → LinkCommand → σ → List PoolNote × σ

/-- All that clients' connections share on the side of the hosts. -/
structure HostSide (σ : Type) where
  /-- The clusters; a reload that changes them adds a new generation behind the old ones. -/
  generations : List Clusters := []
  stats : RouterStats := .start
  pools : σ

namespace HostSide

variable {σ : Type}

def clusters (h : HostSide σ) (generation : Nat) : Clusters := h.generations.getD generation {}

def modifyHost (h : HostSide σ) (host : HostRef) (f : Host → Host) : HostSide σ :=
  { h with generations := h.generations.modify host.generation (·.modifyHost host f) }

def count (h : HostSide σ) (e : RouterEvent) : HostSide σ := { h with stats := h.stats.record e }

def host? (h : HostSide σ) (host : HostRef) : Option Host :=
  ((h.clusters host.generation).list[host.clusterIndex]?).bind (·.hosts[host.hostIndex]?)

/-- Carries out what an effect does on the host side; effects on the client's side do nothing
here. -/
def apply (source : PoolSource σ) (ref : RouterRef) (now : Instant) (e : Effect) (h : HostSide σ) :
    List PoolNote × HostSide σ :=
  match e with
  | .report host result =>
    ([], h.modifyHost host fun x => { x with detector := x.detector.put result now })
  | .hold host => ([], h.modifyHost host fun x => { x with active := x.active.inc })
  | .unhold host => ([], h.modifyHost host fun x => { x with active := x.active.dec })
  | .count event => ([], h.count event)
  | .link command =>
    let (notes, pools) := source.perform ref command h.pools
    (notes, { h with pools })
  | _ => ([], h)

/-- Asks the pool of a host for a connection. -/
def ask (source : PoolSource σ) (cluster : Config.Cluster) (host : HostRef) (ref : RouterRef)
    (h : HostSide σ) : PoolAnswer × HostSide σ :=
  let (answer, events, pools) := source.ask cluster host ref h.pools
  (answer, events.foldl count { h with pools })

/-- The state of the connection that a pool answered with. -/
def answerState (source : PoolSource σ) (h : HostSide σ) : PoolAnswer → Option LinkState
  | .ready link _ => source.state? link h.pools
  | _ => none

end HostSide

end RpcProxy
