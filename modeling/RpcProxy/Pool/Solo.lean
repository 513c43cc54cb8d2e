import RpcProxy.Pool.Tcp

/-!
# A pool by itself

Some clients share the pool of one host, and nobody else does. `PoolOp` lists everything that they
and the sockets can do, and `SoloPool.step` what follows. A client remembers what it was told: a
connection, why it got none, octets and events. One that is forgotten is told nothing more.
-/

set_option autoImplicit false

namespace RpcProxy

structure PoolClient where
  /-- Its request, if it had to wait. -/
  handle : Option HandleId := none
  /-- The connection that it holds. -/
  link : Option LinkId := none
  /-- Why it got no connection. -/
  failure : Option FailureReason := none
  /-- Octets that came. -/
  data : Bytes := []
  events : List ConnectionEvent := []
deriving DecidableEq, Repr, Inhabited

/-- Something that clients of a pool, or sockets, do. -/
inductive PoolOp where
  /-- A new client asks for a connection. -/
  | request
  /-- A client takes its request back. -/
  | cancel (client : Nat) (policy : CancelPolicy)
  /-- A client goes, and with it the connection that it holds. -/
  | forget (client : Nat)
  /-- A client wants to be told about its connection. -/
  | attach (client : Nat)
  | write (client : Nat) (octets : Bytes)
  /-- A client closes its connection. -/
  | close (client : Nat) (how : CloseType)
  /-- A client gives its connection back. -/
  | release (client : Nat)
  | discard
  /-- An attempt to connect is over. -/
  | connected (handle : HandleId) (result : ConnectResult)
  /-- Octets come from the host. -/
  | data (link : LinkId) (octets : Bytes)
  /-- A connection ends from outside. -/
  | closed (link : LinkId) (event : ConnectionEvent)
deriving DecidableEq, Repr

structure SoloPool where
  pools : TcpPools
  stats : RouterStats := .start
  /-- The clients so far; there is nothing in the place of one that was forgotten. -/
  clients : List (Option PoolClient) := []
  /-- Attempts to connect that are not over. -/
  connecting : List HandleId := []

namespace SoloPool

def host : HostRef := { cluster := "users", address := "h:1" }

def start (most : Nat) : SoloPool := { pools := (TcpPools.poolOf {} host most 0).2 }

def client? (s : SoloPool) (i : Nat) : Option PoolClient := (s.clients[i]?).getD none

def modifyClient (s : SoloPool) (i : Nat) (f : PoolClient → PoolClient) : SoloPool :=
  { s with clients := s.clients.modify i (·.map f) }

/-- Whether the one who asked is still there. -/
def alive (s : SoloPool) (ref : RouterRef) : Bool := (s.client? ref.stream).isSome

/-- What a client keeps of what it is told. -/
def hear (c : PoolClient) : Delivery → PoolClient
  | .ready link _ => { c with link := some link }
  | .failure reason _ => { c with failure := some reason }
  | .data octets => { c with data := c.data ++ octets }
  | .event event => { c with events := c.events ++ [event] }

def count (s : SoloPool) (es : List RouterEvent) : SoloPool :=
  { s with stats := es.foldl RouterStats.record s.stats }

/-- What follows from something that a socket did. -/
def take (s : SoloPool) (o : TcpPools.Outcome) : SoloPool :=
  let s := { s with pools := o.pools }.count o.events
  match o.told with
  | some (ref, d) => s.modifyClient ref.stream (hear · d)
  | none => s

/-- Does something to the connection that a client holds. -/
def onLink (s : SoloPool) (i : Nat) (f : LinkId → LinkCommand) : SoloPool :=
  match (s.client? i).bind (·.link) with
  | some link => { s with pools := (s.pools.perform { stream := i } (f link)).2 }
  | none => s

/-- A client gives the connection back that it holds. -/
def giveBack (s : SoloPool) (i : Nat) : SoloPool :=
  (s.onLink i .release).modifyClient i fun c => { c with link := none }

/-- A new client asks for a connection. -/
def request (s : SoloPool) : PoolAnswer × SoloPool :=
  let (answer, events, pools) := s.pools.request 0 { stream := s.clients.length }
  let s := { s with pools }.count events
  let client : PoolClient := match answer with
    | .ready link _ => { link := some link }
    | .pending handle => { handle := some handle }
    | .failure _ _ => {}
  let connecting := match answer with
    | .pending handle => s.connecting ++ [handle]
    | _ => s.connecting
  (answer, { s with clients := s.clients ++ [some client], connecting })

def step (s : SoloPool) : PoolOp → SoloPool
  | .request => s.request.2
  | .cancel i policy =>
    match (s.client? i).bind (·.handle) with
    | some handle => { s with pools := (s.pools.perform { stream := i } (.cancel handle policy)).2 }
    | none => s
  | .forget i => { s.giveBack i with clients := (s.giveBack i).clients.modify i fun _ => none }
  | .attach i => s.onLink i .attach
  | .write i octets => s.onLink i (.write · octets)
  | .close i how => s.onLink i (.close · how)
  | .release i => s.giveBack i
  | .discard => { s with pools := s.pools.discard 0 }
  | .connected handle result =>
    if s.connecting.contains handle then
      { s with connecting := s.connecting.erase handle }.take
        (s.pools.onConnected s.alive handle result)
    else s
  | .data link octets => s.take (s.pools.onData s.alive link octets)
  | .closed link event => s.take (s.pools.onClosed s.alive link event)

/-- All attempts to connect end alike. -/
def settle (s : SoloPool) (result : ConnectResult) : SoloPool :=
  s.connecting.foldl (fun s handle => s.step (.connected handle result)) s

end SoloPool

end RpcProxy
