import RpcProxy.Pool.Source

/-!
# Pools of connections to hosts

Connections that nobody uses are kept and handed out again, the latest first. A pool counts those
in use and those under way against a budget, and a request beyond it fails at once. What a socket
does (a connect that ends, octets, an end) is an event here; what follows for a router is a
`Delivery`, to be carried out on the router's own connection, and what follows for a socket is a
`SocketOrder`.

A host has one pool at a time. When a reload makes the host anew, the next request makes a new pool
and the old one is gone with its idle connections: connects that are still under way then end
without anybody being told.
-/

set_option autoImplicit false

namespace RpcProxy

/-- A connection to a host. -/
structure TcpLink where
  pool : Nat
  state : ConnectionState := .opened
  /-- To whom its octets and events go. -/
  owner : Option RouterRef := none
  /-- The state that exchanges share. -/
  shared : Option LinkState := none
deriving DecidableEq, Repr, Inhabited

/-- A request for a connection that is under way. -/
structure ConnectRequest where
  pool : Nat
  router : RouterRef
  /-- Whether it was taken back, and what then becomes of the connection. -/
  cancelled : Option CancelPolicy := none
  /-- Whether the attempt to connect is over, which it is once. -/
  isOver : Bool := false
deriving DecidableEq, Repr, Inhabited

/-- The connections to one host. -/
structure TcpPool where
  host : HostRef
  /-- Connections in use and under way at a time. -/
  most : Nat
  /-- How long connecting may take, in seconds. -/
  timeout : Nat := 0
  /-- Connections that nobody uses, the latest first. -/
  idle : List LinkId := []
  /-- Connections in use. -/
  busy : Nat := 0
  /-- Connections under way. -/
  connecting : Nat := 0
  gone : Bool := false
deriving DecidableEq, Repr, Inhabited

inductive SocketOrder where
  /-- A connection is to be made for a request, within some seconds. -/
  | connect (handle : HandleId) (address : String) (timeout : Nat)
  | send (link : LinkId) (octets : Bytes)
  /-- A connection is to be closed. -/
  | close (link : LinkId) (how : CloseType)
deriving DecidableEq, Repr

structure TcpPools where
  /-- Every pool that ever was. -/
  pools : List TcpPool := []
  /-- The pool of each host, by the host's label. -/
  current : StringMap Nat := {}
  /-- Every connection that ever was. -/
  links : List TcpLink := []
  requests : List ConnectRequest := []
  orders : List SocketOrder := []
deriving DecidableEq, Repr, Inhabited

/-- How an attempt to connect ends. -/
inductive ConnectResult where
  | connected
  | failed (reason : FailureReason)
deriving DecidableEq, Repr

namespace TcpPools

def modifyPool (p : TcpPools) (i : Nat) (f : TcpPool → TcpPool) : TcpPools :=
  { p with pools := p.pools.modify i f }

/-- The pools with one connection changed. -/
def modifyLink (p : TcpPools) (i : LinkId) (f : TcpLink → TcpLink) : TcpPools :=
  { p with links := p.links.modify i f }

def isOpen (p : TcpPools) (i : LinkId) : Bool := ((p.links[i]?).map (·.state)) == some .opened

/-- One more thing is to be done with a socket. -/
def order (p : TcpPools) (o : SocketOrder) : TcpPools := { p with orders := p.orders ++ [o] }

/-- A connection is known to be closed. -/
def markClosed (p : TcpPools) (i : LinkId) : TcpPools :=
  p.modifyLink i fun l => { l with state := .closed }

/-- A connection that is open is closed. -/
def shut (p : TcpPools) (i : LinkId) (how : CloseType) : TcpPools :=
  if p.isOpen i then (p.markClosed i).order (.close i how) else p

/-- A pool goes, and with it the connections that nobody uses. -/
def discard (p : TcpPools) (i : Nat) : TcpPools :=
  let idle := ((p.pools[i]?).map (·.idle)).getD []
  idle.foldl (fun p link => p.shut link .flush)
    (p.modifyPool i fun x => { x with idle := [], gone := true })

/-- The pool of a host; a host that was made anew gets a new one, with its own settings. -/
def poolOf (p : TcpPools) (host : HostRef) (most timeout : Nat) : Nat × TcpPools :=
  let fresh (p : TcpPools) : Nat × TcpPools :=
    let i := p.pools.length
    (i, { p with pools := p.pools ++ [{ host, most, timeout }], current := p.current.insert host.label i })
  match p.current.find? host.label with
  | none => fresh p
  | some i => if ((p.pools[i]?).map (·.host)) == some host then (i, p) else fresh (p.discard i)

/-- The first open connection of those that nobody uses, with those behind it. -/
def reusable (p : TcpPools) : List LinkId → Option LinkId × List LinkId
  | [] => (none, [])
  | i :: rest => if p.isOpen i then (some i, rest) else p.reusable rest

/-- Asks a pool for a connection. -/
def request (p : TcpPools) (i : Nat) (router : RouterRef) : PoolAnswer × List RouterEvent × TcpPools :=
  match p.pools[i]? with
  | none => (.failure .localFailure none, [], p)
  | some pool =>
    let (found, rest) := p.reusable pool.idle
    let p := p.modifyPool i fun x => { x with idle := rest }
    match found with
    | some link =>
      (.ready link pool.host, [], p.modifyPool i fun x => { x with busy := x.busy + 1 })
    | none =>
      if pool.busy + pool.connecting ≥ pool.most then
        (.failure .overflow (some pool.host), [.overflow pool.host.label], p)
      else
        let handle := p.requests.length
        let p := p.order (.connect handle pool.host.address pool.timeout)
        (.pending handle, [],
          { p.modifyPool i fun x => { x with connecting := x.connecting + 1 } with
            requests := p.requests ++ [{ pool := i, router }] })

/-- Asks the pool of a host for a connection. -/
def ask (cluster : Config.Cluster) (host : HostRef) (router : RouterRef) (p : TcpPools) :
    PoolAnswer × List RouterEvent × TcpPools :=
  let (i, p) := p.poolOf host cluster.maxConnections cluster.connectTimeout
  p.request i router

/-- A connection is given back: an open one is kept for the next request, unless its pool is
gone. -/
def release (p : TcpPools) (link : LinkId) : TcpPools :=
  let p := p.modifyLink link fun l => { l with owner := none }
  match p.links[link]? with
  | none => p
  | some l =>
    if (p.pools[l.pool]?).all (·.gone) then p.shut link .flush
    else
      p.modifyPool l.pool fun x =>
        { x with busy := x.busy - 1, idle := if l.state = .opened then link :: x.idle else x.idle }

/-- Does something to a connection or a request. -/
def perform (router : RouterRef) (c : LinkCommand) (p : TcpPools) : List PoolNote × TcpPools :=
  match c with
  | .attach link => ([], p.modifyLink link fun l => { l with owner := some router })
  | .initState link state => ([], p.modifyLink link fun l => { l with shared := some state })
  | .updateState link state => ([], p.modifyLink link fun l => { l with shared := some state })
  | .write link data => ([], if p.isOpen link then p.order (.send link data) else p)
  | .close link how => ([], p.shut link how)
  | .release link => ([.released link], p.release link)
  | .cancel handle policy =>
    ([.cancelled handle policy],
      { p with requests := p.requests.modify handle fun r => { r with cancelled := some policy } })

def source : PoolSource TcpPools where
  ask := ask
  state? link p := (p.links[link]?).bind (·.shared)
  perform := perform

/-! ## What sockets do -/

/-- What follows from an event: what is counted, what a router is told, and the pools. -/
structure Outcome where
  events : List RouterEvent := []
  told : Option (RouterRef × Delivery) := none
  pools : TcpPools

/-- The pools with the attempt for one request over. -/
def endRequest (p : TcpPools) (handle : HandleId) : TcpPools :=
  { p with requests := p.requests.modify handle fun r => { r with isOver := true } }

/-- An attempt to connect for a request is over. Whether the router is still there decides whether
it is told. -/
def onConnected (alive : RouterRef → Bool) (handle : HandleId) (result : ConnectResult)
    (p : TcpPools) : Outcome :=
  match p.requests[handle]? with
  | none => { pools := p }
  | some r =>
    match p.pools[r.pool]? with
    | none => { pools := p }
    | some pool =>
      if r.isOver || pool.gone then { pools := p }
      else
        let p := (p.modifyPool r.pool fun x => { x with connecting := x.connecting - 1 }).endRequest handle
        match result with
        | .failed reason =>
          { events := [.connectFailed pool.host.label]
            told := if r.cancelled.isNone && alive r.router then
                some (r.router, .failure reason (some pool.host))
              else none
            pools := p }
        | .connected =>
          let link := p.links.length
          let p : TcpPools := { p with links := p.links ++ [{ pool := r.pool }] }
          let events := [RouterEvent.connected pool.host.label]
          match r.cancelled with
          | some .closeExcess => { events, pools := p.shut link .noFlush }
          | some .keep =>
            { events, pools := p.modifyPool r.pool fun x => { x with idle := link :: x.idle } }
          | none =>
            if alive r.router then
              { events
                told := some (r.router, .ready link pool.host)
                pools := p.modifyPool r.pool fun x => { x with busy := x.busy + 1 } }
            else { events, pools := p.modifyPool r.pool fun x => { x with idle := link :: x.idle } }

/-- A connection leaves the list of those that nobody uses. -/
def detach (p : TcpPools) (link : LinkId) : TcpPools :=
  match p.links[link]? with
  | none => p
  | some l => p.modifyPool l.pool fun x => { x with idle := x.idle.filter (· != link) }

/-- The router that a connection's octets go to, if it is still there. -/
def listener? (alive : RouterRef → Bool) (p : TcpPools) (link : LinkId) : Option RouterRef :=
  ((p.links[link]?).bind (·.owner)).filter alive

/-- Octets have come. Octets that nobody waits for close the connection; a closed one reads no
more. -/
def onData (alive : RouterRef → Bool) (link : LinkId) (octets : Bytes) (p : TcpPools) : Outcome :=
  if p.isOpen link then
    match p.listener? alive link with
    | some router => { told := some (router, .data octets), pools := p }
    | none => { pools := (p.shut link .noFlush).detach link }
  else { pools := p }

/-- A connection has ended from outside. -/
def onClosed (alive : RouterRef → Bool) (link : LinkId) (event : ConnectionEvent) (p : TcpPools) :
    Outcome :=
  if p.isOpen link then
    { told := (p.listener? alive link).map (·, .event event)
      pools := (p.markClosed link).detach link }
  else { pools := p }

end TcpPools

end RpcProxy
