import RpcProxy.Server.Basic
import RpcProxy.Session.Serve

/-!
# The traffic of a server

All connections of clients together with the server that they belong to. Every client has a session
of its own; what sessions share (hosts, pools, counters, clocks) is kept once, by the server, and is
put into a session whenever the session has something to do.

`Happening` lists everything that sockets, the clock and the operator do, and `Traffic.step` what
follows. What a pool tells a router waits in the router's session until that session is woken, so
between the two anything else can happen.
-/

set_option autoImplicit false

namespace RpcProxy

structure Client where
  listener : Nat
  /-- Its session, in which what is shared may be out of date. -/
  session : Session TcpPools
  isOver : Bool := false

/-- A server with its clients. -/
structure Traffic where
  server : Server
  /-- Every client that ever was. -/
  clients : List Client := []
  clock : Clock := {}
  /-- The number that decides between tracing and not, between 0 and 1. -/
  roll : Float := 0.5
  /-- What was logged, the latest first. -/
  log : List LogEvent := []

/-- Something that happens to a server. -/
inductive Happening where
  /-- A client connects to a listener. -/
  | accepted (listener : Nat)
  /-- The loop of a client is woken, who can be sent something or not. -/
  | woken (client : Nat) (wake : Wake) (canSend : Bool)
  /-- An attempt to connect to a host is over. -/
  | connected (handle : HandleId) (result : ConnectResult)
  | hostData (link : LinkId) (octets : Bytes)
  /-- A connection to a host ends from outside. -/
  | hostClosed (link : LinkId) (event : ConnectionEvent)
  /-- The settings change. -/
  | update (u : Config.Update)
  /-- The process is about to stop. -/
  | drain
  /-- Time passes, in nanoseconds. -/
  | advance (nanos : Nat)

/-- What is sent to a client, and whether its connection is then over. -/
structure Reply where
  client : Nat
  octets : Bytes
  /-- Whether the connection is over. -/
  isLast : Bool
deriving DecidableEq, Repr

namespace Traffic

/-- The session of a client whose connection is not over, with what it shares put in. -/
def session? (t : Traffic) (i : Nat) : Option (Session TcpPools) := do
  let c ← t.clients[i]?
  let h ← t.server.listeners[c.listener]?
  if c.isOver then none
  else
    return { c.session with
      side := t.server.side
      stats := h.stats
      clock := t.clock
      roll := t.roll
      draining := t.server.draining && h.drainClose
      log := [] }

/-- The server with the counters of one listener changed. -/
def setStats (s : Server) (listener : Nat) (stats : ListenerStats) : Server :=
  { s with listeners := s.listeners.modify listener fun h => { h with stats } }

/-- Puts a session back, and what it shares where it belongs. -/
def put (t : Traffic) (i : Nat) (s : Session TcpPools) (isOver : Bool) : Traffic :=
  let listener := ((t.clients[i]?).map (·.listener)).getD 0
  { t with
    server := { setStats t.server listener s.stats with side := s.side }
    clients := t.clients.modify i fun c => { c with session := s, isOver }
    log := s.log ++ t.log }

/-- Whether a router is still there. -/
def alive (t : Traffic) (ref : RouterRef) : Bool :=
  (t.session? ref.session).any fun s => (s.router? ref).isSome

/-- A client connects. Nobody is let in while the process is about to stop. -/
def accept (t : Traffic) (listener : Nat) : Traffic :=
  match t.server.listeners[listener]? with
  | none => t
  | some h =>
    if t.server.draining then t
    else
      let i := t.clients.length
      let s := Session.opened i h.plan t.server.flags TcpPools.source t.server.side h.stats t.clock
      { t with
        server := setStats t.server listener s.stats
        clients := t.clients ++ [{ listener, session := s }] }

/-- A turn of a client's loop, in which nobody else is at work. -/
def wake (t : Traffic) (i : Nat) (w : Wake) (canSend : Bool) : Option Reply × Traffic :=
  match t.session? i with
  | none => (none, t)
  | some s =>
    let turn := s.turn canSend w
    (some { client := i, octets := turn.sent, isLast := turn.isLast },
      t.put i turn.session turn.isLast)

/-- What follows from something that a socket of a pool did. -/
def take (t : Traffic) (o : TcpPools.Outcome) : Traffic :=
  let side := o.events.foldl HostSide.count { t.server.side with pools := o.pools }
  let t := { t with server := { t.server with side } }
  match o.told with
  | none => t
  | some (ref, d) =>
    match t.session? ref.session with
    | none => t
    | some s => t.put ref.session (s.step (.deliver ref d)) false

/-- Something happens. Tells what is sent to whom. -/
def step (t : Traffic) (faults : FileFaults) : Happening → Option Reply × Traffic
  | .accepted listener => (none, t.accept listener)
  | .woken client w canSend => t.wake client w canSend
  | .connected handle result =>
    (none, t.take (t.server.side.pools.onConnected t.alive handle result))
  | .hostData link octets => (none, t.take (t.server.side.pools.onData t.alive link octets))
  | .hostClosed link event => (none, t.take (t.server.side.pools.onClosed t.alive link event))
  | .update u => (none, { t with server := t.server.apply faults u })
  | .drain => (none, { t with server := { t.server with draining := true } })
  | .advance nanos => (none, { t with clock := t.clock.advance nanos })

/-- The clients whose sessions have work to do. -/
def busy (t : Traffic) : List Nat :=
  (List.range t.clients.length).filter fun i =>
    (t.clients[i]?).any fun c => !c.isOver && !c.session.queue.isIdle

/-- What is to be done with sockets; it is told once. -/
def takeOrders (t : Traffic) : List SocketOrder × Traffic :=
  let side := t.server.side
  (side.pools.orders,
    { t with server := { t.server with side := { side with pools := { side.pools with orders := [] } } } })

/-- What was logged, the earliest first; it is told once. -/
def takeLog (t : Traffic) : List LogEvent × Traffic := (t.log.reverse, { t with log := [] })

end Traffic

end RpcProxy
