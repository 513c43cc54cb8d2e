import RpcProxy.Session.Streams

/-!
# Running a session

Tasks run one after another in the order in which they were posted, and streams that are over are
dropped whenever no task is left. `SessionOp` lists everything that can happen to a session from
outside, and `Session.step` what follows.
-/

set_option autoImplicit false

namespace RpcProxy

/-- Something that happens to a session from outside. -/
inductive SessionOp where
  /-- Octets come from the client. -/
  | data (octets : Bytes)
  | request (r : Request)
  /-- Something happens to the client's connection. -/
  | event (e : ConnectionEvent)
  /-- The client's connection is closed with all its streams. -/
  | close (how : CloseType)
  /-- The client's connection is closed, and nobody is told. -/
  | closeQuietly (how : CloseType)
  /-- All streams in flight are reset. -/
  | resetAll
  /-- The process is about to stop. -/
  | drain
  /-- The connection is closed if it is idle and the process is about to stop. -/
  | drainCheck
  /-- Something is done with a stream at once. -/
  | stream (id : StreamId) (op : StreamOp)
  /-- Something is asked of a stream, to be done later. -/
  | ask (id : StreamId) (op : StreamOp)
  /-- A router is told something, to be taken up later. -/
  | deliver (ref : RouterRef) (delivery : Delivery)
  /-- A stream is held, so that it stays. -/
  | hold (id : StreamId)
  /-- A stream is held no longer. -/
  | release (id : StreamId)
  /-- Tasks run until nothing is left to do. -/
  | run
  /-- Streams that are over are dropped. -/
  | clearDeferred
  /-- The connection is not served any more. -/
  | dismiss
  /-- Time passes, in nanoseconds. -/
  | advance (nanos : Nat)

namespace Session

variable {σ : Type}

/-- A connection that was just accepted. -/
def opened (number : Nat) (plan : Plan) (flags : Flags) (source : PoolSource σ) (side : HostSide σ)
    (stats : ListenerStats) (clock : Clock) : Session σ :=
  { number, plan, flags, source, side, clock,
    stats := { stats with
      connections := stats.connections.inc
      activeConnections := stats.activeConnections.inc } }

/-! ## Dropping streams -/

/-- A stream goes; routers that are still at work let go of their exchanges. -/
def dropStream (s : Session σ) (id : StreamId) : Session σ :=
  match s.stream? id with
  | none => s
  | some x =>
    let s := x.routers.foldl (fun s slot => s.dropRouter (s.refTo id slot)) s
    { s with streams := s.streams.filter (·.id != id) }

/-- A stream goes unless somebody still needs it. -/
def dropUnneeded (s : Session σ) (id : StreamId) : Session σ :=
  if s.active.contains id || s.held.contains id || s.queue.deferred.contains id then s
  else s.dropStream id

/-- Drops the streams that wait for it. -/
def clearDeferred (s : Session σ) : Session σ :=
  let batch := s.queue.deferred
  batch.foldl dropUnneeded { s with queue := { s.queue with deferred := [] } }

/-- The connection is not served any more, and its streams go. -/
def dismiss (s : Session σ) : Session σ :=
  if !s.isServed then s
  else
    let ids := s.active
    let s := s.measure fun m => { m with activeConnections := m.activeConnections.dec }
    ids.foldl dropUnneeded { s with isServed := false, active := [] }

/-! ## Tasks -/

def perform (s : Session σ) (id : StreamId) : StreamOp → Session σ
  | .continueDecoding => s.continueDecoding id
  | .continueEncoding => s.continueEncoding id
  | .localReply status update => s.localReply id status update
  | .respond r => s.respond id r
  | .complete => if s.isServed then s.finishStream id else s
  | .reset => s.resetStream id
  | .resetConnection =>
    if s.isServed && (s.stream? id).isSome then s.closeConnection .noFlush else s

def runTask (s : Session σ) : Task → Session σ
  | .stream id op => s.perform id op
  | .router ref .write => s.writeCall ref
  | .router ref (.ask op) => s.perform ref.stream op
  | .router ref (.deliver d) => s.onDelivery ref d
  | .closed => if s.isServed then s.onConnectionEvent .localClose else s

/-- Runs tasks and drops streams until nothing is left to do, in at most so many steps. -/
def runUntilIdle : Nat → Session σ → Session σ
  | 0, s => s
  | fuel + 1, s =>
    if s.panic.isSome then s
    else
      match s.queue.posted with
      | t :: rest => runUntilIdle fuel ({ s with queue := { s.queue with posted := rest } }.runTask t)
      | [] => if s.queue.deferred.isEmpty then s else runUntilIdle fuel s.clearDeferred

/-- Far more steps than a task, or a stream, makes necessary while filters come to an end. -/
def patience : Nat := 1000000

/-- The steps that a run may take: a share for every task that waits and for every stream. -/
def effort (s : Session σ) : Nat :=
  patience * (1 + s.queue.posted.length + s.queue.deferred.length + s.streams.length)

/-! ## What happens from outside -/

/-- Something happens to the session. What concerns the connection is for sessions that are
served. -/
def step (s : Session σ) : SessionOp → Session σ
  | .data octets => if s.isServed then s.onClientData octets else { s with buffer := s.buffer ++ octets }
  | .request r => if s.isServed then s.beginStream r else s
  | .event e => if s.isServed then s.onConnectionEvent e else s
  | .close how => if s.isServed then s.closeConnection how else s
  | .closeQuietly how => { s with connection := s.connection.close how }
  | .resetAll => if s.isServed then s.resetAll else s
  | .drain => { s with draining := true }
  | .drainCheck => if s.isServed then s.closeIfDrained else s
  | .stream id op => s.perform id op
  | .ask id op => s.post (.stream id op)
  | .deliver ref d => s.post (.router ref (.deliver d))
  | .hold id => if (s.stream? id).isSome && !s.held.contains id then { s with held := id :: s.held } else s
  | .release id => { s with held := s.held.erase id }.dropUnneeded id
  | .run => s.runUntilIdle s.effort
  | .clearDeferred => s.clearDeferred
  | .dismiss => s.dismiss
  | .advance nanos => { s with clock := s.clock.advance nanos }

end Session

end RpcProxy
