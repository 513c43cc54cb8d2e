import RpcProxy.Downstream
import RpcProxy.Metrics.Listener
import RpcProxy.Panic
import RpcProxy.Stream
import RpcProxy.WorkQueue

/-!
# Sessions

A session is one client's connection with all its streams. This file has its state and the small
steps that others are made of: looking up and changing a stream, posting a task, logging.

A stream is there as long as somebody needs it: it is in flight, waits to be dropped, or is held
from outside. Tasks name their stream by number and come to nothing when it is gone.
-/

set_option autoImplicit false

namespace RpcProxy

/-- Something that a router does later. -/
inductive RouterOp where
  /-- It writes the call. -/
  | write
  | ask (op : StreamOp)
  /-- It is told something by a pool. -/
  | deliver (delivery : Delivery)

/-- Work that waits. -/
inductive Task where
  /-- Something that was asked of a stream. -/
  | stream (id : StreamId) (op : StreamOp)
  /-- Something that the router of a stream does. -/
  | router (ref : RouterRef) (op : RouterOp)
  /-- The client's connection was closed by a reply. -/
  | closed

/-- The tasks that come of what a filter asks for. -/
def Asides.tasks (a : Asides) : List Task := a.asks.map fun (id, op) => .stream id op

inductive LogEvent where
  | note (text : String)
  /-- A line of the access log, for a file or for the log of the process. -/
  | access (file : Option String) (line : String)
  | spanStart (tracing : Config.Tracing) (request : Request) (decision : TraceDecision)
    (known : Option TraceReason)
  | spanEnd (recorded : Bool) (calls : List SpanCall)
  /-- A pool tells something. -/
  | pool (note : PoolNote)

/-- A client's connection. -/
structure Session (σ : Type) where
  number : Nat := 0
  plan : Plan
  flags : Flags := {}
  /-- The number that decides between tracing and not, between 0 and 1. -/
  roll : Float := 0.5
  /-- Where connections to hosts come from. -/
  source : PoolSource σ
  /-- What is shared on the side of the hosts. -/
  side : HostSide σ
  stats : ListenerStats
  clock : Clock := {}
  /-- Whether the process is about to stop. -/
  draining : Bool := false
  connection : Downstream := {}
  /-- Octets that make no whole line yet. -/
  buffer : Bytes := []
  isServed : Bool := true
  /-- Whether the connection is known to be closed. -/
  isClosed : Bool := false
  nextId : StreamId := 0
  /-- The streams in flight, the oldest first. -/
  active : List StreamId := []
  streams : List Stream := []
  /-- The streams that are held from outside. -/
  held : List StreamId := []
  /-- What waits: tasks, and streams that are to be dropped. -/
  queue : WorkQueue Task StreamId := {}
  /-- What was logged, the latest first. -/
  log : List LogEvent := []
  /-- The promise that was broken, if any; nothing happens after that. -/
  panic : Option Panic := none

namespace Session

variable {σ : Type}

/-- The time that passes. -/
def now (s : Session σ) : Instant := s.clock.monotonic

def note (s : Session σ) (e : LogEvent) : Session σ := { s with log := e :: s.log }

def post (s : Session σ) (t : Task) : Session σ := { s with queue := s.queue.post t }

/-- Stops at a broken promise. -/
def stop (s : Session σ) (p : Panic) : Session σ := { s with panic := some p }

/-- Changes the counters of the listener. -/
def measure (s : Session σ) (f : ListenerStats → ListenerStats) : Session σ :=
  { s with stats := f s.stats }

/-! ## Streams -/

/-- The stream with a number, while it is there. -/
def stream? (s : Session σ) (id : StreamId) : Option Stream := s.streams.find? (·.id == id)

def modifyStream (s : Session σ) (id : StreamId) (f : Stream → Stream) : Session σ :=
  { s with streams := s.streams.map fun x => if x.id = id then f x else x }

/-! ## Routers -/

def refTo (s : Session σ) (id : StreamId) (slot : Nat) : RouterRef :=
  { session := s.number, stream := id, slot }

/-- The router with a name, while it is there. -/
def router? (s : Session σ) (ref : RouterRef) : Option Router :=
  if ref.session = s.number then (s.stream? ref.stream).bind (·.router? ref.slot) else none

/-- Puts a changed router back. -/
def setRouter (s : Session σ) (ref : RouterRef) (r : Router) : Session σ :=
  s.modifyStream ref.stream (·.remember ref.slot (.router r))

def modifyRouter (s : Session σ) (ref : RouterRef) (f : Router → Router) : Session σ :=
  match s.router? ref with
  | some r => s.setRouter ref (f r)
  | none => s

/-- Counts something on the side of the hosts. -/
def count (s : Session σ) (e : RouterEvent) : Session σ := { s with side := s.side.count e }

end Session

end RpcProxy
