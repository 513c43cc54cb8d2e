import RpcProxy.Session.Run

/-!
# Serving a connection

A client's connection is served in turns. Something wakes the loop: octets, the end of reading, a
look at whether the process is about to stop, or work. What follows is done until nothing is left to
do, what was written is sent, and a connection that is not open any more is taken down. After the
last turn everything is done that is still waiting, and the connection is not served any more.

The loop waits for its socket twice: until what was written is sent, and until the socket of a
connection that goes down is shut. Others are at work meanwhile, and may tell routers something.
-/

set_option autoImplicit false

namespace RpcProxy

/-- What wakes the loop of a connection. -/
inductive Wake where
  | octets (data : Bytes)
  /-- Reading has ended or failed. -/
  | ended
  /-- It is time to look whether the process is about to stop. -/
  | tick
  | work
deriving DecidableEq, Repr

/-- Something that others do while the loop waits. -/
inductive Interruption (σ : Type) where
  /-- A router is told something, to be taken up later. -/
  | told (ref : RouterRef) (delivery : Delivery)
  /-- What the connection shares with others changes, time passes, or the process is about to stop. -/
  | shared (side : HostSide σ) (clock : Clock) (roll : Float) (draining : Bool)

/-- What others do in a turn, while the loop waits for its socket. -/
structure Waits (σ : Type) where
  /-- Until what was written is sent. -/
  sending : List (Interruption σ) := []
  /-- Until the socket is shut. -/
  shutting : List (Interruption σ) := []

structure Turn (σ : Type) where
  sent : Bytes := []
  /-- Whether this was the last turn. -/
  isLast : Bool
  session : Session σ

namespace Session

variable {σ : Type}

def interrupt (s : Session σ) : Interruption σ → Session σ
  | .told ref d => s.step (.deliver ref d)
  | .shared side clock roll draining => { s with side, clock, roll, draining }

def interruptAll (s : Session σ) (is : List (Interruption σ)) : Session σ := is.foldl interrupt s

/-- After the last turn: what waits is done, and the connection is not served any more. -/
def finish (s : Session σ) : Session σ := (s.step .run).step .dismiss

/-- The last turn, with the event that ends the connection, and with what others do before what waits
is done. -/
def lastTurn (s : Session σ) (sent : Bytes) (e : ConnectionEvent) (is : List (Interruption σ)) :
    Turn σ :=
  { sent, isLast := true, session := ((s.step (.event e)).interruptAll is).finish }

/-- A task is given up. A connection that was on its way to a router is given back. -/
def giveUp (s : Session σ) : Task → Session σ
  | .router ref (.deliver (.ready link _)) => s.giveBack ref link
  | _ => s

/-- Everything goes at once, without being done: the streams, and the tasks that wait. -/
def abandon (s : Session σ) : Session σ :=
  let s := s.step .dismiss
  s.queue.posted.foldl giveUp { s with queue := {} }

/-- What was written is sent, or cannot be, and a connection that is not open is taken down. One
that has broken a promise is given up as it is. Nobody waits for the socket if nothing was written. -/
def flush (s : Session σ) (canSend : Bool) (waits : Waits σ) : Turn σ :=
  let (out, connection) := s.connection.take
  let s := { s with connection }
  if s.panic.isSome then { isLast := true, session := s.abandon }
  else
    let s := if out.isEmpty then s else s.interruptAll waits.sending
    if !out.isEmpty && !canSend then s.lastTurn [] .remoteClose []
    else if s.connection.isOpen then { sent := out, isLast := false, session := s }
    else if s.isClosed then
      { sent := out, isLast := true, session := (s.interruptAll waits.shutting).finish }
    else s.lastTurn out .localClose waits.shutting

/-- One turn; `canSend` tells whether the client can be sent anything, and `waits` what others do
meanwhile. -/
def turn (s : Session σ) (canSend : Bool) (w : Wake) (waits : Waits σ := {}) : Turn σ :=
  match w with
  | .octets data => ((s.step (.data data)).step .run).flush canSend waits
  | .ended => s.lastTurn [] .remoteClose []
  | .tick => ((s.step .drainCheck).step .run).flush canSend waits
  | .work => (s.step .run).flush canSend waits

end Session

end RpcProxy
