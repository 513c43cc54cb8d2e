import RpcProxy.Plan
import RpcProxy.Pool.Source
import RpcProxy.Trace

/-!
# Streams

A stream is one request on its way: the request, the response that answers it, the chain of filters
with how far each message got, and what is known about it so far.

Requests pass the filters in order and responses pass them in reverse. Two cursors say which filter
is next, so that a stream which was stopped goes on behind the filter that stopped it. The route is
looked up once, before the first filter sees the request.
-/

set_option autoImplicit false

namespace RpcProxy

/-- What the router of a stream knows: the call and its exchange with a host. -/
structure Router where
  /-- The name of the cluster that the call goes to. -/
  cluster : String := ""
  line : Option RequestLine := none
  /-- Octets of the call that wait for a connection. -/
  pendingWrite : Bytes := []
  exchange : Option Exchange := none
  decoder : ReplyDecoder := {}

/-- What a filter keeps in mind while its stream lives. -/
inductive Memory where
  | nothing
  /-- The line for the access log, and when the stream began. -/
  | access (entry : AccessLog.Entry) (started : Instant)
  | router (router : Router)

/-- What a filter keeps in mind, with the line for the access log changed if there is one. -/
def Memory.amend (f : AccessLog.Entry → AccessLog.Entry) : Memory → Memory
  | .access entry started => .access (f entry) started
  | m => m

/-- A filter in the chain of a stream. -/
structure Slot where
  part : Part
  /-- What it keeps in mind. -/
  memory : Memory := .nothing

def Slot.start (id : StreamId) (clock : Clock) (part : Part) : Slot where
  part := part
  memory := match part.kind with
    | .plain _ => .nothing
    | .accessLog _ =>
      .access { timestamp := Civil.ofNanos clock.wall, stream := id } clock.monotonic
    | .router _ => .router {}

/-- A request on its way. -/
structure Stream where
  id : StreamId
  /-- The request, as filters have left it. -/
  request : Request
  /-- The response, as filters have left it. -/
  response : Option Response := none
  /-- How many responses it was given. -/
  answers : Nat := 0
  /-- The filters, in the order of the settings. -/
  slots : List Slot := []
  /-- How many filters the request has passed. -/
  decoded : Nat := 0
  /-- How many filters the response has passed. -/
  encoded : Nat := 0
  /-- The route, once it is looked up; there may be none. -/
  route : Option (Option Route) := none
  isReset : Bool := false
  isCompleted : Bool := false
  /-- Whether it is among the streams in flight. -/
  inserted : Bool := false
  /-- The span that is open for it: how it is traced, and whether it is recorded. -/
  span : Option (Config.Tracing × Bool) := none
  /-- What is known about it. -/
  info : StreamInfo

namespace Stream

/-- The places of the filters that requests pass, in their order. -/
def decoders (s : Stream) : List Nat :=
  (List.range s.slots.length).filter fun i => (s.slots[i]?).any (·.part.side.decodes)

/-- The places of the filters that responses pass, in their order. -/
def encoders (s : Stream) : List Nat :=
  ((List.range s.slots.length).filter fun i => (s.slots[i]?).any (·.part.side.encodes)).reverse

/-- Whether filters still run. -/
def isLive (s : Stream) : Bool := !s.isReset && !s.isCompleted

/-- Looks the route up, unless that was done. -/
def resolve (s : Stream) (routes : RouteTable) : Stream :=
  match s.route with
  | some _ => s
  | none =>
    let found := routes.find? s.request
    { s with route := some found, info := { s.info with route := (found.map (·.name)).or s.info.route } }

def route? (s : Stream) : Option Route := s.route.getD none

/-- Somebody asks for the route, which is then looked up unless that was done. It cannot be looked up
while a filter has the request in hand; the answer is then that there is none, and is not kept. -/
def askRoute (s : Stream) (routes : RouteTable) (inHand : Bool) : Option Route × Stream :=
  let s := if inHand then s else s.resolve routes
  (s.route?, s)

/-- What a filter sees. -/
def view (s : Stream) : StreamView := { id := s.id, route := s.route?, isReset := s.isReset }

/-- The stream with another response, which no filter has passed yet. -/
def setResponse (s : Stream) (r : Response) : Stream :=
  { s with response := some r, answers := s.answers + 1, encoded := 0 }

/-- The stream with what one filter keeps in mind changed. -/
def remember (s : Stream) (slot : Nat) (m : Memory) : Stream :=
  { s with slots := s.slots.modify slot fun x => { x with memory := m } }

/-- The stream with the line changed that one filter keeps for the access log. -/
def amend (s : Stream) (slot : Nat) (f : AccessLog.Entry → AccessLog.Entry) : Stream :=
  { s with slots := s.slots.modify slot fun x => { x with memory := x.memory.amend f } }

/-- The router at a place in the chain, while it is there. -/
def router? (s : Stream) (slot : Nat) : Option Router :=
  match s.slots[slot]? with
  | some ⟨_, .router r⟩ => some r
  | _ => none

def routers (s : Stream) : List Nat :=
  (List.range s.slots.length).filter fun i => (s.router? i).isSome

end Stream

end RpcProxy
