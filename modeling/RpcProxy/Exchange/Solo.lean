import RpcProxy.Pool.Scripted

/-!
# An exchange by itself

`ExchangeOp` lists everything that can be done with an exchange, and `Exchange.step` what follows.
A `Solo` is an exchange with one host of its own and connections that take notes, so that a run of
such steps can be watched.
-/

set_option autoImplicit false

namespace RpcProxy

inductive ExchangeOp where
  | start (answer : PoolAnswer)
  /-- The pool gives a connection. -/
  | ready (link : LinkId) (host : HostRef)
  /-- The pool gives none. -/
  | failure (reason : FailureReason) (host : Option HostRef)
  /-- A message is framed and written. -/
  | write (message : Bytes)
  /-- The whole request is written. -/
  | completeRequest
  | completeResponse
  /-- The time of the response is recorded. -/
  | charge
  /-- Octets arrive, perhaps the last ones. -/
  | data (octets : Bytes) (last : Bool)
  /-- Something happens to the connection. -/
  | event (event : ConnectionEvent)
  | fail (reason : FailureReason)
  /-- The connection is let go. -/
  | release (close : Bool)
  /-- It is given up. -/
  | reset
  | drop
deriving DecidableEq, Repr

inductive ExchangeAnswer where
  | nothing
  /-- Whether the stream goes on at once. -/
  | status (s : FilterStatus)
  /-- Whether the response is over, or the client's connection goes down. -/
  | flag (b : Bool)
  /-- How many octets were written. -/
  | size (n : Nat)
deriving DecidableEq, Repr

/-- Does something with an exchange; `shared` is the state that each connection has. -/
def Exchange.step {δ : Type} (dec : Decoding δ) (d : δ) (shared : LinkId → Option LinkState)
    (now : Instant) (e : Exchange) : ExchangeOp → Except Panic (ExchangeAnswer × δ × Step)
  | .start answer =>
    let state := match answer with
      | .ready link _ => shared link
      | _ => none
    let (status, t) := e.start answer state now
    .ok (.status status, d, t)
  | .ready link host => .ok (.nothing, d, e.poolReady link host (shared link))
  | .failure reason host => .ok (.nothing, d, e.poolFailure reason host now)
  | .write message => let (n, t) := e.write message; .ok (.size n, d, t)
  | .completeRequest => .ok (.nothing, d, { exchange := e.completeRequest now })
  | .completeResponse => .ok (.nothing, d, e.completeResponse now)
  | .charge => .ok (.nothing, d, e.charge now)
  | .data octets last =>
    (e.onData dec d octets last now).map fun (isOver, d, t) => (.flag isOver, d, t)
  | .event event => (e.onEvent event now).map fun t => (.nothing, d, t)
  | .fail reason => let (closes, t) := e.fail reason now; .ok (.flag closes, d, t)
  | .release close => .ok (.nothing, d, e.releaseLink close)
  | .reset => .ok (.nothing, d, e.reset)
  | .drop => .ok (.nothing, d, e.drop)

/-- What can be watched of an exchange. -/
inductive SoloNote where
  | effect (e : Effect)
  /-- Its pool told something. -/
  | pool (n : PoolNote)
deriving DecidableEq, Repr

/-- An exchange with what it works on. -/
structure Solo where
  exchange : Exchange
  side : HostSide ScriptedPools
  decoder : ReplyDecoder := {}
  now : Instant := 0
  /-- Octets written for the call, as far as the exchange itself counts them. -/
  size : Nat := 0
  /-- What was seen, the latest first. -/
  log : List SoloNote := []

namespace Solo

def host (cluster : String) : HostRef := { cluster, address := "h:1" }

def start (e : Exchange) (detection : Config.OutlierDetection) : Solo :=
  let h := host e.cluster
  let cluster : Cluster :=
    { config := { name := h.cluster, hosts := [h.address] }
      hosts := [{ address := h.address, cluster := h.cluster, detector := { settings := detection } }] }
  { exchange := e, side := { generations := [⟨[cluster]⟩], pools := {} } }

/-- Carries out an effect. -/
def effect (s : Solo) (e : Effect) : Solo :=
  let (notes, side) := s.side.apply ScriptedPools.source { stream := 0 } s.now e
  let log := .effect e :: (notes.map SoloNote.pool).reverse ++ s.log
  { s with side, log, size := match e with
    | .addSize n => s.size + n
    | _ => s.size }

def step (s : Solo) (dec : Exchange.Decoding ReplyDecoder) (op : ExchangeOp) :
    Except Panic (ExchangeAnswer × Solo) := do
  let shared (link : LinkId) := ScriptedPools.source.state? link s.side.pools
  let (answer, decoder, t) ← s.exchange.step dec s.decoder shared s.now op
  return (answer, t.effects.foldl effect { s with exchange := t.exchange, decoder })

/-- The host as it is seen now. -/
def look (s : Solo) : Host × Solo :=
  let h := host s.exchange.cluster
  let s := { s with side := s.side.modifyHost h fun x => { x with detector := x.detector.look s.now } }
  ((s.side.host? h).getD default, s)

end Solo

end RpcProxy
