import RpcProxy.Downstream
import RpcProxy.Exchange.Failure
import RpcProxy.Exchange.ReplyDecoder
import RpcProxy.Metrics.Router
import RpcProxy.Panic

/-!
# One exchange with a host

An `Exchange` takes one routed call from asking a pool for a connection to the end of the response.
It owns nothing but its own notes: what it does to connections, hosts, counters and to the stream
that it works for is listed as `Effect`s, in order, for others to carry out.

The life of an exchange: it waits for the pool, perhaps upgrades the connection, starts the request,
sees the response begin and complete, and can fail at any point.
-/

set_option autoImplicit false

namespace RpcProxy

open Config (Transport)

/-- A connection of a pool. -/
abbrev LinkId := Nat

/-- A request for a connection that the pool has not answered yet. -/
abbrev HandleId := Nat

/-- What becomes of a connection that arrives for nobody. -/
inductive CancelPolicy where
  /-- It is kept for the next request. -/
  | keep
  | closeExcess
deriving DecidableEq, Repr, Inhabited

def CancelPolicy.name : CancelPolicy → String
  | keep => "Default"
  | closeExcess => "CloseExcess"

/-- The answer of a pool that was asked for a connection. -/
inductive PoolAnswer where
  /-- The connection will come later. -/
  | pending (handle : HandleId)
  | ready (link : LinkId) (host : HostRef)
  /-- There is none. -/
  | failure (reason : FailureReason) (host : Option HostRef)
deriving DecidableEq, Repr

/-- A description of an answer for people, hosts being described by `host`. -/
def PoolAnswer.describe (host : HostRef → String) : PoolAnswer → String
  | pending _ => "Pending"
  | ready _ h => "Ready \x7b host: " ++ host h ++ " \x7d"
  | failure reason h =>
    "Failure \x7b reason: " ++ reason.name ++ ", host: " ++
      (match h with
      | some h => "Some(" ++ host h ++ ")"
      | none => "None") ++ " \x7d"

/-- Whether the next filter runs. -/
inductive FilterStatus where
  | continue
  | stop
deriving DecidableEq, Repr, Inhabited

def FilterStatus.name : FilterStatus → String
  | .continue => "continue"
  | .stop => "stop"

/-- Something that is done to a connection or to a request for one. -/
inductive LinkCommand where
  /-- Octets and events of a connection come to this exchange from now on. -/
  | attach (link : LinkId)
  /-- A connection gets its state. -/
  | initState (link : LinkId) (state : LinkState)
  /-- The state of a connection moves on. -/
  | updateState (link : LinkId) (state : LinkState)
  /-- Octets are written to a connection. -/
  | write (link : LinkId) (data : Bytes)
  /-- A connection is closed. -/
  | close (link : LinkId) (how : CloseType)
  /-- A connection is given back. -/
  | release (link : LinkId)
  /-- A request for a connection is taken back. -/
  | cancel (handle : HandleId) (policy : CancelPolicy)
deriving DecidableEq, Repr

/-- Something that an exchange does. -/
inductive Effect where
  | report (host : HostRef) (result : HostResult)
  /-- One more request holds a connection to a host. -/
  | hold (host : HostRef)
  | unhold (host : HostRef)
  /-- Something is done to a connection. -/
  | link (command : LinkCommand)
  | count (event : RouterEvent)
  /-- The call is about to be written in a protocol. -/
  | startCall (protocol : String)
  | beginCall (envelope : Envelope)
  /-- A response is about to be read. -/
  | startResponse (transport : Transport) (protocol : String)
  /-- The stream that was stopped for this exchange may go on. -/
  | resume
  /-- The client gets an error reply, its connection being closed behind it or not. -/
  | localReply (exception : AppException) (close : Bool)
  /-- The client's connection goes down. -/
  | resetConnection
  /-- The host went away behind the call. -/
  | resetStream
  /-- Octets were written for the call. -/
  | addSize (octets : Nat)
deriving DecidableEq, Repr

structure Exchange where
  /-- The name of the cluster, for counters. -/
  cluster : String
  /-- How messages are framed. -/
  transport : Transport
  protocol : Protocol
  /-- Whether the client's connection is closed behind an error reply. -/
  closeOnError : Bool
  /-- What is said about the call. -/
  envelope : Envelope := {}
  /-- The request to the pool that is not answered yet. -/
  pending : Option HandleId := none
  link : Option LinkId := none
  linkState : Option LinkState := none
  /-- The upgrade that is under way, with what has come back for it. -/
  upgrading : Option (Upgrade × Bytes) := none
  host : Option HostRef := none
  /-- The whole request is written. -/
  requestComplete : Bool := false
  responseStarted : Bool := false
  responseComplete : Bool := false
  /-- The host asked to leave the connection. -/
  draining : Bool := false
  /-- The response ended too early. -/
  underflow : Bool := false
  /-- The time of the response is recorded. -/
  timed : Bool := false
  /-- Octets of the response so far. -/
  responseSize : Nat := 0
  /-- When the whole request was written. -/
  requestCompleteAt : Option Instant := none

/-- An exchange after a step, with what the step did. -/
structure Exchange.Step where
  exchange : Exchange
  effects : List Effect := []

namespace Exchange

def Step.andThen (s : Step) (f : Exchange → Step) : Step :=
  let t := f s.exchange
  { exchange := t.exchange, effects := s.effects ++ t.effects }

def emit (effects : List Effect) (e : Exchange) : Step := { exchange := e, effects }

/-- The label of the host in counters, or of the cluster before there is a host. -/
def label (e : Exchange) : String := (e.host.map HostRef.label).getD e.cluster

/-- An outcome is reported for the host, if there is one. -/
def report (e : Exchange) (r : HostResult) : List Effect :=
  (e.host.map fun h => [Effect.report h r]).getD []

/-! ## Letting go -/

/-- Gives the connection back, closing it before if asked. -/
def dropLink (how : Option CloseType) (e : Exchange) : Step :=
  match e.link with
  | none => { exchange := { e with linkState := none } }
  | some link =>
    { exchange := { e with link := none, linkState := none }
      effects := (e.host.map fun h => [Effect.unhold h]).getD [] ++
        (how.map fun t => [Effect.link (.close link t)]).getD [] ++ [.link (.release link)] }

/-- Takes the request to the pool back. -/
def dropHandle (e : Exchange) : Step :=
  match e.pending with
  | none => { exchange := e }
  | some handle => { exchange := { e with pending := none }, effects := [.link (.cancel handle .keep)] }

/-- Lets go of the pool and of the connection, closing it if asked. -/
def releaseLink (close : Bool) (e : Exchange) : Step :=
  e.dropHandle.andThen (dropLink (if close then some .noFlush else none))

/-- Gives up: the connection is closed. -/
def reset (e : Exchange) : Step := e.releaseLink true

def drop (e : Exchange) : Step := e.releaseLink false

/-! ## The response -/

/-- Records the time of the response, once, if the whole request was written. -/
def charge (now : Instant) (e : Exchange) : Step :=
  if e.timed || !e.requestComplete then { exchange := e }
  else
    { exchange := { e with timed := true }
      effects := (e.requestCompleteAt.map fun t =>
        [Effect.count (.responseTime e.label ((now - t) / milli))]).getD [] }

/-- The response is complete: the connection goes back. -/
def completeResponse (now : Instant) (e : Exchange) : Step :=
  ((e.charge now).andThen fun e => { exchange := { e with responseComplete := true } }).andThen
    (dropLink none)

/-- How far the response got. -/
def progress (e : Exchange) : ResponseProgress :=
  { started := e.responseStarted, complete := e.responseComplete, draining := e.draining,
    underflow := e.underflow }

/-- What a failure means for the client. -/
def failureDecision (reason : FailureReason) (e : Exchange) : ResetDecision :=
  ResetDecision.decide reason e.progress e.closeOnError

def failureEffects (reason : FailureReason) (e : Exchange) : List Effect :=
  let d := e.failureDecision reason
  (d.hostResult.map e.report).getD [] ++
    match d.action with
    | .localReply close =>
      [.count (.localException e.cluster),
        .localReply ⟨.internalError, reason.replyMessage e.host⟩ close]
    | .resetConnection => [.resetConnection]
    | .nothing => []

/-- Something failed. Answers whether the client's connection goes down. -/
def fail (reason : FailureReason) (now : Instant) (e : Exchange) : Bool × Step :=
  let s := e.charge now
  ((s.exchange.failureDecision reason).closesClient,
    s.andThen fun e => e.emit (e.failureEffects reason))

/-! ## The request -/

/-- Begins the call: it gets the next number of its connection. -/
def startCall (resume : Bool) (e : Exchange) : Step :=
  let (e, effects) := match e.link, e.linkState with
    | some link, some state =>
      let (n, state) := state.take
      ({ e with envelope := { e.envelope with sequence := some n }, linkState := some state },
        [Effect.link (.updateState link state)])
    | _, _ => (e, [])
  { exchange := e
    effects := [.startCall e.protocol.name] ++ effects ++ [.beginCall e.envelope] ++
      (if resume then [.resume] else []) }

/-- The pool gives a connection, `shared` being the state that it already has. -/
def poolReady (link : LinkId) (host : HostRef) (shared : Option LinkState) (e : Exchange) : Step :=
  let resume := e.pending.isSome
  let state := shared.getD {}
  let taken : Step :=
    { exchange := { e with host := some host, pending := none, link := some link,
                           linkState := some state }
      effects := [.report host .connectSuccess, .hold host, .link (.attach link)] ++
        (if shared.isNone then [.link (.initState link state)] else []) ++
        (e.link.map fun old => [Effect.link (.release old)]).getD [] }
  match e.protocol.attempt state with
  | some (upgrade, state) =>
    taken.andThen fun e =>
      { exchange := { e with linkState := some state, upgrading := some (upgrade, []) }
        effects := [.link (.updateState link state), .addSize upgrade.request.length,
          .link (.write link upgrade.request)] }
  | none => taken.andThen (startCall resume)

/-- The pool gives no connection. -/
def poolFailure (reason : FailureReason) (host : Option HostRef) (now : Instant) (e : Exchange) :
    Step :=
  let (closes, s) := { e with pending := none, host }.fail reason now
  s.andThen fun e => e.emit (if closes then [] else [.resume])

/-- Asks the pool, whose answer is given with the state of its connection. -/
def start (answer : PoolAnswer) (shared : Option LinkState) (now : Instant) (e : Exchange) :
    FilterStatus × Step :=
  let settled (s : Step) : FilterStatus × Step :=
    (if s.exchange.upgrading.isSome || s.exchange.host.isNone then .stop else .continue, s)
  match answer with
  | .pending handle => (.stop, { exchange := { e with pending := some handle } })
  | .ready link host => settled (e.poolReady link host shared)
  | .failure reason host => settled (e.poolFailure reason host now)

/-- Frames a message and writes it to the connection. Answers the number of octets. -/
def write (message : Bytes) (e : Exchange) : Nat × Step :=
  let frame := e.transport.frame message
  (frame.length,
    { exchange := { e with envelope := { e.envelope with protocol := some e.protocol.kind } }
      effects := (e.link.map fun link => [Effect.link (.write link frame)]).getD [] })

/-- The whole request is written. -/
def completeRequest (now : Instant) (e : Exchange) : Exchange :=
  { e with requestComplete := true, requestCompleteAt := some now }

/-! ## Octets and events -/

/-- How replies are read: a decoder is started, takes octets, and shows what it made of them. -/
structure Decoding (δ : Type) where
  start : Transport → Config.Protocol → δ → δ
  /-- Takes octets. -/
  feed : Bytes → δ → ReplyStatus × δ
  /-- What the reply says about itself. -/
  envelope : δ → Envelope
  /-- Whether the reply tells of success. -/
  success : δ → Bool

/-- Replies that are response lines. -/
def lineReplies : Decoding ReplyDecoder where
  start transport protocol _ := .start transport protocol
  feed data d := d.feed data
  envelope d := d.envelope
  success d := d.success

/-- What a whole reply says about the host. -/
def replyEffects (e : Exchange) (kind : Option MessageType) (success : Bool) : List Effect :=
  match kind with
  | some .reply =>
    if success then e.report .requestSuccess ++ [.count (.replySuccess e.label)]
    else e.report .requestFailed ++ [.count (.replyError e.label)]
  | some .exception => e.report .requestFailed ++ [.count (.exception e.label)]
  | _ => [.count (.invalidType e.label)]

/-- The decoder has come to something. -/
def onReply (status : ReplyStatus) (kind : Option MessageType) (success draining : Bool)
    (now : Instant) (e : Exchange) : Step :=
  match status with
  | .moreData => { exchange := e }
  | .complete =>
    let s := e.emit ([.count (.responseSize e.cluster e.responseSize)] ++ e.replyEffects kind success)
    let s := if draining then
        s.andThen fun e =>
          Step.andThen { exchange := { e with draining := true }, effects := [.count (.drainClose e.cluster)] }
            reset
      else s
    s.andThen (completeResponse now)
  | .reset =>
    (e.emit (e.report .requestFailed ++ [.count (.decodingError e.label)])).andThen reset

/-- Octets of an upgrade that is under way. -/
def onUpgradeData (upgrade : Upgrade) (sofar data : Bytes) (e : Exchange) : Step :=
  let received := sofar ++ data
  if upgrade.isAnswer received then
    let state := e.linkState.map fun s => { s with upgraded := true }
    let effects := match e.link, state with
      | some link, some s => [Effect.link (.updateState link s)]
      | _, _ => []
    Step.andThen { exchange := { e with upgrading := none, linkState := state }, effects }
      (startCall true)
  else { exchange := { e with upgrading := some (upgrade, received) } }

def onResponseData {δ : Type} (dec : Decoding δ) (d : δ) (data : Bytes) (now : Instant)
    (e : Exchange) : ReplyStatus × δ × Step :=
  let first := !e.responseStarted
  let d := if first then dec.start e.transport e.protocol.kind d else d
  let (status, d) := dec.feed data d
  let s : Step :=
    { exchange := { e with responseStarted := true }
      effects := if first then [.startResponse e.transport e.protocol.name] else [] }
  (status, d, s.andThen
    (onReply status (dec.envelope d).kind (dec.success d) (dec.envelope d).draining now))

/-- The connection ended in the middle of a response. -/
def onUnderflow (now : Instant) (e : Exchange) : Step :=
  (e.completeResponse now).andThen fun e =>
    ({ e with underflow := true }.fail .remoteFailure now).2

/-- Octets arrive, perhaps the last ones. Answers whether the response is over. -/
def onData {δ : Type} (dec : Decoding δ) (d : δ) (data : Bytes) (last : Bool) (now : Instant)
    (e : Exchange) : Except Panic (Bool × δ × Step) :=
  if e.responseComplete then .error .dataAfterResponse
  else
    let e := { e with responseSize := e.responseSize + data.length }
    let (status, d, s) : ReplyStatus × δ × Step := match e.upgrading with
      | some (upgrade, sofar) => (.moreData, d, e.onUpgradeData upgrade sofar data)
      | none => e.onResponseData dec d data now
    if status ≠ .moreData then .ok (true, d, s)
    else if last then .ok (true, d, s.andThen (onUnderflow now))
    else .ok (false, d, s)

/-- Something happens to the connection. -/
def onEvent (event : ConnectionEvent) (now : Instant) (e : Exchange) : Except Panic Step :=
  if e.responseComplete then .error .eventAfterResponse
  else
    let closed (reason : FailureReason) : Step :=
      let (closes, s) := e.fail reason now
      (s.andThen (releaseLink false)).andThen fun e =>
        e.emit (if !closes && e.requestComplete then [.resetStream] else [])
    match event with
    | .remoteClose => .ok (closed .remoteFailure)
    | .localClose => .ok (closed .localFailure)
    | .connected | .connectedZeroRtt => .error .connectEvent

end Exchange

end RpcProxy
