import RpcProxy.Session.Routing

/-!
# The life of a stream

From the decoded request to the end. Every stream ends once, in one of three ways: a reply is
written, it is reset, or it is completed without a reply. Whichever comes first marks the stream as
completed; what is asked of it afterwards finds the mark and does nothing.
-/

set_option autoImplicit false

namespace RpcProxy.Session

variable {σ : Type}

/-! ## Ending -/

/-- Logs and posts what a filter does besides. -/
def afterFilter (s : Session σ) (a : Asides) : Session σ :=
  a.tasks.foldl post (a.notes.foldl (fun s n => s.note (.note n)) s)

/-- A filter is told that its stream is over. -/
def destroySlot (s : Session σ) (x : Stream) (slot : Nat) : Session σ :=
  match x.slots[slot]? with
  | none => s
  | some ⟨⟨side, .plain b⟩, _⟩ =>
    s.afterFilter (b.atEnd side x.id)
  | some ⟨⟨_, .accessLog sink⟩, .access entry started⟩ =>
    let entry := { entry with millis := (s.now - started) / milli, localReply := x.info.localReply }
    s.note (.access sink.file (entry.line sink.format))
  | some ⟨⟨_, .accessLog _⟩, _⟩ => s
  | some ⟨⟨_, .router _⟩, _⟩ => s.destroyRouter (s.refTo x.id slot)

/-- The filters of a stream are told that it is over, those that requests pass first. -/
def destroySlots (s : Session σ) (x : Stream) : Session σ :=
  let rest := x.encoders.filter fun i => !(x.slots[i]?).any (·.part.side.decodes)
  (x.decoders ++ rest).foldl (fun s i => s.destroySlot x i) s

/-- The time and the status of a stream that is over are counted, and its span ends. -/
def recordEnd (s : Session σ) (x : Stream) : Session σ :=
  let info := x.info.complete s.now
  let s := s.measure fun m =>
    { m with
      duration := m.duration.observe (secondsOf (info.duration.getD 0))
      byStatus := match info.status with
        | some code => m.byStatus.inc code.name
        | none => m.byStatus }
  match x.span with
  | some (tracing, recorded) =>
    s.note (.spanEnd recorded (finalizeSpan tracing (some x.request) info))
  | none => s

/-- The stream is over: that is recorded, and its filters are told. Only the first time counts. -/
def completeStream (s : Session σ) (id : StreamId) : Session σ :=
  match s.stream? id with
  | none => s
  | some x =>
    if x.isCompleted then s
    else
      let s := s.recordEnd x
      let s := s.modifyStream id fun x =>
        { x with isCompleted := true, info := x.info.complete s.now, span := none }
      s.destroySlots x

/-- A connection with no stream in flight is closed if the process is about to stop. -/
def closeIfDrained (s : Session σ) : Session σ :=
  if s.draining && s.active.isEmpty && s.connection.isOpen then
    { s.measure (fun m => { m with drainCloses := m.drainCloses.inc }) with
      connection := s.connection.close .flush }
  else s

/-- The stream is over and leaves the streams in flight; it is dropped once no task is left. -/
def finishStream (s : Session σ) (id : StreamId) : Session σ :=
  let s := s.completeStream id
  match s.stream? id with
  | none => s
  | some x =>
    if !x.inserted then s
    else
      let s := s.modifyStream id fun x => { x with inserted := false }
      let s := if s.active.contains id then
          { s.measure (fun m => { m with activeRequests := m.activeRequests.dec }) with
            active := s.active.erase id
            queue := s.queue.defer id }
        else s
      s.closeIfDrained

/-- Something went wrong with the stream. -/
def resetStream (s : Session σ) (id : StreamId) : Session σ :=
  match s.stream? id with
  | none => s
  | some x =>
    if x.isReset then s
    else
      let s := s.modifyStream id fun x => { x with isReset := true }
      let s := if x.isCompleted then s
        else s.measure fun m => { m with resets := m.resets.inc }
      if s.isServed then s.finishStream id else s

def resetAll (s : Session σ) : Session σ := s.active.foldl resetStream s

/-! ## The connection -/

/-- Something has happened to the client's connection. -/
def onConnectionEvent (s : Session σ) (e : ConnectionEvent) : Session σ :=
  match e with
  | .remoteClose | .localClose => { s with isClosed := true }.resetAll
  | .connected | .connectedZeroRtt => s

/-- Closes the client's connection with all its streams. -/
def closeConnection (s : Session σ) (how : CloseType) : Session σ :=
  if s.isClosed then s
  else { s with connection := s.connection.close how }.onConnectionEvent .localClose

/-- Writes to the client; a connection that is closed by this, or was, is noticed later. -/
def writeToClient (s : Session σ) (data : Bytes) (last : Bool) : Session σ :=
  let s := { s with connection := s.connection.write data last }
  if !s.connection.isOpen && !s.isClosed then s.post .closed else s

/-! ## Requests on their way -/

/-- A request meets one filter. -/
def decodeOne (s : Session σ) (x : Stream) (slot : Nat) : FilterStatus × Session σ :=
  match x.slots[slot]? with
  | none => (.continue, s)
  | some ⟨⟨_, .plain b⟩, _⟩ =>
    let v := b.onRequest x.view x.request
    (v.status, (s.modifyStream x.id fun x => { x with request := v.message }).afterFilter v.toAsides)
  | some ⟨⟨_, .accessLog _⟩, _⟩ =>
    let fill (entry : AccessLog.Entry) : AccessLog.Entry :=
      { entry with
        protocol := Wire.protocol, service := x.request.service, method := x.request.method
        path := x.request.path }
    (.continue, s.modifyStream x.id (·.amend slot fill))
  | some ⟨⟨_, .router generation⟩, _⟩ => s.route (s.refTo x.id slot) generation x.route? x.request

/-- A request meets filters until one of them stops it. -/
def decodeThrough (s : Session σ) (id : StreamId) : List Nat → Session σ
  | [] => s
  | slot :: rest =>
    let s := s.modifyStream id fun x => { x with decoded := x.decoded + 1 }
    match s.stream? id with
    | none => s
    | some x =>
      match s.decodeOne x slot with
      | (.continue, s) => s.decodeThrough id rest
      | (.stop, s) => s

/-- The request goes on behind the filter that stopped it. -/
def continueDecoding (s : Session σ) (id : StreamId) : Session σ :=
  match s.stream? id with
  | none => s
  | some x =>
    if !x.isLive then s
    else
      (s.modifyStream id (·.resolve s.plan.routes)).decodeThrough id (x.decoders.drop x.decoded)

/-- Somebody asks for the route of a stream, when no filter has its request in hand. A stream that is
gone has none. -/
def askRoute (s : Session σ) (id : StreamId) : Option Route × Session σ :=
  ((s.stream? id).bind fun x => (x.askRoute s.plan.routes false).1,
    s.modifyStream id fun x => (x.askRoute s.plan.routes false).2)

/-! ## Responses on their way -/

/-- A response meets one filter. -/
def encodeOne (s : Session σ) (x : Stream) (r : Response) (slot : Nat) :
    FilterStatus × Session σ :=
  match x.slots[slot]? with
  | some ⟨⟨_, .plain b⟩, _⟩ =>
    let v := b.onResponse x.view x.answers r
    (v.status,
      (s.modifyStream x.id fun x => { x with response := some v.message }).afterFilter v.toAsides)
  | some ⟨⟨_, .accessLog _⟩, _⟩ =>
    let fill (entry : AccessLog.Entry) : AccessLog.Entry :=
      { entry with status := r.status.code.name }
    (.continue, s.modifyStream x.id (·.amend slot fill))
  | _ => (.continue, s)

/-- Writes the reply and ends the stream. -/
def sendReply (s : Session σ) (id : StreamId) : Session σ :=
  match s.stream? id with
  | none => s
  | some x =>
    match x.response with
    | none => s
    | some r =>
      if !s.isServed then s
      else
        let s := s.modifyStream id fun x =>
          { x with info := { x.info with status := some r.status.code } }
        (s.writeToClient r.encode r.asksToClose).finishStream id

/-- A response meets filters until one of them stops it; behind the last one it is written. -/
def encodeThrough (s : Session σ) (id : StreamId) : List Nat → Session σ
  | [] => s.sendReply id
  | slot :: rest =>
    let s := s.modifyStream id fun x => { x with encoded := x.encoded + 1 }
    match s.stream? id with
    | none => s
    | some x =>
      match x.response with
      | none => s
      | some r =>
        match s.encodeOne x r slot with
        | (.continue, s) => s.encodeThrough id rest
        | (.stop, s) => s

/-- The response goes on behind the filter that stopped it. -/
def continueEncoding (s : Session σ) (id : StreamId) : Session σ :=
  match s.stream? id with
  | none => s
  | some x =>
    if !x.isLive || x.response.isNone then s
    else s.encodeThrough id (x.encoders.drop x.encoded)

def respond (s : Session σ) (id : StreamId) (r : Response) : Session σ :=
  match s.stream? id with
  | none => s
  | some x =>
    if !x.isLive then s else (s.modifyStream id (·.setResponse r)).continueEncoding id

/-- The proxy itself answers. -/
def localReply (s : Session σ) (id : StreamId) (status : Status)
    (update : Change) : Session σ :=
  match s.stream? id with
  | none => s
  | some x =>
    if !x.isLive || !s.isServed then s
    else if !s.plan.codec.createsReplies then s.stop .noMessageCreator
    else
      let r := (Response.answering status x.request).change update
      let s := s.measure fun m => { m with localReplies := m.localReplies.inc }
      let s := s.modifyStream id fun x => { x with info := { x.info with localReply := true } }
      (s.modifyStream id (·.setResponse r)).continueEncoding id

/-! ## Beginning -/

/-- What is known about a stream that begins, and the span that is opened for it. -/
def openSpan (s : Session σ) (request : Request) :
    StreamInfo × Option (Config.Tracing × Bool) × Session σ :=
  let info : StreamInfo := { started := s.now }
  match s.plan.tracing with
  | none => (info, none, s)
  | some t =>
    let d := TraceDecision.decide t s.flags s.roll
    let info := if d.traced then { info with traceReason := some d.reason } else info
    (info, some (t, d.traced), s.note (.spanStart t request d info.traceReason))

/-- A stream is among those in flight. -/
def insertStream (s : Session σ) (x : Stream) : Session σ :=
  let s := s.measure fun m =>
    { m with requests := m.requests.inc, activeRequests := m.activeRequests.inc }
  { s with active := s.active ++ [x.id], streams := s.streams ++ [x] }

/-- A request was decoded: a stream for it begins, unless the numbers for streams are used up. A
filter that notes the time needs a clock that has reached 1970; without it the stream gets no
filters. -/
def beginStream (s : Session σ) (request : Request) : Session σ :=
  let id := s.nextId
  if id + 1 ≥ UInt64.size then s.stop .numbersUsedUp
  else
    let (info, span, s) := { s with nextId := id + 1 }.openSpan request
    let stuck := s.clock.wall < 0 && s.plan.parts.any (·.stamps)
    let slots := if stuck then [] else s.plan.parts.map (Slot.start id s.clock)
    let s := s.insertStream { id, request, slots, info, span, inserted := true }
    if stuck then s.stop (.clockBeforeEpoch s.clock.wall.natAbs) else s.continueDecoding id

/-- What was decoded from the client's octets is taken up, unless a promise was broken before. -/
def onWireEvent (s : Session σ) (e : Wire.Event) : Session σ :=
  if s.panic.isSome then s
  else
    match e with
    | .request r => s.beginStream r
    | .failure =>
      let s := s.measure fun m => { m with decodingErrors := m.decodingErrors.inc }
      let s := s.resetAll
      { s with connection := s.connection.close .flush }

/-- Octets of the client have come. A connection that is known to be closed only keeps them. -/
def onClientData (s : Session σ) (data : Bytes) : Session σ :=
  let buffer := s.buffer ++ data
  if s.isClosed then { s with buffer }
  else
    let (events, left) := Wire.decode buffer
    events.foldl onWireEvent { s with buffer := left }

end RpcProxy.Session
