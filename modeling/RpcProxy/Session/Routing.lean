import RpcProxy.Session.Basic

/-!
# Routing

What the router of a stream does: it picks a host for the call, asks its pool for a connection, and
takes the exchange with the host from there to a reply. Whatever a pool tells it is posted first, so
an exchange is never entered while it is at work.

A router asks for things of its stream in four ways: the reply of the host, an error reply, the end
of the stream and the end of the client's connection. All four are tasks too.
-/

set_option autoImplicit false

namespace RpcProxy

/-- The property that asks for the connection to be closed behind a reply. -/
def closingProperty : String × String := ("connection", "close")

namespace Session

variable {σ : Type}

/-- A router asks something of its stream. -/
def askBy (s : Session σ) (ref : RouterRef) (op : StreamOp) : Session σ :=
  s.post (.router ref (.ask op))

/-- Carries out an effect of a router's exchange. -/
def effect (ref : RouterRef) (s : Session σ) (e : Effect) : Session σ :=
  let (notes, side) := s.side.apply s.source ref s.now e
  let s := notes.foldl (fun s n => s.note (.pool n)) { s with side }
  match e with
  | .startCall _ => s.modifyRouter ref fun r => { r with pendingWrite := [] }
  | .beginCall envelope =>
    s.modifyRouter ref fun r =>
      { r with pendingWrite := r.pendingWrite ++
          (r.line.map (·.encode envelope.sequence)).getD [] }
  | .resume => s.post (.router ref .write)
  | .localReply exception close =>
    s.askBy ref (.localReply { code := .internal, message := exception.message }
      (if close then [closingProperty] else .nothing))
  | .resetConnection => s.askBy ref .resetConnection
  | .resetStream => s.askBy ref .reset
  | .addSize n => s.count (.requestSize (((s.router? ref).map (·.cluster)).getD "") n)
  | _ => s

def takeStep (s : Session σ) (ref : RouterRef) (t : Exchange.Step) : Session σ :=
  t.effects.foldl (effect ref)
    (s.modifyRouter ref fun r => { r with exchange := some t.exchange })

/-- Gives a connection back that arrived for a router which is gone. -/
def giveBack (s : Session σ) (ref : RouterRef) (link : LinkId) : Session σ :=
  s.effect ref (.link (.release link))

/-! ## The call -/

/-- Writes the call, once there is a connection and unless it was written. -/
def writeCall (s : Session σ) (ref : RouterRef) : Session σ :=
  match s.router? ref with
  | none => s
  | some r =>
    match r.exchange with
    | none => s
    | some e =>
      if e.link.isNone || e.requestComplete then s
      else
        let (n, t) := e.write r.pendingWrite
        let s := (s.setRouter ref { r with pendingWrite := [] }).takeStep ref t
        let s := s.effect ref (.addSize n)
        s.modifyRouter ref fun r =>
          { r with exchange := r.exchange.map (·.completeRequest s.now) }

/-- Answers a request whose call cannot be made. -/
def refuse (s : Session σ) (ref : RouterRef) (event : RouterEvent) (status : Status) : Session σ :=
  (s.count event).askBy ref (.localReply status .nothing)

def exchangeFor (cluster : Config.Cluster) (method : String) : Exchange :=
  { cluster := cluster.name
    transport := cluster.transport
    protocol := .ofConfig cluster.protocol
    closeOnError := cluster.closeDownstreamOnError
    envelope := { method := some method, kind := some .call } }

/-- Asks the pool of a host for a connection and takes the answer up. Tells whether the call can be
written at once. -/
def engage (s : Session σ) (ref : RouterRef) (cluster : Config.Cluster) (host : HostRef)
    (request : Request) : FilterStatus × Session σ :=
  let (answer, side) := s.side.ask s.source cluster host ref
  let s := { s with side }
  let e := exchangeFor cluster request.method
  let s := s.modifyRouter ref fun r =>
    { r with cluster := cluster.name, line := some (.ofRequest request), exchange := some e }
  let (status, t) := e.start answer (s.side.answerState s.source answer) s.now
  (status, s.takeStep ref t)

def startExchange (s : Session σ) (ref : RouterRef) (cluster : Config.Cluster) (host : HostRef)
    (request : Request) : Session σ :=
  match s.engage ref cluster host request with
  | (.continue, s) => s.writeCall ref
  | (.stop, s) => s

/-- A request reaches its router. -/
def route (s : Session σ) (ref : RouterRef) (generation : Nat) (found : Option Route)
    (request : Request) : FilterStatus × Session σ :=
  match found with
  | none => (.stop, s.refuse ref (.routeMissing request.service) (noRoute request))
  | some route =>
    match route.cluster with
    | none => (.continue, s)
    | some name =>
      let (choice, clusters) := (s.side.clusters generation).choose generation name s.now
      let s := { s with side := { s.side with
        generations := s.side.generations.modify generation fun _ => clusters } }
      match choice with
      | .ok (cluster, host) => (.stop, s.startExchange ref cluster.config host request)
      | .error e@(.unknownCluster _) =>
        (.stop, s.refuse ref (.unknownCluster name) { code := .internal, message := e.message })
      | .error e =>
        (.stop, s.refuse ref (.noHealthyHost name) { code := .unavailable, message := e.message })

/-! ## The reply -/

/-- The reply that a router's decoder has read goes to the stream. -/
def forwardReply (s : Session σ) (ref : RouterRef) : Session σ :=
  match s.router? ref with
  | none => s
  | some r =>
    let (response, decoder) := r.decoder.take
    let s := s.setRouter ref { r with decoder }
    match decoder.error, response with
    | some e, _ => s.effect ref (.localReply ⟨.protocolError, e.message⟩ true)
    | none, none => s
    | none, some response =>
      let response := match r.line.bind (·.get? idKey) with
        | some id => response.set idKey id
        | none => response
      s.askBy ref (.respond response)

/-- Octets of a host have come. -/
def onHostData (s : Session σ) (ref : RouterRef) (r : Router) (e : Exchange) (data : Bytes) :
    Session σ :=
  if e.link.isNone || e.responseComplete then s
  else
    match e.onData Exchange.lineReplies r.decoder data false s.now with
    | .error p => s.stop p
    | .ok (isOver, decoder, t) =>
      let s := (s.setRouter ref { r with decoder }).takeStep ref t
      if isOver then s.forwardReply ref else s

/-- Something has happened to the connection to a host. -/
def onHostEvent (s : Session σ) (ref : RouterRef) (e : Exchange) (event : ConnectionEvent) :
    Session σ :=
  if e.link.isNone || e.responseComplete then s
  else
    match e.onEvent event s.now with
    | .error p => s.stop p
    | .ok t => s.takeStep ref t

/-- A router is told something by its pool. -/
def onDelivery (s : Session σ) (ref : RouterRef) (d : Delivery) : Session σ :=
  match (s.router? ref).bind fun r => r.exchange.map (r, ·) with
  | none =>
    match d with
    | .ready link _ => s.giveBack ref link
    | _ => s
  | some (r, e) =>
    match d with
    | .ready link host => s.takeStep ref (e.poolReady link host (s.source.state? link s.side.pools))
    | .failure reason host => s.takeStep ref (e.poolFailure reason host s.now)
    | .data octets => s.onHostData ref r e octets
    | .event event => s.onHostEvent ref e event

/-! ## The end -/

/-- The exchange of a router ends, and the router with it. -/
def endRouter (s : Session σ) (ref : RouterRef) (t : Exchange.Step) : Session σ :=
  t.effects.foldl (effect ref) (s.modifyStream ref.stream (·.remember ref.slot .nothing))

/-- The stream is over: an exchange whose response is not complete is given up. -/
def destroyRouter (s : Session σ) (ref : RouterRef) : Session σ :=
  match s.router? ref with
  | none => s
  | some r =>
    match r.exchange with
    | none => s.modifyStream ref.stream (·.remember ref.slot .nothing)
    | some e =>
      let t : Exchange.Step := if e.responseComplete then { exchange := e } else e.reset
      s.endRouter ref (t.andThen Exchange.drop)

/-- The stream is dropped before it is over: its exchange is let go. -/
def dropRouter (s : Session σ) (ref : RouterRef) : Session σ :=
  match (s.router? ref).bind (·.exchange) with
  | none => s
  | some e => s.endRouter ref e.drop

end Session

end RpcProxy
