import RpcProxy.CommandLine.Program
import RpcProxy.Report.Session
import RpcProxy.Server.Traffic
import Std.Async.DNS
import Std.Async.Signal
import Std.Async.TCP
import Std.Async.Timer
import Std.Sync.Channel

/-!
# The program on a machine

Sockets, timers and signals put notices into one inbox. A single loop takes them out, turns each into
a `Happening`, and carries out what follows: replies to clients, orders for sockets, lines to log.
Nothing is decided here.
-/

set_option autoImplicit false

open RpcProxy
open Std.Async (Async AsyncTask)
open Std.Async.TCP (Socket.Client Socket.Server)

namespace RpcProxy.Machine

/-! ## What the loop is told -/

inductive Notice where
  | accepted (listener : Nat) (socket : Socket.Client)
  /-- An attempt to connect to a host is over. -/
  | connected (handle : HandleId) (result : Except FailureReason Socket.Client)
  /-- Anything else that happens to sockets. -/
  | happened (h : Happening)
  /-- It is time to look at what changes by itself. -/
  | tick
  /-- The operator wants the process to stop. -/
  | interrupted
  /-- Some milliseconds were waited for clients to leave. -/
  | waited (millis : Nat)

instance : Inhabited Notice := ⟨.tick⟩

abbrev Inbox := Std.Channel Notice

def tell (inbox : Inbox) (n : Notice) : BaseIO Unit := do
  let _ ← inbox.send n

/-- Does something in the background, and something else with its result. -/
def later {α : Type} (x : Async α) (next : Except IO.Error α → BaseIO Unit) : IO Unit := do
  let task : AsyncTask α ← x.asTask
  let _ ← BaseIO.mapTask next task

/-- Leaves a notice every so many milliseconds. -/
partial def tickEvery (inbox : Inbox) (millis : Nat) : BaseIO Unit := do
  let wait : IO Unit := later (Std.Async.sleep (.ofNat millis)) fun _ => do
    tell inbox .tick
    tickEvery inbox millis
  let _ ← wait.toBaseIO

/-! ## Sockets -/

/-- The number of an error, whichever sign it was given. -/
def unsigned (code : UInt32) : Nat :=
  if code.toNat < UInt32.size / 2 then code.toNat else UInt32.size - code.toNat

def numbered (text : String) (code : UInt32) : String :=
  text ++ " (os error " ++ toString (unsigned code) ++ ")"

/-- The wording of what the system says. -/
def wording : IO.Error → String
  | .noFileOrDirectory _ code _ => numbered "No such file or directory" code
  | .permissionDenied _ code _ => numbered "Permission denied" code
  | .inappropriateType _ code _ => numbered "Is a directory" code
  | .resourceBusy code _ => numbered "Address already in use" code
  | e => toString e

/-- What a failure to connect means: a host that refuses or drops the connection fails on its side. -/
def reasonOf : IO.Error → FailureReason
  | .timeExpired _ _ => .timeout
  | .resourceVanished code _ | .noSuchThing _ code _ | .otherError code _ =>
    if [103, 104, 111].contains (unsigned code) then .remoteFailure else .localFailure
  | _ => .localFailure

def resolve (a : Address) : IO Std.Net.SocketAddress := do
  let number := a.number.toUInt16
  let bare := String.ofList (a.host.toList.filter fun c => c != '[' && c != ']')
  match Std.Net.IPv4Addr.ofString bare, Std.Net.IPv6Addr.ofString bare with
  | some v4, _ => return .v4 ⟨v4, number⟩
  | none, some v6 => return .v6 ⟨v6, number⟩
  | none, none =>
    let found : Array Std.Net.IPAddr ← (Std.Async.DNS.getAddrInfo a.host "").block
    match found.toList.head? with
    | some (.v4 v4) => return .v4 ⟨v4, number⟩
    | some (.v6 v6) => return .v6 ⟨v6, number⟩
    | none => throw (IO.userError "failed to lookup address information")

/-- Takes clients in, one after another. -/
partial def acceptAll (inbox : Inbox) (listener : Nat) (socket : Socket.Server) : BaseIO Unit := do
  let next : IO Unit := later socket.accept fun
    | .ok client => do
      tell inbox (.accepted listener client)
      acceptAll inbox listener socket
    | .error _ => acceptAll inbox listener socket
  let _ ← next.toBaseIO

/-- Binds a listener and takes its clients in. -/
def listen (inbox : Inbox) (listener : Nat) (address : Address) : IO Unit := do
  let socket ← Socket.Server.mk
  socket.bind (← resolve address)
  socket.listen 1024
  acceptAll inbox listener socket

/-- How many octets are read at a time. -/
def readSize : UInt64 := 16384

partial def readAll (inbox : Inbox) (socket : Socket.Client) (onData : Bytes → Happening)
    (onEnd : Happening) : BaseIO Unit := do
  let next : IO Unit := later (socket.recv? readSize) fun
    | .ok (some octets) => do
      tell inbox (.happened (onData octets.toList))
      readAll inbox socket onData onEnd
    | _ => tell inbox (.happened onEnd)
  let _ ← next.toBaseIO

/-- Sends octets, and closes the sending side behind them if they are the last. -/
def send (inbox : Inbox) (socket : Socket.Client) (octets : Bytes) (isLast : Bool)
    (onFailure : Happening) : IO Unit := do
  let work : Async Unit := do
    if !octets.isEmpty then socket.send ⟨octets.toArray⟩
    if isLast then socket.shutdown
  later work fun
    | .ok _ => pure ()
    | .error _ => tell inbox (.happened onFailure)

def stopReading (socket : Socket.Client) : IO Unit := do
  try socket.native.cancelRecv catch _ => pure ()

/-- Tries to connect to a host, for so many seconds. -/
def connect (inbox : Inbox) (handle : HandleId) (address : String) (timeout : Nat) : IO Unit := do
  let attempt : Async Notice := do
    try
      match Address.parse address with
      | .error _ => return .connected handle (.error .localFailure)
      | .ok a =>
        let socket ← Socket.Client.mk
        socket.connect (← resolve a)
        return .connected handle (.ok socket)
    catch e => return .connected handle (.error (reasonOf e))
  let limit : Async Notice := do
    Std.Async.sleep (.ofNat (timeout * 1000))
    return .connected handle (.error .timeout)
  later (Async.race attempt limit) fun
    | .ok n => tell inbox n
    | .error e => tell inbox (.connected handle (.error (reasonOf e)))

/-! ## Files -/

/-- The octets of a file, or what the system says. -/
def readFile (path : String) : IO (Except String Bytes) := do
  try return .ok (← IO.FS.readBinFile path).toList
  catch e => return .error (wording e)

/-- What is wrong with the files that a configuration writes to. -/
def probe (c : Config) : IO FileFaults := do
  let found ← c.outputFiles.mapM fun (path : String) => do
    try
      let _ ← IO.FS.Handle.mk path .append
      return (path, none)
    catch e => return (path, some (wording e))
  return fun path => (found.lookup path).getD none

/-! ## The loop -/

/-- What the loop keeps. -/
structure Running where
  /-- Where notices come from. -/
  inbox : Inbox
  /-- The server with its clients. -/
  traffic : Traffic
  clients : Array Socket.Client := #[]
  /-- The sockets of the connections to hosts, by number. -/
  links : Array Socket.Client := #[]
  level : LogLevel
  /-- The configuration file, if it is watched. -/
  watched : Option String
  /-- What the file held when it was read last. -/
  content : Except String Bytes
  /-- Tells when the file has changed. -/
  watcher : Config.Watcher
  /-- Reads it anew. -/
  reloader : Config.Reloader
  /-- How long clients may take to leave, in milliseconds. -/
  grace : Nat

/-- Logs a line. -/
def Running.say (r : Running) (text : String) : IO Unit := do
  if r.level.shows .info then
    IO.println ((Civil.ofNanos r.traffic.clock.wall).stampText ++ "  INFO " ++ text)

/-- Writes what was logged, to the log or to a file. -/
def Running.writeLog (r : Running) : IO Running := do
  let (events, traffic) := r.traffic.takeLog
  for e in events do
    match e with
    | .access (some file) line =>
      try IO.FS.withFile file .append fun h => h.putStrLn line
      catch _ => pure ()
    | .pool _ => pure ()
    | e => for line in Report.logLines false e do r.say line
  return { r with traffic }

def Running.carryOut (r : Running) : IO Running := do
  let (orders, traffic) := r.traffic.takeOrders
  for o in orders do
    match o with
    | .connect handle address timeout => connect r.inbox handle address timeout
    | .send link octets =>
      match r.links[link]? with
      | some socket => send r.inbox socket octets false (.hostClosed link .localClose)
      | none => pure ()
    | .close link how =>
      match r.links[link]? with
      | some socket =>
        if how = .flush then send r.inbox socket [] true (.hostClosed link .localClose)
        stopReading socket
      | none => pure ()
  return { r with traffic }

def Running.step (r : Running) (faults : FileFaults) (h : Happening) : IO Running := do
  let (reply, traffic) := r.traffic.step faults h
  match reply with
  | none => pure ()
  | some reply =>
    match r.clients[reply.client]? with
    | none => pure ()
    | some socket =>
      if !reply.octets.isEmpty || reply.isLast then
        send r.inbox socket reply.octets reply.isLast (.woken reply.client .ended true)
      if reply.isLast then stopReading socket
  return { r with traffic }

/-- Everything that waits in sessions is done. -/
def Running.settle (r : Running) : IO Running := do
  let r ← r.traffic.busy.foldlM (fun r i => r.step (fun _ => none) (.woken i .work true)) r
  (← r.carryOut).writeLog

/-- Looks whether the configuration file has changed, and takes the new one up. -/
def Running.look (r : Running) : IO Running := do
  match r.watched with
  | none => return r
  | some path =>
    let content ← readFile path
    let isSame := match content, r.content with
      | .ok a, .ok b => a == b
      | .error _, .error _ => true
      | _, _ => false
    let watcher := if isSame then r.watcher else r.watcher.notice (.seen .modify [path])
    let (fires, watcher) := watcher.poll r.traffic.clock.monotonic
    let r := { r with content, watcher }
    if !fires then return r
    else
      let (update, reloader) := r.reloader.reload content.toOption
      match update with
      | none => return { r with reloader }
      | some u =>
        let r := { r with reloader }
        r.step (← probe u.config) (.update u)

/-- Takes a notice up. -/
def Running.take (r : Running) (n : Notice) : IO Running := do
  let none' : FileFaults := fun _ => none
  match n with
  | .accepted listener socket =>
    let i := r.traffic.clients.length
    let r ← r.step none' (.accepted listener)
    if r.traffic.clients.length = i then return r
    else
      readAll r.inbox socket (fun octets => .woken i (.octets octets) true) (.woken i .ended true)
      return { r with clients := r.clients.push socket }
  | .connected handle (.error reason) => r.step none' (.connected handle (.failed reason))
  | .connected handle (.ok socket) =>
    let link := r.traffic.server.side.pools.links.length
    let r ← r.step none' (.connected handle .connected)
    if r.traffic.server.side.pools.links.length = link then return r
    else
      readAll r.inbox socket (.hostData link) (.hostClosed link .remoteClose)
      return { r with links := r.links.push socket }
  | .happened h => r.step none' h
  | .tick =>
    let r ← (List.range r.traffic.clients.length).foldlM
      (fun r i => r.step none' (.woken i .tick true)) r
    r.look
  | .interrupted =>
    tell r.inbox (.waited 0)
    r.step none' .drain
  | .waited _ => return r

/-- Whether the process may stop after waiting so many milliseconds. -/
def Running.mayStop (r : Running) (waited : Nat) : Bool :=
  waited ≥ r.grace ||
    r.traffic.server.listeners.all fun h => h.stats.activeConnections.value == 0

/-- Takes notices up until the process may stop. -/
partial def Running.loop (r : Running) (before : Nat) : IO UInt32 := do
  let n ← IO.wait (← r.inbox.recv)
  let now ← IO.monoNanosNow
  let traffic := (r.traffic.step (fun _ => none) (.advance (now - before))).2
  let roll := Float.ofNat (← IO.rand 0 999999) / 1000000
  let r ← { r with traffic := { traffic with roll } }.take n
  let r ← r.settle
  match n with
  | .waited millis =>
    if r.mayStop millis then return 0
    else
      later (Std.Async.sleep (.ofNat drainInterval)) fun _ =>
        tell r.inbox (.waited (millis + drainInterval))
      r.loop now
  | _ => r.loop now

/-! ## The start -/

/-- How often the loop looks at what changes by itself, in milliseconds. -/
def tickMillis : Nat := 250

/-- Binds the listeners of a server in order. -/
def bindAll (inbox : Inbox) (listeners : List ListenerHandle) : IO (Option BindFailure) := do
  for (h, i) in listeners.zipIdx do
    let failure (reason : String) : Option BindFailure :=
      some { listener := h.name, address := h.address, reason }
    match Address.parse h.address with
    | .error e => return failure e.message
    | .ok address =>
      try listen inbox i address
      catch e => return failure (wording e)
  return none

/-- Prints what a program leaves behind. -/
def finish (o : CommandLine.Outcome) : IO UInt32 := do
  o.output.forM IO.println
  o.errors.forM IO.eprintln
  return o.code.toUInt32

/-- Serves until somebody stops the process. -/
def serve (invocation : CommandLine.Invocation) (config : Config) (level : LogLevel)
    (server : Server) (content : Except String Bytes) (now : Instant) : IO UInt32 := do
  let inbox : Inbox ← Std.Channel.new none
  match ← bindAll inbox server.listeners with
  | some failure => finish (CommandLine.served config (some failure))
  | none =>
    let _ ← finish (CommandLine.served config none)
    if server.listeners.isEmpty then return 0
    else
      let wall := (← Std.Time.Timestamp.now).toNanosecondsSinceUnixEpoch.val
      let r : Running :=
        { inbox, level, content
          traffic := { server, clock := { monotonic := now, wall } }
          watched := if invocation.watch then some invocation.path else none
          watcher := { path := invocation.path }
          reloader := { current := config }
          grace := config.global.gracePeriod * 1000 }
      for h in server.listeners do
        r.say ("Listening listener=" ++ h.name ++ " address=" ++ h.address)
      let signal ← Std.Async.Signal.Waiter.mk .sigint false
      let interrupt : AsyncTask Int ← signal.wait
      let _ ← BaseIO.mapTask (fun _ => tell inbox .interrupted) interrupt
      tickEvery inbox tickMillis
      r.loop now

end RpcProxy.Machine

open RpcProxy.Machine in
/-- Runs the program. -/
def main (words : List String) : IO UInt32 := do
  let content ← match CommandLine.Invocation.ofWords words with
    | .ok invocation => readFile invocation.path
    | .error _ => pure (.error "")
  let read : CommandLine.FileReader := fun _ => content
  let faults ← match CommandLine.load read "" with
    | .ok c => probe c
    | .error _ => pure fun _ => none
  let now ← IO.monoNanosNow
  match CommandLine.start read faults now words with
  | .ended outcome => finish outcome
  | .serving invocation config level server => serve invocation config level server content now
