import RpcProxy.Pool.Source

/-!
# Pools with answers that are given beforehand

Each request for a connection takes the next answer of a script and makes a pool of its own, with a
connection that only takes notes. The notes tell what was written and how it was closed.
-/

set_option autoImplicit false

namespace RpcProxy

inductive PoolScript where
  /-- A connection at once. -/
  | ready
  /-- A connection later. -/
  | pending
  | fail (reason : FailureReason) (namesHost : Bool)
  /-- The connection of an earlier pool. -/
  | reuse (pool : Nat)
deriving DecidableEq, Repr, Inhabited

/-- The answer that a text stands for: a word, perhaps with a reason or the number of a pool behind a
colon. -/
def PoolScript.ofText (s : String) : PoolScript :=
  let (word, rest) := Text.cut ':' s
  match word with
  | "pending" => .pending
  | "fail" => .fail (.ofName rest) true
  | "fail_nohost" => .fail (.ofName rest) false
  | "reuse" => .reuse (rest.toNat?.getD 0)
  | _ => .ready

/-- A connection that takes notes. -/
structure NotedLink where
  /-- To whom its octets and events go. -/
  owner : Option RouterRef := none
  /-- How often somebody asked for them. -/
  attachments : Nat := 0
  /-- The state that exchanges share. -/
  state : Option LinkState := none
  /-- Whether the state is something that exchanges do not know. -/
  foreign : Bool := false
  /-- What was written since somebody last looked. -/
  written : Bytes := []
  /-- How it was closed last. -/
  closed : Option CloseType := none
deriving DecidableEq, Repr, Inhabited

/-- The state that an exchange can use. -/
def NotedLink.state? (l : NotedLink) : Option LinkState := if l.foreign then none else l.state

/-- A pool that answered one request. -/
structure ScriptedPool where
  link : LinkId
  host : HostRef
  /-- Who still waits for the connection. -/
  waiting : Option RouterRef := none
deriving DecidableEq, Repr, Inhabited

structure ScriptedPools where
  /-- The answers that are left. -/
  scripts : List PoolScript := []
  pools : List ScriptedPool := []
  /-- The connections so far, one for each pool. -/
  links : List NotedLink := []
deriving DecidableEq, Repr, Inhabited

namespace ScriptedPools

/-- The pools with one connection changed. -/
def modifyLink (p : ScriptedPools) (link : LinkId) (f : NotedLink → NotedLink) : ScriptedPools :=
  { p with links := p.links.modify link f }

/-- Asks for a connection. -/
def ask (host : HostRef) (ref : RouterRef) (p : ScriptedPools) : PoolAnswer × ScriptedPools :=
  let own := p.pools.length
  let made (link : LinkId) (waiting : Option RouterRef) : ScriptedPools :=
    { scripts := p.scripts.tail, pools := p.pools ++ [{ link, host, waiting }],
      links := p.links ++ [{}] }
  match p.scripts.headD .ready with
  | .ready => (.ready own host, made own none)
  | .pending => (.pending own, made own (some ref))
  | .fail reason namesHost => (.failure reason (if namesHost then some host else none), made own none)
  | .reuse i =>
    let link := ((p.pools[i]?).map (·.link)).getD own
    (.ready link host, made link none)

/-- Does something to a connection. -/
def perform (ref : RouterRef) (c : LinkCommand) (p : ScriptedPools) : List PoolNote × ScriptedPools :=
  match c with
  | .attach link =>
    ([], p.modifyLink link fun l => { l with owner := some ref, attachments := l.attachments + 1 })
  | .initState link state =>
    ([], p.modifyLink link fun l => { l with state := some state, foreign := false })
  | .updateState link state =>
    ([], p.modifyLink link fun l => if l.foreign then l else { l with state := some state })
  | .write link data => ([], p.modifyLink link fun l => { l with written := l.written ++ data })
  | .close link how => ([], p.modifyLink link fun l => { l with closed := some how })
  | .release link => ([.released link], p)
  | .cancel handle policy => ([.cancelled handle policy], p)

def source : PoolSource ScriptedPools where
  ask _ host ref p := let (answer, p) := p.ask host ref; (answer, [], p)
  state? link p := (p.links[link]?).bind NotedLink.state?
  perform := perform

end ScriptedPools

end RpcProxy
