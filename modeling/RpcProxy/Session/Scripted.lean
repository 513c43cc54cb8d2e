import RpcProxy.Pool.Scripted
import RpcProxy.Session.Run

/-!
# Sessions whose pools answer by script

What a pool with a script is made to do later: to give the connection that somebody waits for or to
refuse it, and to pass on what comes from the host. All of it reaches the router as a task.
-/

set_option autoImplicit false

namespace RpcProxy.Session

/-- The router that waits for the connection of a pool, if it is still there. -/
def waiting? (s : Session ScriptedPools) (p : ScriptedPool) : Option RouterRef :=
  p.waiting.filter fun ref => (s.router? ref).isSome

/-- Answers the router that waits for the connection of a pool. Tells whether there was one. -/
def answerWaiting (s : Session ScriptedPools) (i : Nat) (p : ScriptedPool) (d : Delivery) :
    Bool × Session ScriptedPools :=
  let pools := s.side.pools
  let pools := { pools with pools := pools.pools.modify i fun p => { p with waiting := none } }
  let s' := { s with side := { s.side with pools } }
  match s.waiting? p with
  | some ref => (true, s'.step (.deliver ref d))
  | none => (false, s')

/-- Passes something on that comes from the host of a pool. Tells whether somebody listens. -/
def hostSays (s : Session ScriptedPools) (p : ScriptedPool) (d : Delivery) :
    Bool × Session ScriptedPools :=
  match ((s.side.pools.links[p.link]?).bind (·.owner)).filter fun ref => (s.router? ref).isSome with
  | some ref => (true, s.step (.deliver ref d))
  | none => (false, s)

/-- The session after somebody looked at the hosts of its first clusters. -/
def lookAtHosts (s : Session ScriptedPools) : Session ScriptedPools :=
  let look (cs : Clusters) : Clusters := { cs with list := cs.list.map (·.look s.now) }
  { s with side := { s.side with generations := s.side.generations.modify 0 look } }

/-- The session with what was written to connections taken away. -/
def takeWritten (s : Session ScriptedPools) : Session ScriptedPools :=
  let pools := s.side.pools
  let pools := { pools with links := pools.links.map fun l => { l with written := [] } }
  { s with side := { s.side with pools } }

end RpcProxy.Session
