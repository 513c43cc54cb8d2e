import RpcProxy.BuildError
import RpcProxy.Config.Basic
import RpcProxy.Message

/-!
# Routes

A route table is a list of routes with the requests each is for. The first route that matches a
request decides where the request goes: to a cluster, or nowhere because the route answers it.
-/

set_option autoImplicit false

namespace RpcProxy

/-- Where a matched request goes. -/
structure Route where
  name : String
  /-- The cluster that requests go to. -/
  cluster : Option String := none
  /-- The answer that the route gives by itself. -/
  direct : Option Status := none
  /-- Anything else worth saying. -/
  metadata : StringMap String := {}
deriving DecidableEq, Repr, Inhabited

/-- The requests that a route is for; what is not given matches anything. -/
structure RouteMatch where
  service : Option String := none
  method : Option String := none
  /-- Properties that the request must have, with these values. -/
  properties : StringMap String := {}
deriving DecidableEq, Repr, Inhabited

def RouteMatch.matches (m : RouteMatch) (r : Request) : Bool :=
  m.service.all (· == r.service) && m.method.all (· == r.method) &&
    m.properties.toList.all fun (key, value) => r.get? key == some value

/-- The routes of a listener, in order. -/
structure RouteTable where
  routes : List (RouteMatch × Route) := []
deriving DecidableEq, Repr, Inhabited

namespace RouteTable

def size (t : RouteTable) : Nat := t.routes.length

/-- The table with a route behind all others. -/
def add (t : RouteTable) (m : RouteMatch) (r : Route) : RouteTable := ⟨t.routes ++ [(m, r)]⟩

/-- The first route that matches a request. -/
def find? (t : RouteTable) (r : Request) : Option Route :=
  (t.routes.find? fun (m, _) => m.matches r).map (·.2)

end RouteTable

/-- The answer that a route's settings give. -/
def Status.ofConfig (d : Config.DirectResponse) : Except BuildError Status :=
  match StatusCode.ofName? d.status with
  | some code => .ok { code, message := d.message }
  | none => .error (.invalidStatus d.status)

def Route.ofConfig (c : Config.Route) : Except BuildError Route := do
  let direct ← match c.directResponse with
    | some d => do pure (some (← Status.ofConfig d))
    | none => pure none
  return { name := c.name, cluster := c.cluster, direct, metadata := c.metadata }

/-- The requests that a route is for, from its settings. -/
def RouteMatch.ofConfig (c : Config.Route) : RouteMatch :=
  { service := c.service, method := c.method, properties := c.properties }

def RouteTable.ofConfig (cs : List Config.Route) : Except BuildError RouteTable := do
  let routes ← cs.mapM fun c => do pure (RouteMatch.ofConfig c, ← Route.ofConfig c)
  return { routes }

end RpcProxy
