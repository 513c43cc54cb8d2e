import RpcProxy.Codec
import RpcProxy.Filter

/-!
# Plans

A plan is what the settings of a listener come to: the codec, the routes, the filters and what is
traced. All connections of the listener work by it; a reload makes a new one for the connections
to come.
-/

set_option autoImplicit false

namespace RpcProxy

/-- How the connections of a listener work. -/
structure Plan where
  /-- The label of the listener's counters. -/
  label : String
  codec : Codec := .text
  routes : RouteTable := {}
  /-- The filters, in order. -/
  parts : List Part := []
  tracing : Option Config.Tracing := none

/-- The filters that requests pass. -/
def Plan.decoders (p : Plan) : List Part := p.parts.filter (·.side.decodes)

/-- The filters that responses pass, in the order of the settings. -/
def Plan.encoders (p : Plan) : List Part := p.parts.filter (·.side.encodes)

/-- The plan of a listener. The first fault is reported: the codec, then the routes, then the
filters in order. -/
def Plan.ofConfig (registry : FilterRegistry) (faults : FileFaults) (l : Config.Listener) :
    Except BuildError Plan := do
  let codec ← Codec.ofName l.codec
  let routes ← RouteTable.ofConfig l.routes
  let parts ← l.filters.mapM (registry.build faults)
  return { label := l.label, codec, routes, parts := parts.flatten, tracing := l.tracing }

/-- Whether some route of a listener sends requests to a cluster. -/
def Config.Listener.routesToCluster (l : Config.Listener) : Bool :=
  l.routes.any fun r => r.cluster.isSome && r.directResponse.isNone

/-- The listener with a router behind its other filters, if its routes need one and it has none. -/
def Config.Listener.withRouter (l : Config.Listener) : Config.Listener :=
  if l.routesToCluster && !l.filters.any (·.name == routerName) then
    { l with filters := l.filters ++ [{ name := routerName }] }
  else l

end RpcProxy
