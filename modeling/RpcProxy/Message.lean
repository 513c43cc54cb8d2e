import RpcProxy.Status
import RpcProxy.StringMap

/-!
# Requests and responses

A request names a service and a method; a response carries a status. Both carry properties, which
filters read and change on the way through.
-/

set_option autoImplicit false

namespace RpcProxy

/-- The properties of a message, in the order of their keys. -/
abbrev Properties := StringMap String

/-- A change of the properties of a message. -/
abbrev Change := Properties → Properties

/-- Nothing is changed. -/
abbrev Change.nothing : Change := fun p => p

/-- Properties stand for the change that sets them one after another. -/
instance : Coe (List (String × String)) Change := ⟨fun pairs p => p.insertAll pairs⟩

/-- The property that a reply repeats from its request. -/
def idKey : String := "id"

structure Request where
  service : String
  method : String
  /-- Everything else that the request says. -/
  properties : Properties := {}
deriving DecidableEq, Repr, Inhabited

/-- A response on its way to the client. -/
structure Response where
  status : Status := {}
  /-- Everything else that the response says. -/
  properties : Properties := {}
deriving DecidableEq, Repr, Inhabited

namespace Request

def get? (r : Request) (key : String) : Option String := r.properties.find? key

def set (r : Request) (key value : String) : Request :=
  { r with properties := r.properties.insert key value }

/-- The request without a property. -/
def erase (r : Request) (key : String) : Request :=
  { r with properties := r.properties.erase key }

/-- The path that is called: the property `path`, or nothing. -/
def path (r : Request) : String := (r.get? "path").getD ""

end Request

namespace Response

def get? (r : Response) (key : String) : Option String := r.properties.find? key

def set (r : Response) (key value : String) : Response :=
  { r with properties := r.properties.insert key value }

/-- The response without a property. -/
def erase (r : Response) (key : String) : Response :=
  { r with properties := r.properties.erase key }

/-- The response with properties set one after another. -/
def setAll (r : Response) (pairs : List (String × String)) : Response :=
  { r with properties := r.properties.insertAll pairs }

/-- The response with its properties changed. -/
def change (r : Response) (f : Change) : Response := { r with properties := f r.properties }

/-- Whether the connection is to be closed once the response is written. -/
def asksToClose (r : Response) : Bool := r.get? "connection" == some "close"

/-- The answer with a given status to a request, whose `id` it repeats. -/
def answering (status : Status) (origin : Request) : Response :=
  match origin.get? idKey with
  | some id => Response.set { status } idKey id
  | none => { status }

end Response

end RpcProxy
